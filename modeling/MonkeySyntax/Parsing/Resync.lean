import MonkeySyntax.Parsing.State

/-!
# Skipping a statement that was given up

`ParseState.resync` looks for the end of the statement in the list whose braces are `level` deep, so
that what follows is read as the next statement of the same list and of no other.
-/

namespace MonkeySyntax

/-- Whether a token of this kind ends, in a list at `level`, a statement begun before it. -/
def TokenKind.endsBefore (level : Nat) : TokenKind → Bool
  | .kwLet | .kwReturn | .eof => true
  | .rightBrace => 0 < level
  | _ => false

namespace ParseState

/-- Moves to the last token of the statement. The answer is whether that token is already the brace
that closes the list. -/
def resync (level : Nat) (s : ParseState) : Bool × ParseState :=
  if s.current.kind = .eof then (false, s)
  else if s.current.kind = .rightBrace ∧ s.braces < level then (true, s)
  else if s.braces = level ∧ (s.current.kind = .semicolon ∨ s.peek.kind.endsBefore level) then
    (false, s)
  else resync level s.advance
termination_by s.remaining
decreasing_by exact remaining_advance_lt ‹_›

end ParseState

end MonkeySyntax
