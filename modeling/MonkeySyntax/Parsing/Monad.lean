import MonkeySyntax.Parsing.State

/-!
# Parsing steps

A parsing step either yields a value or gives up with a `Fault`; in both cases the tokens it passed
stay passed.
-/

namespace MonkeySyntax

abbrev ParseM := EStateM Fault ParseState

namespace ParseM

def advance : ParseM Unit := modify ParseState.advance

def current : ParseM Token := return (← get).current

def peek : ParseM Token := return (← get).peek

/-- Moves on if the next token has the kind; otherwise nothing moves and that is the fault. -/
def expectPeek (kind : TokenKind) : ParseM Unit := fun s =>
  if s.peek.kind = kind then .ok () s.advance else .error (s.peekFault kind) s

/-- Moves on if the next token is a semicolon. -/
def skipSemicolon : ParseM Unit := do
  if (← peek).kind = .semicolon then advance

/-- Gives up because no deeper nesting is allowed here. -/
def tooDeep {α : Type} : ParseM α := fun s => .error (.tooDeep s.maxDepth s.current.span) s

/-- Runs a step one level deeper, and comes back up whether it succeeds or not. This is where the
limit on nesting is checked; that the levels of an `Inner` run out there too, and no sooner, is what
`expression_eq` and `block_eq` say. -/
def nested {α : Type} (step : ParseM α) : ParseM α := fun s =>
  if s.maxDepth ≤ s.depth then tooDeep s
  else
    match step s.enter with
    | .ok value s => .ok value s.leave
    | .error fault s => .error fault s.leave

end ParseM

end MonkeySyntax
