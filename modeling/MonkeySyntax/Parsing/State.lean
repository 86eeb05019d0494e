import MonkeySyntax.Parsing.Fault
import MonkeySyntax.Token.Lexer

/-!
# The parser's view of the source

A `ParseState` sees two tokens, `current` and `peek`, and only ever moves forward, by `advance`. It
also carries the faults recorded so far, how deep expressions and blocks are nested, and how many
braces are open at `current`.
-/

namespace MonkeySyntax

/-- What a parser does that a log can show. -/
inductive Event where
  | moved (current peek : Token)
  | abandoned (fault : Fault)
deriving DecidableEq, Repr

structure ParseState where
  lexer : Lexer
  current : Token
  peek : Token
  faults : List Fault
  maxDepth : Nat
  depth : Nat
  braces : Nat
  /-- What happened so far, latest first. -/
  history : List Event

/-- The number of open braces after a token of this kind; a stray closing brace closes nothing. -/
def bracesAfter (braces : Nat) : TokenKind → Nat
  | .leftBrace => braces + 1
  | .rightBrace => braces - 1
  | _ => braces

/-- What a token of this kind adds to the work ahead: the end marker is never passed. -/
def TokenKind.weight : TokenKind → Nat
  | .eof => 0
  | _ => 1

theorem TokenKind.weight_of_ne {kind : TokenKind} (h : kind ≠ .eof) : kind.weight = 1 := by
  cases kind <;> simp_all [weight]

namespace ParseState

def advance (s : ParseState) : ParseState :=
  { s with
    lexer := s.lexer.next.2
    current := s.peek
    peek := s.lexer.next.1
    braces := bracesAfter s.braces s.peek.kind
    history := .moved s.peek s.lexer.next.1 :: s.history }

/-- The parser of a source, on its first token. -/
def start (maxDepth : Nat) (source : String) : ParseState :=
  let blank : ParseState :=
    { lexer := .ofSource source
      current := .fixed .eof .zero
      peek := .fixed .eof .zero
      faults := []
      maxDepth
      depth := 0
      braces := 0
      history := [] }
  blank.advance.advance

/-- Notes a fault for which a statement is given up. -/
def record (s : ParseState) (fault : Fault) : ParseState :=
  { s with faults := s.faults ++ [fault], history := .abandoned fault :: s.history }

def enter (s : ParseState) : ParseState := { s with depth := s.depth + 1 }

def leave (s : ParseState) : ParseState := { s with depth := s.depth - 1 }

/-- How many more expressions and blocks may be opened inside each other. -/
def headroom (s : ParseState) : Nat := s.maxDepth - s.depth

/-- The fault of finding something other than `expected` after the current token. -/
def peekFault (s : ParseState) (expected : TokenKind) : Fault :=
  if s.peek.kind = .eof then .unexpectedEnd expected s.peek.span
  else .unexpectedToken expected s.peek.kind s.peek.literal s.peek.span

/-- The events so far, earliest first. -/
def log (s : ParseState) : List Event := s.history.reverse

/-- A bound on the tokens still to be passed. -/
def remaining (s : ParseState) : Nat :=
  s.lexer.rest.length + s.peek.kind.weight + s.current.kind.weight

@[simp]
theorem current_advance (s : ParseState) : s.advance.current = s.peek := rfl

@[simp]
theorem faults_advance (s : ParseState) : s.advance.faults = s.faults := rfl

@[simp]
theorem depth_advance (s : ParseState) : s.advance.depth = s.depth := rfl

@[simp]
theorem maxDepth_advance (s : ParseState) : s.advance.maxDepth = s.maxDepth := rfl

@[simp]
theorem braces_advance (s : ParseState) :
    s.advance.braces = bracesAfter s.braces s.peek.kind := rfl

/-- Moving on from a token other than the end marker leaves less of the source to pass. -/
theorem remaining_advance_lt {s : ParseState} (h : s.current.kind ≠ .eof) :
    s.advance.remaining < s.remaining := by
  have hle := s.lexer.next_rest_length_le
  simp only [remaining, advance, TokenKind.weight_of_ne h]
  by_cases heof : s.lexer.next.1.kind = .eof
  · simp only [heof, TokenKind.weight]
    omega
  · have hlt := Lexer.next_rest_length_lt heof
    simp only [TokenKind.weight_of_ne heof]
    omega

end ParseState

end MonkeySyntax
