import MonkeySyntax.Parsing.StatementList
import MonkeySyntax.Tree.Text

/-!
# The parser

`Inner.level n` reads expressions and blocks that may nest `n` deep. The parser of a state uses the
level for the nesting that is still allowed there, so the limit on nesting is also what makes
parsing end. The height of the tower and the check in `ParseM.nested` never disagree: the theorems
`expression_eq` and `block_eq` show that what reads expressions and blocks calls itself behind that
check and nothing else.
-/

namespace MonkeySyntax

/-- The reader of expressions and blocks that nest at most `n` deep. Level 0 is only come to where
the check in `ParseM.nested` is in the way as well. -/
def Inner.level : Nat → Inner
  | 0 =>
    { expression := fun _ s => ParseM.tooDeep s
      block := fun s => ParseM.tooDeep s }
  | n + 1 =>
    { expression := fun least s => ParseM.nested (ParseM.expressionBody (level n) least) s
      block := fun s => ParseM.nested (ParseM.blockBody (level n)) s }

def ParseState.inner (s : ParseState) : Inner := .level s.headroom

namespace ParseM

/-- Runs a step with the reader for what may still be nested here. -/
def withInner {α : Type} (step : Inner → ParseM α) : ParseM α := fun s => step s.inner s

/-- Reads an expression all of whose operators bind tighter than `least`. -/
def expression (least : Precedence) : ParseM Expr := withInner fun inner => inner.expression least

def block : ParseM Block := withInner fun inner => inner.block

end ParseM

/-- Reads statements up to the end of the source, recording the faults on the way. -/
def ParseState.program (s : ParseState) : Program × ParseState :=
  let (statements, s) := s.programStatements s.inner s.remaining
  (⟨statements⟩, s)

/-- A program, the faults of its source, and what the parser did. -/
structure Parsed where
  program : Program
  faults : List Fault
  log : List Event

def defaultMaxDepth : Nat := 128

/-- Parses as much of a source as can be understood. -/
def parse (maxDepth : Nat) (source : String) : Parsed :=
  let (program, s) := (ParseState.start maxDepth source).program
  ⟨program, s.faults, s.log⟩

/-- The program of a source without faults, or else all its faults. -/
def Parsed.result (parsed : Parsed) : Except (List Fault) Program :=
  if parsed.faults.isEmpty then .ok parsed.program else .error parsed.faults

/-- Parses a source, then the text of its program, and so on for the given number of rounds. -/
def reparse : Nat → String → List Parsed
  | 0, _ => []
  | rounds + 1, source =>
    let parsed := parse defaultMaxDepth source
    parsed :: reparse rounds parsed.program.text

end MonkeySyntax
