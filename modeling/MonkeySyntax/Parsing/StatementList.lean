import MonkeySyntax.Parsing.Expression
import MonkeySyntax.Parsing.Resync

/-!
# Statements, and lists of them

A statement reader starts on the first token of a statement and ends on its last. A block and a
program are lists of statements. In both, the fault of a statement is recorded, the statement is
skipped and left out, and reading goes on with the next one.
-/

namespace MonkeySyntax

namespace ParseM

def letStatement (inner : Inner) : ParseM Statement := do
  let token ← current
  expectPeek .identifier
  let name := Identifier.ofToken (← current)
  expectPeek .assign
  advance
  let value ← inner.expression .lowest
  skipSemicolon
  return .binding token name value

def returnStatement (inner : Inner) : ParseM Statement := do
  let token ← current
  match (← peek).kind with
  | .semicolon | .rightBrace | .eof =>
    skipSemicolon
    return .result token none
  | _ =>
    advance
    let value ← inner.expression .lowest
    skipSemicolon
    return .result token (some value)

def expressionStatement (inner : Inner) : ParseM Statement := do
  let token ← current
  let expr ← inner.expression .lowest
  skipSemicolon
  return .expression token expr

/-- The statement at the current token; a lone semicolon is an empty one. -/
def statement (inner : Inner) : ParseM (Option Statement) := do
  match (← current).kind with
  | .kwLet => return some (← letStatement inner)
  | .kwReturn => return some (← returnStatement inner)
  | .semicolon => return none
  | _ => return some (← expressionStatement inner)

/-- The statements up to the brace that closes the block. -/
def blockStatements (inner : Inner) (level : Nat) : Nat → ParseM (List Statement)
  | 0 => fun s => .error (.unexpectedEnd .rightBrace s.current.span) s
  | steps + 1 => fun s =>
    if s.current.kind = .rightBrace then .ok [] s
    else if s.current.kind = .eof then .error (.unexpectedEnd .rightBrace s.current.span) s
    else
      match statement inner s with
      | .ok found s => ((found.toList ++ ·) <$> blockStatements inner level steps) s.advance
      | .error fault s =>
        match (s.record fault).resync level with
        | (true, s) => .ok [] s
        | (false, s) => blockStatements inner level steps s.advance

def blockBody (inner : Inner) : ParseM Block := do
  let s ← get
  advance
  return .mk s.current (← blockStatements inner s.braces (← get).remaining)

end ParseM

namespace ParseState

/-- The statements up to the end of the source. -/
def programStatements (inner : Inner) : Nat → ParseState → List Statement × ParseState
  | 0, s => ([], s)
  | steps + 1, s =>
    if s.current.kind = .eof then ([], s)
    else
      match ParseM.statement inner s with
      | .ok found s =>
        let (rest, s) := programStatements inner steps s.advance
        (found.toList ++ rest, s)
      | .error fault s => programStatements inner steps ((s.record fault).resync 0).2.advance

end ParseState

end MonkeySyntax
