import MonkeySyntax.Parsing.Monad
import MonkeySyntax.Parsing.Precedence
import MonkeySyntax.Text.Decimal
import MonkeySyntax.Tree.Basic

/-!
# Expressions

A token may start an expression, by its `StartRule`, and may continue one that is already read, by
its `ContinueRule`. An expression is a start and then as many continuations as bind tighter than
what surrounds it.

Rules read smaller expressions and blocks through an `Inner`, the reader of whatever lies one level
of nesting further in.
-/

namespace MonkeySyntax

structure Inner where
  expression : Precedence → ParseM Expr
  block : ParseM Block

inductive StartRule where
  | identifier | integer | boolean | unary (operator : UnaryOp) | group | conditional | function
deriving DecidableEq, Repr

inductive ContinueRule where
  | binary (operator : BinaryOp) | call
deriving DecidableEq, Repr

def StartRule.ofKind? : TokenKind → Option StartRule
  | .identifier => some identifier
  | .integer => some integer
  | .kwTrue | .kwFalse => some boolean
  | .bang => some (unary .bang)
  | .minus => some (unary .minus)
  | .leftParen => some group
  | .kwIf => some conditional
  | .kwFn => some function
  | _ => none

def ContinueRule.ofKind? : TokenKind → Option ContinueRule
  | .plus => some (binary .plus)
  | .minus => some (binary .minus)
  | .star => some (binary .multiply)
  | .slash => some (binary .divide)
  | .less => some (binary .less)
  | .greater => some (binary .greater)
  | .equal => some (binary .equal)
  | .notEqual => some (binary .notEqual)
  | .leftParen => some call
  | _ => none

theorem StartRule.ofKind?_eq_unary_iff {kind : TokenKind} {operator : UnaryOp} :
    ofKind? kind = some (unary operator) ↔ UnaryOp.ofKind? kind = some operator := by
  cases kind <;> simp [ofKind?, UnaryOp.ofKind?]

theorem StartRule.ofKind?_eq_integer_iff {kind : TokenKind} :
    ofKind? kind = some integer ↔ kind = .integer := by
  cases kind <;> simp [ofKind?]

theorem ContinueRule.ofKind?_eq_call_iff {kind : TokenKind} :
    ofKind? kind = some call ↔ kind = .leftParen := by
  cases kind <;> simp [ofKind?]

theorem ContinueRule.ofKind?_eq_binary_iff {kind : TokenKind} {operator : BinaryOp} :
    ofKind? kind = some (binary operator) ↔ BinaryOp.ofKind? kind = some operator := by
  cases kind <;> simp [ofKind?, BinaryOp.ofKind?]

/-- The number that an integer token stands for, unless it has more than 63 bits. Tokens of other
kinds are not read as numbers by their text either (`Token.integer?_eq_decimal?`). -/
def Token.integer? (token : Token) : Option Int64 :=
  if token.kind = .integer ∧ decimalValue token.literal ≤ maxInteger then
    some (.ofNat (decimalValue token.literal))
  else none

section Integers

variable {token : Token}

theorem Token.integer?_of_le (hkind : token.kind = .integer)
    (h : decimalValue token.literal ≤ maxInteger) :
    token.integer? = some (.ofNat (decimalValue token.literal)) :=
  if_pos ⟨hkind, h⟩

theorem Token.integer?_eq_some_iff {value : Int64} : token.integer? = some value ↔
    token.kind = .integer ∧ decimalValue token.literal ≤ maxInteger ∧
      value = .ofNat (decimalValue token.literal) := by
  simp [integer?, and_assoc, eq_comm]

theorem Token.lt_of_integer?_eq_none (hkind : token.kind = .integer) (h : token.integer? = none) :
    maxInteger < decimalValue token.literal := by
  refine Nat.lt_of_not_le fun hle => ?_
  rw [integer?_of_le hkind hle] at h
  cases h

end Integers

namespace ParseM

def integerLiteral : ParseM Expr := do
  let token ← current
  match token.integer? with
  | some value => return .integer token value
  | none => throw (.integerTooLarge token.literal token.span)

/-- Operand of a unary operator, the current token. -/
def unaryRest (inner : Inner) (operator : UnaryOp) : ParseM Expr := do
  let token ← current
  advance
  return .unary token operator (← inner.expression .unary)

/-- From an opening parenthesis to the closing one. -/
def groupRest (inner : Inner) : ParseM Expr := do
  advance
  let expr ← inner.expression .lowest
  expectPeek .rightParen
  return expr

def braced (inner : Inner) : ParseM Block := do
  expectPeek .leftBrace
  inner.block

def elseBranch (inner : Inner) : ParseM (Option Block) := do
  if (← peek).kind = .kwElse then
    advance
    return some (← braced inner)
  else return none

def conditionalRest (inner : Inner) : ParseM Expr := do
  let token ← current
  expectPeek .leftParen
  let condition ← groupRest inner
  let consequence ← braced inner
  return .conditional token condition consequence (← elseBranch inner)

def parameter : ParseM Identifier := do
  expectPeek .identifier
  return .ofToken (← current)

/-- Parameters after the first, each behind a comma. -/
def moreParameters : Nat → ParseM (List Identifier)
  | 0 => return []
  | steps + 1 => do
    if (← peek).kind = .comma then
      advance
      let first ← parameter
      return first :: (← moreParameters steps)
    else return []

/-- From the opening parenthesis of a parameter list to the closing one. -/
def parameters : ParseM (List Identifier) := do
  if (← peek).kind = .rightParen then
    advance
    return []
  else
    let first ← parameter
    let rest ← moreParameters (← get).remaining
    expectPeek .rightParen
    return first :: rest

def functionRest (inner : Inner) : ParseM Expr := do
  let token ← current
  expectPeek .leftParen
  let names ← parameters
  return .function token names (← braced inner)

/-- Right operand of a binary operator, the current token. -/
def binaryRest (inner : Inner) (left : Expr) (operator : BinaryOp) : ParseM Expr := do
  let token ← current
  advance
  return .binary token left operator (← inner.expression token.kind.precedence)

/-- Arguments after the first, each behind a comma. -/
def moreArguments (inner : Inner) : Nat → ParseM (List Expr)
  | 0 => return []
  | steps + 1 => do
    if (← peek).kind = .comma then
      advance
      advance
      let first ← inner.expression .lowest
      return first :: (← moreArguments inner steps)
    else return []

/-- From the opening parenthesis of an argument list to the closing one. -/
def arguments (inner : Inner) : ParseM (List Expr) := do
  advance
  if (← current).kind = .rightParen then return []
  else
    let first ← inner.expression .lowest
    let rest ← moreArguments inner (← get).remaining
    expectPeek .rightParen
    return first :: rest

def callRest (inner : Inner) (function : Expr) : ParseM Expr := do
  let token ← current
  return .call token function (← arguments inner)

end ParseM

/-- Reads an expression from its first token, the current one. -/
def StartRule.parse (inner : Inner) : StartRule → ParseM Expr
  | identifier => return .identifier (.ofToken (← ParseM.current))
  | integer => ParseM.integerLiteral
  | boolean => do
    let token ← ParseM.current
    return .boolean token (token.kind = .kwTrue)
  | unary operator => ParseM.unaryRest inner operator
  | group => ParseM.groupRest inner
  | conditional => ParseM.conditionalRest inner
  | function => ParseM.functionRest inner

/-- Reads on from the current token, which continues the expression `left`. -/
def ContinueRule.parse (inner : Inner) (left : Expr) : ContinueRule → ParseM Expr
  | binary operator => ParseM.binaryRest inner left operator
  | call => ParseM.callRest inner left

/-- The fault of a token where an expression had to start. -/
def Token.startFault (token : Token) : Fault :=
  if token.kind = .illegal then .illegalCharacter token.literal token.span
  else .noStart token.kind token.literal token.span

/-- Whether a token of this kind continues an expression inside something of precedence `least`. -/
def TokenKind.continues (least : Precedence) (kind : TokenKind) : Bool :=
  kind ≠ .semicolon && least < kind.precedence

namespace ParseM

def start (inner : Inner) : ParseM Expr := do
  let token ← current
  match StartRule.ofKind? token.kind with
  | none => throw token.startFault
  | some rule => rule.parse inner

/-- Extends `left` by everything that follows and binds tighter than `least`. -/
def continued (inner : Inner) (least : Precedence) : Nat → Expr → ParseM Expr
  | 0, left => return left
  | steps + 1, left => do
    let next ← peek
    if next.kind.continues least then
      match ContinueRule.ofKind? next.kind with
      | none => return left
      | some rule => do
        advance
        continued inner least steps (← rule.parse inner left)
    else return left

def expressionBody (inner : Inner) (least : Precedence) : ParseM Expr := do
  let left ← start inner
  continued inner least (← get).remaining left

end ParseM

end MonkeySyntax
