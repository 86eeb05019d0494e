import MonkeySyntax.Token.Basic
import MonkeySyntax.Tree.Operator

/-!
# Syntax trees

Every node keeps the token it was built from: the first token of statements, blocks and most
expressions, the operator of a binary expression, the opening parenthesis of a call.
-/

namespace MonkeySyntax

structure Identifier where
  token : Token
  value : String
deriving DecidableEq, Repr, Inhabited

/-- The name that a token spells. -/
def Identifier.ofToken (token : Token) : Identifier := ⟨token, token.literal⟩

mutual

inductive Expr where
  | identifier (name : Identifier)
  | integer (token : Token) (value : Int64)
  | boolean (token : Token) (value : Bool)
  | unary (token : Token) (operator : UnaryOp) (right : Expr)
  | binary (token : Token) (left : Expr) (operator : BinaryOp) (right : Expr)
  | conditional (token : Token) (condition : Expr) (consequence : Block)
      (alternative : Option Block)
  | function (token : Token) (parameters : List Identifier) (body : Block)
  | call (token : Token) (function : Expr) (arguments : List Expr)

inductive Statement where
  | binding (token : Token) (name : Identifier) (value : Expr)
  | result (token : Token) (value : Option Expr)
  | expression (token : Token) (expression : Expr)

inductive Block where
  | mk (token : Token) (statements : List Statement)

end

instance : Inhabited Expr := ⟨.identifier default⟩

instance : Inhabited Statement := ⟨.result default none⟩

instance : Inhabited Block := ⟨.mk default []⟩

structure Program where
  statements : List Statement
deriving Inhabited

namespace Expr

def token : Expr → Token
  | identifier name => name.token
  | integer token _ => token
  | boolean token _ => token
  | unary token _ _ => token
  | binary token _ _ _ => token
  | conditional token _ _ _ => token
  | function token _ _ => token
  | call token _ _ => token

def span (expr : Expr) : Span := expr.token.span

def isLiteral : Expr → Bool
  | integer _ _ | boolean _ _ | function _ _ _ => true
  | _ => false

end Expr

namespace Statement

def token : Statement → Token
  | binding token _ _ => token
  | result token _ => token
  | expression token _ => token

def span (statement : Statement) : Span := statement.token.span

end Statement

namespace Block

def token : Block → Token
  | mk token _ => token

def statements : Block → List Statement
  | mk _ statements => statements

def isEmpty (block : Block) : Bool := block.statements.isEmpty

end Block

namespace Program

def isEmpty (program : Program) : Bool := program.statements.isEmpty

/-- The literal of the first statement's token; an empty program has none. -/
def literal (program : Program) : String :=
  match program.statements with
  | [] => ""
  | statement :: _ => statement.token.literal

end Program

end MonkeySyntax
