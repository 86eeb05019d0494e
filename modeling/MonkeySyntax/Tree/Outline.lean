import MonkeySyntax.Json.Basic
import MonkeySyntax.Tree.Text

/-!
# Outlines

The outline of a tree lists its nodes, each before its parts and the parts in source order. A
statement or expression appears twice, first as such and then by its form.
-/

namespace MonkeySyntax

inductive NodeForm where
  | letStatement | returnStatement | expressionStatement
  | identifier | integerLiteral | booleanLiteral | unary | binary | conditional | function | call
deriving DecidableEq, Repr

namespace NodeForm

def name : NodeForm → String
  | letStatement => "LetStatement"
  | returnStatement => "ReturnStatement"
  | expressionStatement => "ExpressionStatement"
  | identifier => "Identifier"
  | integerLiteral => "IntegerLiteral"
  | booleanLiteral => "BooleanLiteral"
  | unary => "PrefixExpression"
  | binary => "InfixExpression"
  | conditional => "IfExpression"
  | function => "FunctionLiteral"
  | call => "CallExpression"

end NodeForm

def Expr.form : Expr → NodeForm
  | .identifier .. => .identifier
  | .integer .. => .integerLiteral
  | .boolean .. => .booleanLiteral
  | .unary .. => .unary
  | .binary .. => .binary
  | .conditional .. => .conditional
  | .function .. => .function
  | .call .. => .call

def Statement.form : Statement → NodeForm
  | .binding .. => .letStatement
  | .result .. => .returnStatement
  | .expression .. => .expressionStatement

inductive OutlineEntry where
  | program (literal text : String)
  | statement (literal text : String) (place : Span)
  | expression (literal text : String) (place : Span) (isLiteral : Bool)
  | block (literal text : String) (isEmpty : Bool)
  | node (form : NodeForm) (literal text : String)
  | name (text : String)
deriving DecidableEq, Repr

namespace OutlineEntry

def ofIdentifier (name : Identifier) : OutlineEntry :=
  node .identifier name.token.literal name.text

def ofExpr (expr : Expr) : List OutlineEntry :=
  [expression expr.token.literal expr.text expr.span expr.isLiteral,
    node expr.form expr.token.literal expr.text]

def ofStatement (s : Statement) : List OutlineEntry :=
  [statement s.token.literal s.text s.span, node s.form s.token.literal s.text]

def ofBlock (b : Block) : OutlineEntry := block b.token.literal b.text b.isEmpty

def toJson : OutlineEntry → Json
  | program literal text =>
    .obj [("node", .str "Program"), ("literal", .str literal), ("text", .str text)]
  | statement literal text place =>
    .obj [("node", .str "Statement"), ("literal", .str literal), ("text", .str text),
      ("at", .str place.text)]
  | expression literal text place isLiteral =>
    .obj [("node", .str "Expression"), ("literal", .str literal), ("text", .str text),
      ("at", .str place.text), ("is_literal", .bool isLiteral)]
  | block literal text isEmpty =>
    .obj [("node", .str "BlockStatement"), ("literal", .str literal), ("text", .str text),
      ("is_empty", .bool isEmpty)]
  | node form literal text =>
    .obj [("node", .str form.name), ("literal", .str literal), ("text", .str text)]
  | name text => .obj [("node", .str "name"), ("text", .str text)]

end OutlineEntry

mutual

def Expr.outline : Expr → List OutlineEntry
  | .identifier name => OutlineEntry.ofExpr (.identifier name) ++ [.name name.value]
  | .integer token value => OutlineEntry.ofExpr (.integer token value)
  | .boolean token value => OutlineEntry.ofExpr (.boolean token value)
  | .unary token operator right =>
    OutlineEntry.ofExpr (.unary token operator right) ++ right.outline
  | .binary token left operator right =>
    OutlineEntry.ofExpr (.binary token left operator right) ++ left.outline ++ right.outline
  | .conditional token condition consequence none =>
    OutlineEntry.ofExpr (.conditional token condition consequence none) ++ condition.outline ++
      consequence.outline
  | .conditional token condition consequence (some alternative) =>
    OutlineEntry.ofExpr (.conditional token condition consequence (some alternative)) ++
      condition.outline ++ consequence.outline ++ alternative.outline
  | .function token parameters body =>
    OutlineEntry.ofExpr (.function token parameters body) ++
      parameters.map OutlineEntry.ofIdentifier ++ body.outline
  | .call token function arguments =>
    OutlineEntry.ofExpr (.call token function arguments) ++ function.outline ++
      argumentsOutline arguments

def argumentsOutline : List Expr → List OutlineEntry
  | [] => []
  | expr :: rest => expr.outline ++ argumentsOutline rest

def Statement.outline : Statement → List OutlineEntry
  | .binding token name value =>
    OutlineEntry.ofStatement (.binding token name value) ++ .ofIdentifier name :: value.outline
  | .result token none => OutlineEntry.ofStatement (.result token none)
  | .result token (some value) =>
    OutlineEntry.ofStatement (.result token (some value)) ++ value.outline
  | .expression token expression =>
    OutlineEntry.ofStatement (.expression token expression) ++ expression.outline

def Block.outline : Block → List OutlineEntry
  | .mk token statements => .ofBlock (.mk token statements) :: statementsOutline statements

def statementsOutline : List Statement → List OutlineEntry
  | [] => []
  | statement :: rest => statement.outline ++ statementsOutline rest

end

def Program.outline (program : Program) : List OutlineEntry :=
  .program program.literal program.text :: statementsOutline program.statements

end MonkeySyntax
