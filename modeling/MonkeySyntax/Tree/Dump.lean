import MonkeySyntax.Json.Pretty
import MonkeySyntax.Tree.Basic

/-!
# Trees as JSON

A node is an object of its parts; where there is a choice of nodes, the object stands in a field
named for the choice.
-/

namespace MonkeySyntax

open Json (obj arr str)

def Span.toJson (span : Span) : Json :=
  obj [("start", .nat span.start), ("end", .nat span.stop), ("line", .nat span.line.toNat),
    ("column", .nat span.column.toNat)]

def Token.toJson (token : Token) : Json :=
  obj [("kind", str token.kind.tag), ("literal", str token.literal), ("span", token.span.toJson)]

def Identifier.toJson (name : Identifier) : Json :=
  obj [("token", name.token.toJson), ("value", str name.value)]

mutual

def Expr.toJson : Expr → Json
  | .identifier name => obj [("Identifier", name.toJson)]
  | .integer token value =>
    obj [("Integer", obj [("token", token.toJson), ("value", .int value.toInt)])]
  | .boolean token value =>
    obj [("Boolean", obj [("token", token.toJson), ("value", .bool value)])]
  | .unary token operator right =>
    obj [("Prefix", obj [("token", token.toJson), ("operator", str operator.tag),
      ("right", right.toJson)])]
  | .binary token left operator right =>
    obj [("Infix", obj [("token", token.toJson), ("left", left.toJson),
      ("operator", str operator.tag), ("right", right.toJson)])]
  | .conditional token condition consequence none =>
    obj [("If", obj [("token", token.toJson), ("condition", condition.toJson),
      ("consequence", consequence.toJson), ("alternative", .null)])]
  | .conditional token condition consequence (some alternative) =>
    obj [("If", obj [("token", token.toJson), ("condition", condition.toJson),
      ("consequence", consequence.toJson), ("alternative", alternative.toJson)])]
  | .function token parameters body =>
    obj [("Function", obj [("token", token.toJson),
      ("parameters", arr (parameters.map Identifier.toJson)), ("body", body.toJson)])]
  | .call token function arguments =>
    obj [("Call", obj [("token", token.toJson), ("function", function.toJson),
      ("arguments", arr (argumentsJson arguments))])]

def argumentsJson : List Expr → List Json
  | [] => []
  | expr :: rest => expr.toJson :: argumentsJson rest

def Statement.toJson : Statement → Json
  | .binding token name value =>
    obj [("Let", obj [("token", token.toJson), ("name", name.toJson), ("value", value.toJson)])]
  | .result token none => obj [("Return", obj [("token", token.toJson), ("value", .null)])]
  | .result token (some value) =>
    obj [("Return", obj [("token", token.toJson), ("value", value.toJson)])]
  | .expression token expression =>
    obj [("Expression", obj [("token", token.toJson), ("expression", expression.toJson)])]

def Block.toJson : Block → Json
  | .mk token statements =>
    obj [("token", token.toJson), ("statements", arr (statementsJson statements))]

def statementsJson : List Statement → List Json
  | [] => []
  | statement :: rest => statement.toJson :: statementsJson rest

end

def Program.toJson (program : Program) : Json :=
  obj [("statements", arr (statementsJson program.statements))]

end MonkeySyntax
