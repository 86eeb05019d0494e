import MonkeySyntax.Tree.Basic

/-!
# The canonical text of a tree

Operators are fully parenthesised, so that `-a * b` reads `((-a) * b)`. Statements of a block or a
program follow each other with nothing in between, and blocks are written without braces.
-/

namespace MonkeySyntax

def Identifier.text (name : Identifier) : String := name.value

mutual

def Expr.text : Expr → String
  | .identifier name => name.text
  | .integer token _ => token.literal
  | .boolean token _ => token.literal
  | .unary _ operator right => "(" ++ operator.spelling ++ right.text ++ ")"
  | .binary _ left operator right =>
    "(" ++ left.text ++ " " ++ operator.spelling ++ " " ++ right.text ++ ")"
  | .conditional _ condition consequence none =>
    "if" ++ condition.text ++ " " ++ consequence.text
  | .conditional _ condition consequence (some alternative) =>
    "if" ++ condition.text ++ " " ++ consequence.text ++ "else " ++ alternative.text
  | .function token parameters body =>
    token.literal ++ "(" ++ String.intercalate ", " (parameters.map Identifier.text) ++ ") " ++
      body.text
  | .call _ function arguments =>
    function.text ++ "(" ++ String.intercalate ", " (argumentTexts arguments) ++ ")"

def argumentTexts : List Expr → List String
  | [] => []
  | expr :: rest => expr.text :: argumentTexts rest

def Statement.text : Statement → String
  | .binding token name value => token.literal ++ " " ++ name.text ++ " = " ++ value.text ++ ";"
  | .result token none => token.literal ++ ";"
  | .result token (some value) => token.literal ++ " " ++ value.text ++ ";"
  | .expression _ expression => expression.text

def Block.text : Block → String
  | .mk _ statements => statementsText statements

def statementsText : List Statement → String
  | [] => ""
  | statement :: rest => statement.text ++ statementsText rest

end

def Program.text (program : Program) : String := statementsText program.statements

end MonkeySyntax
