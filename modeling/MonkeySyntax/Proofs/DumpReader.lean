import MonkeySyntax.Proofs.JsonReader
import MonkeySyntax.Tree.Dump

/-!
# Reading trees back from their dumps

A reader for each kind of node, which looks for the object that the node is dumped as. Names of
fields and of choices keep the kinds apart; a part that may be missing is dumped as `null`, which no
node is. So a dump determines its program, and with it every token, literal and place in it.
-/

namespace MonkeySyntax

open Json (obj arr str)

def Span.ofJson? : Json → Option Span
  | obj [("start", .int start), ("end", .int stop), ("line", .int line), ("column", .int column)] =>
    some ⟨start.toNat, stop.toNat, .ofNat line.toNat, .ofNat column.toNat⟩
  | _ => none

def Token.ofJson? : Json → Option Token
  | obj [("kind", str kind), ("literal", str literal), ("span", span)] =>
    return ⟨← TokenKind.ofTag? kind, literal, ← Span.ofJson? span⟩
  | _ => none

def Identifier.ofJson? : Json → Option Identifier
  | obj [("token", token), ("value", str value)] => return ⟨← Token.ofJson? token, value⟩
  | _ => none

mutual

def Expr.ofJson? : Json → Option Expr
  | obj [("Identifier", name)] => return .identifier (← Identifier.ofJson? name)
  | obj [("Integer", obj [("token", token), ("value", .int value)])] =>
    return .integer (← Token.ofJson? token) (.ofInt value)
  | obj [("Boolean", obj [("token", token), ("value", .bool value)])] =>
    return .boolean (← Token.ofJson? token) value
  | obj [("Prefix", obj [("token", token), ("operator", str operator), ("right", right)])] =>
    return .unary (← Token.ofJson? token) (← UnaryOp.ofTag? operator) (← Expr.ofJson? right)
  | obj [("Infix", obj [("token", token), ("left", left), ("operator", str operator),
      ("right", right)])] =>
    return .binary (← Token.ofJson? token) (← Expr.ofJson? left) (← BinaryOp.ofTag? operator)
      (← Expr.ofJson? right)
  | obj [("If", obj [("token", token), ("condition", condition), ("consequence", consequence),
      ("alternative", .null)])] =>
    return .conditional (← Token.ofJson? token) (← Expr.ofJson? condition)
      (← Block.ofJson? consequence) none
  | obj [("If", obj [("token", token), ("condition", condition), ("consequence", consequence),
      ("alternative", alternative)])] =>
    return .conditional (← Token.ofJson? token) (← Expr.ofJson? condition)
      (← Block.ofJson? consequence) (some (← Block.ofJson? alternative))
  | obj [("Function", obj [("token", token), ("parameters", arr parameters), ("body", body)])] =>
    return .function (← Token.ofJson? token) (← parameters.mapM Identifier.ofJson?)
      (← Block.ofJson? body)
  | obj [("Call", obj [("token", token), ("function", function), ("arguments", arr arguments)])] =>
    return .call (← Token.ofJson? token) (← Expr.ofJson? function) (← argumentsOfJson? arguments)
  | _ => none

def argumentsOfJson? : List Json → Option (List Expr)
  | [] => some []
  | item :: rest => return (← Expr.ofJson? item) :: (← argumentsOfJson? rest)

def Statement.ofJson? : Json → Option Statement
  | obj [("Let", obj [("token", token), ("name", name), ("value", value)])] =>
    return .binding (← Token.ofJson? token) (← Identifier.ofJson? name) (← Expr.ofJson? value)
  | obj [("Return", obj [("token", token), ("value", .null)])] =>
    return .result (← Token.ofJson? token) none
  | obj [("Return", obj [("token", token), ("value", value)])] =>
    return .result (← Token.ofJson? token) (some (← Expr.ofJson? value))
  | obj [("Expression", obj [("token", token), ("expression", expression)])] =>
    return .expression (← Token.ofJson? token) (← Expr.ofJson? expression)
  | _ => none

def Block.ofJson? : Json → Option Block
  | obj [("token", token), ("statements", arr statements)] =>
    return .mk (← Token.ofJson? token) (← statementsOfJson? statements)
  | _ => none

def statementsOfJson? : List Json → Option (List Statement)
  | [] => some []
  | item :: rest => return (← Statement.ofJson? item) :: (← statementsOfJson? rest)

end

def Program.ofJson? : Json → Option Program
  | obj [("statements", arr statements)] => return ⟨← statementsOfJson? statements⟩
  | _ => none

/-! ### Every tree is read back -/

theorem TokenKind.ofTag?_tag (kind : TokenKind) : ofTag? kind.tag = some kind := by
  cases kind <;> rfl

theorem UnaryOp.ofTag?_tag (operator : UnaryOp) : ofTag? operator.tag = some operator := by
  cases operator <;> rfl

theorem BinaryOp.ofTag?_tag (operator : BinaryOp) : ofTag? operator.tag = some operator := by
  cases operator <;> rfl

@[simp]
theorem Span.ofJson?_toJson (span : Span) : ofJson? span.toJson = some span := by
  simp [toJson, ofJson?, Json.nat]

@[simp]
theorem Token.ofJson?_toJson (token : Token) : ofJson? token.toJson = some token := by
  simp [toJson, ofJson?, TokenKind.ofTag?_tag]

@[simp]
theorem Identifier.ofJson?_toJson (name : Identifier) : ofJson? name.toJson = some name := by
  simp [toJson, ofJson?]

theorem mapM_ofJson?_toJson (names : List Identifier) :
    (names.map Identifier.toJson).mapM Identifier.ofJson? = some names := by
  induction names with
  | nil => rfl
  | cons name names ih => rw [List.map_cons, List.mapM_cons, Identifier.ofJson?_toJson, ih]; rfl

/-- Only `null` stands for no alternative; anything else is read as one. -/
theorem Expr.ofJson?_conditional {token condition consequence alternative : Json}
    (h : alternative ≠ .null) :
    Expr.ofJson? (obj [("If", obj [("token", token), ("condition", condition),
        ("consequence", consequence), ("alternative", alternative)])])
      = do
        return .conditional (← Token.ofJson? token) (← Expr.ofJson? condition)
          (← Block.ofJson? consequence) (some (← Block.ofJson? alternative)) := by
  cases alternative with
  | null => exact absurd rfl h
  | _ => rfl

theorem Statement.ofJson?_result {token value : Json} (h : value ≠ .null) :
    Statement.ofJson? (obj [("Return", obj [("token", token), ("value", value)])])
      = do
        return .result (← Token.ofJson? token) (some (← Expr.ofJson? value)) := by
  cases value with
  | null => exact absurd rfl h
  | _ => rfl

theorem Block.toJson_ne_null (block : Block) : block.toJson ≠ .null := by
  cases block
  exact Json.noConfusion

theorem Expr.toJson_ne_null (expr : Expr) : expr.toJson ≠ .null := by
  cases expr with
  | conditional token condition consequence alternative =>
      cases alternative <;> exact Json.noConfusion
  | _ => exact Json.noConfusion

mutual

theorem Expr.ofJson?_toJson : ∀ expr : Expr, Expr.ofJson? expr.toJson = some expr
  | .identifier name => by
    change (do return Expr.identifier (← Identifier.ofJson? name.toJson)) = _
    rw [name.ofJson?_toJson]
    rfl
  | .integer token value => by
    change (do return Expr.integer (← Token.ofJson? token.toJson) (.ofInt value.toInt)) = _
    rw [token.ofJson?_toJson, Int64.ofInt_toInt]
    rfl
  | .boolean token value => by
    change (do return Expr.boolean (← Token.ofJson? token.toJson) value) = _
    rw [token.ofJson?_toJson]
    rfl
  | .unary token operator right => by
    change (do
      return Expr.unary (← Token.ofJson? token.toJson) (← UnaryOp.ofTag? operator.tag)
        (← Expr.ofJson? right.toJson)) = _
    rw [token.ofJson?_toJson, operator.ofTag?_tag, right.ofJson?_toJson]
    rfl
  | .binary token left operator right => by
    change (do
      return Expr.binary (← Token.ofJson? token.toJson) (← Expr.ofJson? left.toJson)
        (← BinaryOp.ofTag? operator.tag) (← Expr.ofJson? right.toJson)) = _
    rw [token.ofJson?_toJson, left.ofJson?_toJson, operator.ofTag?_tag, right.ofJson?_toJson]
    rfl
  | .conditional token condition consequence none => by
    change (do
      return Expr.conditional (← Token.ofJson? token.toJson)
        (← Expr.ofJson? condition.toJson) (← Block.ofJson? consequence.toJson) none) = _
    rw [token.ofJson?_toJson, condition.ofJson?_toJson, consequence.ofJson?_toJson]
    rfl
  | .conditional token condition consequence (some alternative) => by
    rw [Expr.toJson, Expr.ofJson?_conditional alternative.toJson_ne_null, token.ofJson?_toJson,
      condition.ofJson?_toJson, consequence.ofJson?_toJson, alternative.ofJson?_toJson]
    rfl
  | .function token parameters body => by
    change (do
      return Expr.function (← Token.ofJson? token.toJson)
        (← (parameters.map Identifier.toJson).mapM Identifier.ofJson?)
        (← Block.ofJson? body.toJson)) = _
    rw [token.ofJson?_toJson, mapM_ofJson?_toJson, body.ofJson?_toJson]
    rfl
  | .call token function arguments => by
    change (do
      return Expr.call (← Token.ofJson? token.toJson) (← Expr.ofJson? function.toJson)
        (← argumentsOfJson? (argumentsJson arguments))) = _
    rw [token.ofJson?_toJson, function.ofJson?_toJson, argumentsOfJson?_argumentsJson arguments]
    rfl

theorem argumentsOfJson?_argumentsJson :
    ∀ exprs : List Expr, argumentsOfJson? (argumentsJson exprs) = some exprs
  | [] => rfl
  | expr :: rest => by
    change (do return (← Expr.ofJson? expr.toJson) :: (← argumentsOfJson? (argumentsJson rest))) = _
    rw [expr.ofJson?_toJson, argumentsOfJson?_argumentsJson rest]
    rfl

theorem Statement.ofJson?_toJson :
    ∀ statement : Statement, Statement.ofJson? statement.toJson = some statement
  | .binding token name value => by
    change (do
      return Statement.binding (← Token.ofJson? token.toJson)
        (← Identifier.ofJson? name.toJson) (← Expr.ofJson? value.toJson)) = _
    rw [token.ofJson?_toJson, name.ofJson?_toJson, value.ofJson?_toJson]
    rfl
  | .result token none => by
    change (do return Statement.result (← Token.ofJson? token.toJson) none) = _
    rw [token.ofJson?_toJson]
    rfl
  | .result token (some value) => by
    rw [Statement.toJson, Statement.ofJson?_result value.toJson_ne_null, token.ofJson?_toJson,
      value.ofJson?_toJson]
    rfl
  | .expression token expression => by
    change (do
      return Statement.expression (← Token.ofJson? token.toJson)
        (← Expr.ofJson? expression.toJson)) = _
    rw [token.ofJson?_toJson, expression.ofJson?_toJson]
    rfl

theorem Block.ofJson?_toJson : ∀ block : Block, Block.ofJson? block.toJson = some block
  | .mk token statements => by
    change (do
      return Block.mk (← Token.ofJson? token.toJson)
        (← statementsOfJson? (statementsJson statements))) = _
    rw [token.ofJson?_toJson, statementsOfJson?_statementsJson statements]
    rfl

theorem statementsOfJson?_statementsJson :
    ∀ statements : List Statement, statementsOfJson? (statementsJson statements) = some statements
  | [] => rfl
  | statement :: rest => by
    change (do
      return (← Statement.ofJson? statement.toJson) ::
        (← statementsOfJson? (statementsJson rest))) = _
    rw [statement.ofJson?_toJson, statementsOfJson?_statementsJson rest]
    rfl

end

theorem Program.ofJson?_toJson (program : Program) : ofJson? program.toJson = some program := by
  change (do return Program.mk (← statementsOfJson? (statementsJson program.statements))) = _
  rw [statementsOfJson?_statementsJson]
  rfl

/-- The program that a text is the dump of. -/
def Program.ofDump? (text : String) : Option Program := Json.ofPretty? text >>= ofJson?

/-- **Dumps lose nothing.** Every program is read back from its dump, whatever its tokens say, so no
two programs have the same dump. -/
theorem ofDump?_of_dump :
    (∀ program : Program, Program.ofDump? program.toJson.pretty = some program) ∧
      Function.Injective fun program : Program => program.toJson.pretty := by
  have hread (program : Program) : Program.ofDump? program.toJson.pretty = some program := by
    rw [Program.ofDump?, Json.ofPretty?_pretty]
    exact program.ofJson?_toJson
  refine ⟨hread, fun left right h => ?_⟩
  refine Option.some.inj ?_
  calc
    some left = Program.ofDump? left.toJson.pretty := (hread left).symm
    _ = Program.ofDump? right.toJson.pretty := congrArg Program.ofDump? h
    _ = some right := hread right

end MonkeySyntax
