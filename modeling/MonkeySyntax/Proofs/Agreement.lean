import Mathlib.Data.Nat.Digits.Defs
import MonkeySyntax.Proofs.Provenance
import MonkeySyntax.Tree.Equality

/-!
# Every node agrees with its token

The nodes of a program are its statements, the parts of these, their parts again, and so on. What a
node says of itself, an operator, a value or a name, is written in its token, and the token is of
the kind that such nodes begin with. This is said here of one node at a time, in the terms of the
language: which characters a name is made of, and what a number in decimal is worth.

Trees fit their tokens as wholes. The parts of what fits do so too, which leaves nothing to be shown
of the parser.
-/

namespace MonkeySyntax

/-! ### Nodes -/

inductive Node where
  | identifier (name : Identifier)
  | expression (expr : Expr)
  | statement (found : Statement)
  | block (body : Block)

/-- The nodes right below a node, in the order of the source. -/
def Node.parts : Node → List Node
  | .identifier _ => []
  | .expression (.identifier _) | .expression (.integer _ _) | .expression (.boolean _ _) => []
  | .expression (.unary _ _ right) => [.expression right]
  | .expression (.binary _ left _ right) => [.expression left, .expression right]
  | .expression (.conditional _ condition consequence alternative) =>
    .expression condition :: .block consequence :: alternative.toList.map .block
  | .expression (.function _ parameters body) => parameters.map .identifier ++ [.block body]
  | .expression (.call _ function arguments) => .expression function :: arguments.map .expression
  | .statement (.binding _ name value) => [.identifier name, .expression value]
  | .statement (.result _ value) => value.toList.map .expression
  | .statement (.expression _ expr) => [.expression expr]
  | .block (.mk _ statements) => statements.map .statement

/-- The node is a statement of the program, or a part of a node in it. -/
inductive Program.Contains (program : Program) : Node → Prop where
  | statement {statement : Statement} (h : statement ∈ program.statements) :
      Contains program (.statement statement)
  | part {node part : Node} (h : Contains program node) (hpart : part ∈ node.parts) :
      Contains program part

/-! ### What a token says -/

/-- The text is made of letters and underscores, and is none of the words that are reserved. -/
structure IsName (text : String) : Prop where
  ne_empty : text ≠ ""
  chars : ∀ c ∈ text.toList, c.isAlpha = true ∨ c = '_'
  not_keyword : ∀ kind : TokenKind, kind.isKeyword = true → kind.spelling? ≠ some text

/-- The text is made of digits. -/
structure IsNumeral (text : String) : Prop where
  ne_empty : text ≠ ""
  chars : ∀ c ∈ text.toList, c.isDigit = true

/-- What the digits of a text are worth by their places: one, ten, a hundred and so on from the last
digit to the first. -/
def placeValue (text : String) : Nat :=
  Nat.ofDigits 10 (text.toList.reverse.map fun c => c.toNat - '0'.toNat)

/-- The token is of a kind that is always written the same way, and is written so. -/
structure Token.Is (token : Token) (kind : TokenKind) : Prop where
  kind_eq : token.kind = kind
  spelling_eq : kind.spelling? = some token.literal

/-! ### Agreement -/

structure Identifier.Agrees (name : Identifier) : Prop where
  kind_eq : name.token.kind = .identifier
  value_eq : name.value = name.token.literal
  isName : IsName name.value

structure IntegerAgrees (token : Token) (value : Int64) : Prop where
  kind_eq : token.kind = .integer
  isNumeral : IsNumeral token.literal
  value_eq : value.toInt = placeValue token.literal
  nonneg : 0 ≤ value.toInt
  lt : value.toInt < 2 ^ 63

/-- What the node says is what its token says. An expression statement says nothing of its own. -/
def Node.Agrees : Node → Prop
  | .identifier name | .expression (.identifier name) => name.Agrees
  | .expression (.integer token value) => IntegerAgrees token value
  | .expression (.boolean token value) =>
    (token.kind = .kwTrue ∨ token.kind = .kwFalse) ∧ (value = true ↔ token.kind = .kwTrue)
  | .expression (.unary token operator _) =>
    UnaryOp.ofKind? token.kind = some operator ∧ operator.spelling = token.literal
  | .expression (.binary token _ operator _) =>
    BinaryOp.ofKind? token.kind = some operator ∧ operator.spelling = token.literal
  | .expression (.conditional token _ _ _) => token.Is .kwIf
  | .expression (.function token _ _) => token.Is .kwFn
  | .expression (.call token _ _) => token.Is .leftParen
  | .statement (.binding token _ _) => token.Is .kwLet
  | .statement (.result token _) => token.Is .kwReturn
  | .statement (.expression _ _) => True
  | .block (.mk token _) => token.Is .leftBrace

section Tokens

variable {token : Token} {kind : TokenKind}

theorem Token.Spells.is (h : token.Spells kind) {literal : String}
    (hspelling : kind.spelling? = some literal) : token.Is kind :=
  ⟨h.kind_eq, by rw [hspelling, h.literal_eq hspelling]⟩

theorem Token.Spells.isName (h : token.Spells .identifier) : IsName token.literal := by
  have hlexical := h.lexical
  generalize token.literal = literal at hlexical ⊢
  cases hlexical with
  | fixed hspelling => cases hspelling
  | name hsome hword hkeyword =>
      refine ⟨hsome, fun c hc => ?_, hkeyword⟩
      simpa [isWordChar] using hword c hc

theorem Token.Spells.isNumeral (h : token.Spells .integer) : IsNumeral token.literal := by
  have hlexical := h.lexical
  generalize token.literal = literal at hlexical ⊢
  cases hlexical with
  | fixed hspelling => cases hspelling
  | number hsome hdigit => exact ⟨hsome, hdigit⟩

end Tokens

/-- Reading digit by digit comes to the sum of their places. -/
theorem ofDigitChars_eq_ofDigits (digits : List Char) (value : Nat) :
    Nat.ofDigitChars 10 digits value = value * 10 ^ digits.length
      + Nat.ofDigits 10 (digits.reverse.map fun c => c.toNat - '0'.toNat) := by
  induction digits generalizing value with
  | nil => simp [Nat.ofDigitChars]
  | cons c digits ih =>
      rw [Nat.ofDigitChars_cons, ih, List.reverse_cons, List.map_append, Nat.ofDigits_append,
        List.length_map, List.length_reverse, List.length_cons, List.map_singleton,
        Nat.ofDigits_singleton]
      ring

theorem decimalValue_eq_placeValue (text : String) : decimalValue text = placeValue text := by
  rw [decimalValue, ofDigitChars_eq_ofDigits, Nat.zero_mul, Nat.zero_add, placeValue]

theorem Identifier.Fits.agrees {name : Identifier} (h : name.Fits) : name.Agrees := by
  obtain ⟨hspells, hvalue⟩ := h
  refine ⟨hspells.kind_eq, hvalue, ?_⟩
  rw [hvalue]
  exact hspells.isName

theorem integerAgrees_of_fits {token : Token} {value : Int64}
    (h : (Expr.integer token value).Fits) : IntegerAgrees token value := by
  obtain ⟨hspells, hlt, rfl⟩ := h
  have hvalue := Int64.toInt_ofNat_of_lt hlt
  refine ⟨hspells.kind_eq, hspells.isNumeral, ?_, ?_, ?_⟩
  · rw [hvalue, decimalValue_eq_placeValue]
  · rw [hvalue]
    exact Int.natCast_nonneg _
  · rw [hvalue]
    exact_mod_cast hlt

/-! ### What fits, part by part -/

def Node.Fits : Node → Prop
  | .identifier name => name.Fits
  | .expression expr => expr.Fits
  | .statement found => found.Fits
  | .block body => body.Fits

theorem Node.Fits.parts {node : Node} (h : node.Fits) : ∀ part ∈ node.parts, part.Fits := by
  cases node with
  | identifier name => simp [Node.parts]
  | expression expr =>
      cases expr with
      | identifier name | integer token value | boolean token value => simp [Node.parts]
      | unary token operator right => simpa [Node.parts, Node.Fits] using h.2.2
      | binary token left operator right => simpa [Node.parts, Node.Fits] using h.2.2
      | conditional token condition consequence alternative =>
          cases alternative with
          | none => simpa [Node.parts, Node.Fits] using h.2
          | some alternative => simpa [Node.parts, Node.Fits] using h.2
      | function token parameters body =>
          obtain ⟨-, hparameters, hbody⟩ := h
          refine List.forall_mem_append.mpr ⟨List.forall_mem_map.mpr hparameters, ?_⟩
          exact List.forall_mem_singleton.mpr hbody
      | call token function arguments =>
          obtain ⟨-, hfunction, harguments⟩ := h
          refine List.forall_mem_cons.mpr ⟨hfunction, List.forall_mem_map.mpr ?_⟩
          exact exprsFit_iff.mp harguments
  | statement found =>
      cases found with
      | binding token name value => simpa [Node.parts, Node.Fits] using h.2
      | result token value =>
          cases value with
          | none => simp [Node.parts]
          | some value => simpa [Node.parts, Node.Fits] using h.2
      | expression token expr => simpa [Node.parts, Node.Fits, Statement.Fits] using h
  | block body =>
      obtain ⟨token, statements⟩ := body
      exact List.forall_mem_map.mpr (statementsFit_iff.mp h.2)

theorem Node.Fits.agrees {node : Node} (h : node.Fits) : node.Agrees := by
  cases node with
  | identifier name => exact Identifier.Fits.agrees h
  | expression expr =>
      cases expr with
      | identifier name => exact Identifier.Fits.agrees h
      | integer token value => exact integerAgrees_of_fits h
      | boolean token value =>
          rcases h with ⟨hspells, rfl⟩ | ⟨hspells, rfl⟩
          · simp [Node.Agrees, hspells.kind_eq]
          · simp [Node.Agrees, hspells.kind_eq]
      | unary token operator right =>
          obtain ⟨hspells, hsign, -⟩ := h
          exact ⟨hsign, (hspells.literal_eq (UnaryOp.spelling?_of_ofKind? hsign)).symm⟩
      | binary token left operator right =>
          obtain ⟨hspells, hsign, -⟩ := h
          exact ⟨hsign, (hspells.literal_eq (BinaryOp.spelling?_of_ofKind? hsign)).symm⟩
      | conditional token condition consequence alternative =>
          cases alternative with
          | none => exact h.1.is rfl
          | some alternative => exact h.1.is rfl
      | function token parameters body => exact h.1.is rfl
      | call token function arguments => exact h.1.is rfl
  | statement found =>
      cases found with
      | binding token name value => exact h.1.is rfl
      | result token value =>
          cases value with
          | none => exact Token.Spells.is h rfl
          | some value => exact h.1.is rfl
      | expression token expr => trivial
  | block body =>
      obtain ⟨token, statements⟩ := body
      exact h.1.is rfl

/-- **Every node agrees with its token.** In the program of a source, whatever faults the source
has, operators are those that their tokens stand for and are spelled as, a boolean is what its word
says, an integer is what its digits are worth and fits into 63 bits, a name is the literal of a
token that is one, and all other nodes begin with the word or mark that is theirs. -/
theorem nodes_agree_with_tokens (maxDepth : Nat) (source : String) (node : Node)
    (h : (parse maxDepth source).program.Contains node) : node.Agrees := by
  suffices hfits : node.Fits from hfits.agrees
  induction h with
  | @statement statement hmem => exact fits_parse maxDepth source statement hmem
  | @part node part _ hpart ih => exact ih.parts part hpart

/-- Leading zeros, in a block behind a statement that is given up. -/
theorem nodes_agree_with_tokens_of_zeros :
    (parse 9 "let 1; fn() \x7b -007 \x7d").faults ≠ [] ∧
      (parse 9 "let 1; fn() \x7b -007 \x7d").program.Contains
        (.expression (.integer ⟨.integer, "007", ⟨15, 18, 1, 16⟩⟩ 7)) ∧
      IntegerAgrees ⟨.integer, "007", ⟨15, 18, 1, 16⟩⟩ 7 := by
  have hstatements : (parse 9 "let 1; fn() \x7b -007 \x7d").program.statements
      = [.expression ⟨.kwFn, "fn", ⟨7, 9, 1, 8⟩⟩ (.function ⟨.kwFn, "fn", ⟨7, 9, 1, 8⟩⟩ []
          (.mk ⟨.leftBrace, "\x7b", ⟨12, 13, 1, 13⟩⟩
            [.expression ⟨.minus, "-", ⟨14, 15, 1, 15⟩⟩ (.unary ⟨.minus, "-", ⟨14, 15, 1, 15⟩⟩
              .minus (.integer ⟨.integer, "007", ⟨15, 18, 1, 16⟩⟩ 7))]))] := by decide +kernel
  have hfunction := Program.Contains.statement (hstatements ▸ List.mem_singleton_self _)
  have hbody := (hfunction.part List.mem_cons_self).part List.mem_cons_self
  have hnegated := (hbody.part List.mem_cons_self).part List.mem_cons_self
  have hinteger := hnegated.part List.mem_cons_self
  exact ⟨by decide +kernel, hinteger, nodes_agree_with_tokens 9 _ _ hinteger⟩

end MonkeySyntax
