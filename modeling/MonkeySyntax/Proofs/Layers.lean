import MonkeySyntax.Parsing.Expression
import MonkeySyntax.Proofs.Grammar

/-!
# Layers and precedences

The grammar sorts expressions into layers; the parser compares precedences. The two agree through
ranks: the operators of a layer have the rank of the layer, and its operands the next higher one.
-/

namespace MonkeySyntax

namespace Layer

/-- The rank of a layer; a higher one binds tighter. -/
def rank : Layer → Nat
  | equality => 1
  | relational => 2
  | additive => 3
  | multiplicative => 4
  | unary => 5
  | call => 6
  | primary => 7

theorem rank_operand? {layer operand : Layer} (h : layer.operand? = some operand) :
    operand.rank = layer.rank + 1 := by
  cases layer <;> simp_all [operand?] <;> subst h <;> rfl

theorem of_binary? {layer : Layer} {kind : TokenKind} {operator : BinaryOp}
    (h : layer.binary? kind = some operator) :
    kind.precedence.rank = layer.rank ∧ layer.rank < 5 ∧
      ContinueRule.ofKind? kind = some (.binary operator) := by
  cases layer <;> cases kind <;> simp_all [binary?] <;> subst h <;> decide

theorem exists_binary? {kind : TokenKind} {operator : BinaryOp}
    (h : ContinueRule.ofKind? kind = some (.binary operator)) :
    ∃ layer operand : Layer,
      layer.operand? = some operand ∧ layer.binary? kind = some operator := by
  cases kind <;> simp [ContinueRule.ofKind?] at h <;> subst h
  case plus => exact ⟨additive, multiplicative, rfl, rfl⟩
  case minus => exact ⟨additive, multiplicative, rfl, rfl⟩
  case star => exact ⟨multiplicative, unary, rfl, rfl⟩
  case slash => exact ⟨multiplicative, unary, rfl, rfl⟩
  case less => exact ⟨relational, additive, rfl, rfl⟩
  case greater => exact ⟨relational, additive, rfl, rfl⟩
  case equal => exact ⟨equality, relational, rfl, rfl⟩
  case notEqual => exact ⟨equality, relational, rfl, rfl⟩

/-- Whether an expression read with operators tighter than `least` only can be one of the layer.
Unary operators stand in front of their operand, so none of them is too loose. -/
def Admits (layer : Layer) (least : Precedence) : Prop :=
  least.rank ≤ 5 ∧ (least.rank < layer.rank ∨ 5 ≤ layer.rank)

end Layer

/-- A semicolon is no operator, so only precedences decide what continues an expression. -/
theorem TokenKind.continues_iff {least : Precedence} {kind : TokenKind} :
    kind.continues least = true ↔ least.rank < kind.precedence.rank := by
  unfold continues
  rw [Bool.and_eq_true, decide_eq_true_iff, decide_eq_true_iff, Precedence.lt_iff]
  constructor
  · exact And.right
  · intro h
    refine ⟨?_, h⟩
    rintro rfl
    exact absurd h (by simp [precedence, Precedence.rank])

theorem ContinueRule.ofKind?_eq_none_iff {kind : TokenKind} :
    ContinueRule.ofKind? kind = none ↔ kind.precedence = .lowest := by
  cases kind <;> decide

theorem ContinueRule.exists_of_continues {least : Precedence} {kind : TokenKind}
    (h : kind.continues least = true) : ∃ rule, ContinueRule.ofKind? kind = some rule := by
  refine Option.ne_none_iff_exists'.mp fun hnone => ?_
  have htight := TokenKind.continues_iff.mp h
  rw [ofKind?_eq_none_iff.mp hnone] at htight
  exact absurd htight (Nat.not_lt_zero _)

namespace Derives

variable {punctuation : Punctuation} {ts : List Token} {layer : Layer} {expr : Expr}

/-- What is an expression of a tight layer is one of every looser layer. -/
theorem loosen {tight : Layer} (h : Derives punctuation ts (.expression tight expr))
    (hrank : layer.rank ≤ tight.rank) : Derives punctuation ts (.expression layer expr) := by
  obtain ⟨d, hd⟩ := Nat.exists_eq_add_of_le hrank
  induction d generalizing layer with
  | zero =>
      have heq : layer = tight := by
        cases layer <;> cases tight <;> simp_all [Layer.rank]
      exact heq ▸ h
  | succ d ih =>
      cases hoperand : layer.operand? with
      | none =>
          cases layer <;> simp [Layer.operand?] at hoperand
          cases tight <;> simp [Layer.rank] at hd <;> omega
      | some operand =>
          have hnext := Layer.rank_operand? hoperand
          exact .operand hoperand (ih (by omega) (by omega))

end Derives

end MonkeySyntax
