import MonkeySyntax.Token.Kind

/-!
# How tightly operators bind
-/

namespace MonkeySyntax

inductive Precedence where
  | lowest | equality | relational | additive | multiplicative | unary | call
deriving DecidableEq, Repr, Inhabited

namespace Precedence

def all : List Precedence :=
  [lowest, equality, relational, additive, multiplicative, unary, call]

/-- The rank of a precedence; a higher one binds tighter. -/
def rank : Precedence → Nat
  | lowest => 0
  | equality => 1
  | relational => 2
  | additive => 3
  | multiplicative => 4
  | unary => 5
  | call => 6

instance : Ord Precedence := ⟨fun a b => compare a.rank b.rank⟩

instance : LT Precedence := ⟨fun a b => a.rank < b.rank⟩

instance (a b : Precedence) : Decidable (a < b) := inferInstanceAs (Decidable (a.rank < b.rank))

theorem lt_iff {a b : Precedence} : a < b ↔ a.rank < b.rank := Iff.rfl

end Precedence

/-- The precedence of a token after an expression; one that cannot continue it has the lowest. -/
def TokenKind.precedence : TokenKind → Precedence
  | .equal | .notEqual => .equality
  | .less | .greater => .relational
  | .plus | .minus => .additive
  | .star | .slash => .multiplicative
  | .leftParen => .call
  | _ => .lowest

end MonkeySyntax
