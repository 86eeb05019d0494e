import MonkeySyntax.Tree.Basic

/-!
# Equality of trees

Two trees are equal when they have the same shape and the same tokens at the same places. The
comparison below decides exactly that.
-/

namespace MonkeySyntax

mutual

def Expr.same : Expr → Expr → Bool
  | .identifier a, .identifier b => a == b
  | .integer s m, .integer t n => s == t && m == n
  | .boolean s m, .boolean t n => s == t && m == n
  | .unary s f a, .unary t g b => s == t && f == g && a.same b
  | .binary s a f c, .binary t b g d => s == t && f == g && a.same b && c.same d
  | .conditional s a c none, .conditional t b d none => s == t && a.same b && c.same d
  | .conditional s a c (some e), .conditional t b d (some f) =>
    s == t && a.same b && c.same d && e.same f
  | .function s ps a, .function t qs b => s == t && ps == qs && a.same b
  | .call s a cs, .call t b ds => s == t && a.same b && sameExprs cs ds
  | _, _ => false

def sameExprs : List Expr → List Expr → Bool
  | [], [] => true
  | a :: as, b :: bs => a.same b && sameExprs as bs
  | _, _ => false

def Statement.same : Statement → Statement → Bool
  | .binding s m a, .binding t n b => s == t && m == n && a.same b
  | .result s none, .result t none => s == t
  | .result s (some a), .result t (some b) => s == t && a.same b
  | .expression s a, .expression t b => s == t && a.same b
  | _, _ => false

def Block.same : Block → Block → Bool
  | .mk s as, .mk t bs => s == t && sameStatements as bs

def sameStatements : List Statement → List Statement → Bool
  | [], [] => true
  | a :: as, b :: bs => a.same b && sameStatements as bs
  | _, _ => false

end

mutual

theorem Expr.same_iff : ∀ (a b : Expr), a.same b = true ↔ a = b
  | .identifier _, b => by cases b <;> simp [Expr.same]
  | .integer _ _, b => by cases b <;> simp [Expr.same]
  | .boolean _ _, b => by cases b <;> simp [Expr.same]
  | .unary _ _ a, b => by cases b <;> simp [Expr.same, Expr.same_iff a, and_assoc]
  | .binary _ a _ c, b => by
    cases b <;> simp [Expr.same, Expr.same_iff a, Expr.same_iff c]
    grind
  | .conditional _ a c none, b => by
    cases b with
    | conditional t b d e =>
      cases e <;> simp [Expr.same, Expr.same_iff a, Block.same_iff c, and_assoc]
    | _ => simp [Expr.same]
  | .conditional _ a c (some e), b => by
    cases b with
    | conditional t b d f =>
      cases f <;> simp [Expr.same, Expr.same_iff a, Block.same_iff c,
        Block.same_iff e, and_assoc]
    | _ => simp [Expr.same]
  | .function _ _ a, b => by cases b <;> simp [Expr.same, Block.same_iff a, and_assoc]
  | .call _ a cs, b => by
    cases b <;> simp [Expr.same, Expr.same_iff a, sameExprs_iff cs, and_assoc]

theorem sameExprs_iff : ∀ (as bs : List Expr), sameExprs as bs = true ↔ as = bs
  | [], bs => by cases bs <;> simp [sameExprs]
  | a :: as, bs => by
    cases bs <;> simp [sameExprs, Expr.same_iff a, sameExprs_iff as]

theorem Statement.same_iff : ∀ (a b : Statement), a.same b = true ↔ a = b
  | .binding _ _ a, b => by cases b <;> simp [Statement.same, Expr.same_iff a, and_assoc]
  | .result _ none, b => by
    cases b with
    | result t v => cases v <;> simp [Statement.same]
    | _ => simp [Statement.same]
  | .result _ (some a), b => by
    cases b with
    | result t v => cases v <;> simp [Statement.same, Expr.same_iff a]
    | _ => simp [Statement.same]
  | .expression _ a, b => by cases b <;> simp [Statement.same, Expr.same_iff a]

theorem Block.same_iff : ∀ (a b : Block), a.same b = true ↔ a = b
  | .mk _ as, b => by cases b; simp [Block.same, sameStatements_iff as]

theorem sameStatements_iff : ∀ (as bs : List Statement), sameStatements as bs = true ↔ as = bs
  | [], bs => by cases bs <;> simp [sameStatements]
  | a :: as, bs => by
    cases bs <;> simp [sameStatements, Statement.same_iff a, sameStatements_iff as]

end

instance : DecidableEq Expr := fun a b => decidable_of_iff (a.same b) (Expr.same_iff a b)

instance : DecidableEq Statement := fun a b => decidable_of_iff (a.same b) (Statement.same_iff a b)

instance : DecidableEq Block := fun a b => decidable_of_iff (a.same b) (Block.same_iff a b)

deriving instance DecidableEq for Program

end MonkeySyntax
