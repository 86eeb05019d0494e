import MonkeySyntax.Proofs.Likeness
import MonkeySyntax.Proofs.Mirror

/-!
# The recursion that the levels stand for

Expressions and blocks are read by a tower of readers, one for each level of nesting, of which a
state picks the one for the levels it has left. The parser is meant to be one reader that calls
itself for what is further in, and gives up where the limit is reached. That is what the tower
amounts to: readers come back at the depth they started at, so the reader that is picked anew at
each state is always the one that the tower has there.

It follows that the recursion ends. Carried out often enough, it does not matter any more what it
would be continued with.
-/

namespace MonkeySyntax

open ParseM

/-- The reader of whatever may be nested where it is used. -/
def Inner.whole : Inner := ⟨ParseM.expression, ParseM.block⟩

/-- Both states are at the same depth under the same limit. -/
structure ParseState.SameDepth (s t : ParseState) : Prop where
  depth_eq : t.depth = s.depth
  maxDepth_eq : t.maxDepth = s.maxDepth

theorem ParseState.SameDepth.headroom_eq {s t : ParseState} (h : s.SameDepth t) :
    t.headroom = s.headroom := by
  rw [headroom, h.depth_eq, h.maxDepth_eq, headroom]

theorem ParseState.SameDepth.trans {s t u : ParseState} (hst : s.SameDepth t)
    (htu : t.SameDepth u) : s.SameDepth u :=
  ⟨htu.depth_eq.trans hst.depth_eq, htu.maxDepth_eq.trans hst.maxDepth_eq⟩

theorem Passage.sameDepth : Passage ParseState.SameDepth where
  refl _ := ⟨rfl, rfl⟩
  trans hst htu := hst.trans htu
  advance _ := ⟨rfl, rfl⟩
  record _ _ := ⟨rfl, rfl⟩
  nested hlt h :=
    ⟨Passage.depth.nested hlt h.depth_eq, Passage.maxDepth.nested hlt h.maxDepth_eq⟩

theorem Passage.whole {R : ParseState → ParseState → Prop} (hR : Passage R) :
    Inner.whole.Keeps R :=
  ⟨fun least s => (hR.level s.headroom).expression least s, fun s => (hR.level s.headroom).block s⟩

/-! ### Readers that do the same at one depth -/

/-- Two parsers that do the same at the depth of `origin`. -/
def Likeness.atDepth (origin : ParseState) : Likeness where
  keeps := ParseState.SameDepth
  here := origin.SameDepth
  shown _ := False
  passage := Passage.sameDepth
  here_of_keeps := ParseState.SameDepth.trans
  shown_of_keeps h _ := h

theorem Alike.eq_of_sameDepth {α : Type} {m m' : ParseM α} {origin s : ParseState}
    (h : Alike (.atDepth origin) m m') (hs : origin.SameDepth s) : m s = m' s :=
  (h.same s hs).resolve_right id

theorem Alike.eq {α : Type} {m m' : ParseM α} {s : ParseState} (h : Alike (.atDepth s) m m') :
    m s = m' s :=
  h.eq_of_sameDepth (Passage.sameDepth.refl s)

/-- With the levels that are left, the tower does what the reader that is picked anew does. -/
theorem Inner.alike_whole (origin : ParseState) :
    (Inner.level origin.headroom).Alike (.atDepth origin) .whole := by
  have hkeeps := Passage.sameDepth.whole
  constructor
  · intro least
    refine ⟨hkeeps.expression least, fun s hs => .inl ?_⟩
    rw [← ParseState.SameDepth.headroom_eq hs]
    rfl
  · refine ⟨hkeeps.block, fun s hs => .inl ?_⟩
    rw [← ParseState.SameDepth.headroom_eq hs]
    rfl

theorem nested_congr {α : Type} {m m' : ParseM α} {s : ParseState}
    (h : s.depth < s.maxDepth → m s.enter = m' s.enter) : nested m s = nested m' s := by
  unfold nested
  split
  · rfl
  · rename_i hdeep
    rw [h (Nat.lt_of_not_le hdeep)]

theorem ParseState.headroom_enter (s : ParseState) : s.enter.headroom = s.headroom - 1 :=
  Nat.sub_add_eq s.maxDepth s.depth 1

/-- A tower in which each level goes into the one below is a recursion that the limit on nesting
ends. -/
theorem tower_eq_nested {α : Type} (tower : Nat → ParseM α) {body : Inner → ParseM α}
    (hzero : ∀ s, tower 0 s = tooDeep s)
    (hsucc : ∀ n s, tower (n + 1) s = nested (body (.level n)) s)
    (hbody : ∀ {l : Likeness} {inner : Inner}, inner.Alike l .whole →
      Alike l (body inner) (body .whole)) (s : ParseState) :
    tower s.headroom s = nested (body .whole) s := by
  cases hroom : s.headroom with
  | zero =>
      have hdeep : s.maxDepth ≤ s.depth := Nat.sub_eq_zero_iff_le.mp hroom
      rw [hzero, nested, if_pos hdeep]
  | succ n =>
      have halike := hbody (Inner.alike_whole s.enter)
      rw [s.headroom_enter, hroom, Nat.add_sub_cancel] at halike
      rw [hsucc]
      exact nested_congr fun _ => halike.eq

/-- The reader of expressions calls itself, one level further in. -/
theorem expression_eq (least : Precedence) :
    ParseM.expression least = nested (expressionBody .whole least) := by
  funext s
  exact tower_eq_nested (fun n => (Inner.level n).expression least) (fun _ => rfl)
    (fun _ _ => rfl) (fun hinner => alike_expressionBody hinner least) s

theorem block_eq : ParseM.block = nested (blockBody .whole) := by
  funext s
  exact tower_eq_nested (fun n => (Inner.level n).block) (fun _ => rfl) (fun _ _ => rfl)
    alike_blockBody s

/-- Recursion that is carried out `n` times, and then leaves the rest to `bottom`. -/
def Inner.unrolled (bottom : Inner) : Nat → Inner
  | 0 => bottom
  | n + 1 =>
    { expression := fun least => nested (expressionBody (bottom.unrolled n) least)
      block := nested (blockBody (bottom.unrolled n)) }

/-- Below the limit on nesting there is nothing to be left to anyone. -/
theorem Inner.unrolled_alike_whole (bottom : Inner) {n : Nat} {origin : ParseState}
    (h : origin.headroom < n) : (bottom.unrolled n).Alike (.atDepth origin) .whole := by
  have hkeeps := Passage.sameDepth.whole
  induction n generalizing origin with
  | zero => exact absurd h (Nat.not_lt_zero _)
  | succ n ih =>
      -- One level further in there is one level less to go, or the limit is in the way.
      have hnext : ∀ {s : ParseState}, origin.SameDepth s → s.depth < s.maxDepth →
          (bottom.unrolled n).Alike (.atDepth s.enter) .whole := by
        intro s hs hlt
        apply ih
        have hroom := hs.headroom_eq
        have hpos : 0 < s.headroom := Nat.sub_pos_of_lt hlt
        rw [s.headroom_enter]
        omega
      constructor
      · intro least
        refine ⟨hkeeps.expression least, fun s hs => .inl ?_⟩
        change _ = ParseM.expression least s
        rw [expression_eq]
        exact nested_congr fun hlt => (alike_expressionBody (hnext hs hlt) least).eq
      · refine ⟨hkeeps.block, fun s hs => .inl ?_⟩
        change _ = ParseM.block s
        rw [block_eq]
        exact nested_congr fun hlt => (alike_blockBody (hnext hs hlt)).eq

/-- The recursion that the parser starts in the state comes to an end: carried out more often than
levels of nesting are left, it gives the same whatever it would be left to. -/
structure RecursionHalts (s : ParseState) : Prop where
  expression : ∀ (bottom : Inner) (n : Nat) (least : Precedence), s.headroom < n →
    (bottom.unrolled n).expression least s = ParseM.expression least s
  block : ∀ (bottom : Inner) (n : Nat), s.headroom < n →
    (bottom.unrolled n).block s = ParseM.block s

theorem recursionHalts (s : ParseState) : RecursionHalts s where
  expression bottom _ least h := ((Inner.unrolled_alike_whole bottom h).expression least).eq
  block bottom _ h := (Inner.unrolled_alike_whole bottom h).block.eq

theorem programStatements_whole (s : ParseState) (steps : Nat) :
    s.programStatements s.inner steps = s.programStatements .whole steps :=
  (programStatements_eq_or (Inner.alike_whole s) steps (Passage.sameDepth.refl s)).resolve_right id

end MonkeySyntax
