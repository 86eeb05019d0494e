import MonkeySyntax.Proofs.Recursion
import MonkeySyntax.Proofs.Window

/-!
# Nesting is balanced

A level of nesting is entered, something is read in it, and it is left again, also when what is read
fails. A level that may not be entered is not left either. So whatever a parser is made to do, it
comes back at the depth it started at, and on the way the depth is never less than that, nor beyond
the limit.

The depth alone does not tell all of this, for it stays zero where a level is left that was never
entered. What tells is to put other functions in the place of those that enter and leave levels. If
they do the same at the depths where levels may be entered and left, it makes no difference what
they do elsewhere. A way in or out that is taken, on the other hand, shows as soon as a fault is put
on record there.
-/

namespace MonkeySyntax

open ParseM

theorem Inner.Alike.move_eq_or {l : Likeness} {inner inner' : Inner} {s : ParseState}
    (h : inner.Alike l inner') (hs : l.here s) (next : Move) :
    inner.move s next = inner'.move s next ∨ l.shown (inner'.move s next) := by
  cases next with
  | advance | expectPeek kind | resync level => exact .inl rfl
  | expression least => exact (h.expression least).after_eq_or hs
  | startRule rule => exact (alike_startRule h rule).after_eq_or hs
  | continueRule left rule => exact (alike_continueRule h left rule).after_eq_or hs
  | statement => exact (alike_statement h).after_eq_or hs
  | letStatement => exact (alike_letStatement h).after_eq_or hs
  | returnStatement => exact (alike_returnStatement h).after_eq_or hs
  | expressionStatement => exact (alike_expressionStatement h).after_eq_or hs
  | block => exact h.block.after_eq_or hs
  | program =>
      exact (programStatements_eq_or h s.remaining hs).imp_left fun heq => congrArg Prod.snd heq

namespace Turns

/-- `Inner.level` with these turns. -/
def inner (turns : Turns) : Nat → Inner
  | 0 => .level 0
  | n + 1 =>
    { expression := fun least => turns.nested (expressionBody (turns.inner n) least)
      block := turns.nested (blockBody (turns.inner n)) }

/-- `ParseState.move` with these turns. -/
def move (turns : Turns) (s : ParseState) (next : Move) : ParseState :=
  (turns.inner s.headroom).move s next

/-! ### Turns that do the same where it matters -/

/-- The turns do what those of the parser do, as long as levels are entered at no less than the
depth `low` and below `limit`, and are left above `low` and at no more than `limit`. -/
structure AgreesWithin (turns : Turns) (low limit : Nat) : Prop where
  enter : ∀ t : ParseState, low ≤ t.depth → t.depth < limit → turns.enter t = t.enter
  leave : ∀ t : ParseState, low < t.depth → t.depth ≤ limit → turns.leave t = t.leave

theorem inner_own (n : Nat) : own.inner n = .level n := by
  induction n with
  | zero => rfl
  | succ n ih =>
      unfold inner
      rw [ih]
      rfl

theorem move_own (s : ParseState) (next : Move) : own.move s next = s.move next := by
  rw [move, inner_own, s.move_eq]
  rfl

section Agreement

variable {turns : Turns} {low limit : Nat} {origin s : ParseState}

theorem AgreesWithin.alike_nested {α : Type} {m m' : ParseM α}
    (h : turns.AgreesWithin low origin.maxDepth) (hlow : low ≤ origin.depth)
    (hm : Alike (.atDepth origin.enter) m m') :
    Alike (.atDepth origin) (turns.nested m) (own.nested m') := by
  refine MonkeySyntax.alike_nested hm (Passage.sameDepth.within hm.keeps) ?_ ?_ fun _ => id
  · rintro s ⟨hdepth, hmax⟩ hroom
    exact .inl ⟨h.enter s (by omega) (by omega), congrArg (· + 1) hdepth, hmax⟩
  -- What is left is the level that was entered: what is read in it ends at its depth.
  · rintro s t ⟨hdepth, hmax⟩ hroom ht
    have htop : t.depth = origin.depth + 1 := ht.depth_eq
    exact .inl (h.leave t (by omega) (by omega))

theorem AgreesWithin.alike_inner (h : turns.AgreesWithin low origin.maxDepth)
    (hlow : low ≤ origin.depth) (n : Nat) :
    (turns.inner n).Alike (.atDepth origin) (own.inner n) := by
  induction n generalizing origin with
  | zero =>
      have hkeeps := Passage.sameDepth.level 0
      exact ⟨fun least => .refl (hkeeps.expression least), .refl hkeeps.block⟩
  | succ n ih =>
      have hinner : (turns.inner n).Alike (.atDepth origin.enter) (own.inner n) :=
        ih h (Nat.le_succ_of_le hlow)
      exact ⟨fun least => h.alike_nested hlow (alike_expressionBody hinner least),
        h.alike_nested hlow (alike_blockBody hinner)⟩

/-- What the turns do at other depths makes no difference. -/
theorem AgreesWithin.move_eq (h : turns.AgreesWithin s.depth s.maxDepth) (next : Move) :
    turns.move s next = s.move next := by
  rw [← move_own]
  exact ((h.alike_inner (Nat.le_refl s.depth) s.headroom).move_eq_or
    (Passage.sameDepth.refl s) next).resolve_right id

end Agreement

/-! ### Turns that leave the depth alone -/

structure KeepsDepth (turns : Turns) : Prop where
  enter : ∀ t, (turns.enter t).depth = t.depth
  leave : ∀ t, (turns.leave t).depth = t.depth

theorem KeepsDepth.nested {turns : Turns} (h : turns.KeepsDepth) {α : Type} {m : ParseM α}
    (hm : m.Keeps fun s t => t.depth = s.depth) :
    (turns.nested m).Keeps fun s t => t.depth = s.depth := by
  refine keeps_nested (fun _ => rfl) fun s => ?_
  calc (turns.leave (m.after (turns.enter s))).depth
      = (m.after (turns.enter s)).depth := h.leave _
    _ = (turns.enter s).depth := hm _
    _ = s.depth := h.enter s

theorem KeepsDepth.inner {turns : Turns} (h : turns.KeepsDepth) (n : Nat) :
    (turns.inner n).Keeps fun s t => t.depth = s.depth := by
  induction n with
  | zero => exact Passage.depth.level 0
  | succ n ih =>
      exact ⟨fun least => h.nested (Passage.depth.expressionBody ih least),
        h.nested (Passage.depth.blockBody ih)⟩

/-- Nothing but its turns takes the parser to another depth. -/
theorem KeepsDepth.move {turns : Turns} (h : turns.KeepsDepth) (s : ParseState) (next : Move) :
    (turns.move s next).depth = s.depth :=
  Passage.depth.moveWith (h.inner s.headroom) s next

/-! ### Turns that are noted -/

/-- `noting` does what `turns` do or else puts the fault on record, and takes nothing off it. -/
structure Notes (noting : Turns) (fault : Fault) (turns : Turns) : Prop where
  enter : ∀ t, turns.enter t = noting.enter t ∨ fault ∈ (noting.enter t).faults
  leave : ∀ t, turns.leave t = noting.leave t ∨ fault ∈ (noting.leave t).faults
  mem_enter : ∀ t, fault ∈ t.faults → fault ∈ (noting.enter t).faults
  mem_leave : ∀ t, fault ∈ t.faults → fault ∈ (noting.leave t).faults

namespace Notes

variable {noting turns : Turns} {fault : Fault}

theorem alike_nested {α : Type} {m m' : ParseM α} (h : noting.Notes fault turns)
    (hm : Alike (.noted fault) m m') :
    Alike (.noted fault) (turns.nested m) (noting.nested m') := by
  refine MonkeySyntax.alike_nested hm ?_ ?_ (fun _ t _ _ _ => h.leave t) h.mem_leave
  · exact keeps_nested (fun _ => id) fun s hs => h.mem_leave _ (hm.keeps _ (h.mem_enter s hs))
  · exact fun s _ _ => (h.enter s).imp_left fun heq => ⟨heq, trivial⟩

theorem alike_inner (h : noting.Notes fault turns) (n : Nat) :
    (turns.inner n).Alike (.noted fault) (noting.inner n) := by
  induction n with
  | zero =>
      have hkeeps := (Likeness.noted fault).passage.level 0
      exact ⟨fun least => .refl (hkeeps.expression least), .refl hkeeps.block⟩
  | succ n ih =>
      exact ⟨fun least => h.alike_nested (alike_expressionBody ih least),
        h.alike_nested (alike_blockBody ih)⟩

theorem move_eq_or (h : noting.Notes fault turns) (s : ParseState) (next : Move) :
    turns.move s next = noting.move s next ∨ fault ∈ (noting.move s next).faults :=
  (h.alike_inner s.headroom).move_eq_or trivial next

/-- Turns that make a difference make it where `noting` puts the fault on record. -/
theorem mem_of_move_ne {s : ParseState} {next : Move} (h : noting.Notes fault turns)
    (hown : noting.Notes fault own) (hne : turns.move s next ≠ s.move next) :
    fault ∈ (noting.move s next).faults := by
  by_contra hclean
  have hturns := (h.move_eq_or s next).resolve_right hclean
  have hplain := (hown.move_eq_or s next).resolve_right hclean
  rw [move_own] at hplain
  exact hne (hturns.trans hplain.symm)

end Notes

/-- Turns `turn`, with a fault put on record at the state `t`. -/
def noteAt (t : ParseState) (fault : Fault) (turn : ParseState → ParseState) (u : ParseState) :
    ParseState :=
  if u = t then (turn u).record fault else turn u

section Noting

variable {turns : Turns} {turn other : ParseState → ParseState} {t u : ParseState} {fault : Fault}

theorem eq_noteAt_or (h : ∀ u, other u ≠ turn u → u = t) (u : ParseState) :
    other u = noteAt t fault turn u ∨ fault ∈ (noteAt t fault turn u).faults := by
  unfold noteAt
  split
  · exact .inr (List.mem_append_right _ (List.mem_singleton_self fault))
  · rename_i hu
    exact .inl (Decidable.byContradiction fun hne => hu (h u hne))

theorem mem_noteAt (turn : ParseState → ParseState) (h : fault ∈ (turn u).faults) :
    fault ∈ (noteAt t fault turn u).faults := by
  unfold noteAt
  split
  · exact List.mem_append_left _ h
  · exact h

theorem eq_of_noteAt_ne (h : noteAt t fault turn u ≠ turn u) : u = t :=
  Decidable.byContradiction fun hne => h (if_neg hne)

/-- Notes where a level is entered from the state `t`. -/
def noteEntry (t : ParseState) (fault : Fault) : Turns := ⟨noteAt t fault .enter, .leave⟩

/-- Notes where a level is left in the state `t`. -/
def noteExit (t : ParseState) (fault : Fault) : Turns := ⟨.enter, noteAt t fault .leave⟩

theorem notes_noteEntry (fault : Fault) (henter : ∀ u, turns.enter u ≠ u.enter → u = t)
    (hleave : ∀ u, turns.leave u = u.leave) : (noteEntry t fault).Notes fault turns where
  enter := eq_noteAt_or henter
  leave u := .inl (hleave u)
  mem_enter _ := mem_noteAt .enter
  mem_leave _ := id

theorem notes_noteExit (fault : Fault) (henter : ∀ u, turns.enter u = u.enter)
    (hleave : ∀ u, turns.leave u ≠ u.leave → u = t) : (noteExit t fault).Notes fault turns where
  enter u := .inl (henter u)
  leave := eq_noteAt_or hleave
  mem_enter _ := id
  mem_leave _ := mem_noteAt .leave

end Noting

end Turns

/-! ### Turns that are taken -/

namespace ParseState

variable {s t : ParseState} {next : Move} {fault : Fault}

/-- In the course of the move a level is entered from the state `t`. -/
def Enters (s : ParseState) (next : Move) (t : ParseState) : Prop :=
  ∃ turns : Turns, (∀ u, turns.enter u ≠ u.enter → u = t) ∧ (∀ u, turns.leave u = u.leave) ∧
    turns.move s next ≠ s.move next

/-- In the course of the move a level is left in the state `t`. -/
def Leaves (s : ParseState) (next : Move) (t : ParseState) : Prop :=
  ∃ turns : Turns, (∀ u, turns.enter u = u.enter) ∧ (∀ u, turns.leave u ≠ u.leave → u = t) ∧
    turns.move s next ≠ s.move next

/-- The states before and behind the turns of a move, and those that it begins and ends in. -/
inductive Visits (s : ParseState) (next : Move) : ParseState → Prop where
  | start : Visits s next s
  | entering {t : ParseState} (h : s.Enters next t) : Visits s next t
  | entered {t : ParseState} (h : s.Enters next t) : Visits s next t.enter
  | leaving {t : ParseState} (h : s.Leaves next t) : Visits s next t
  | left {t : ParseState} (h : s.Leaves next t) : Visits s next t.leave
  | final : Visits s next (s.move next)

/-- Turns that are tampered with at a depth where none is taken make no difference. -/
theorem Enters.depth (h : s.Enters next t) : s.depth ≤ t.depth ∧ t.depth < s.maxDepth := by
  obtain ⟨turns, henter, hleave, hshows⟩ := h
  by_contra hbad
  refine hshows (Turns.AgreesWithin.move_eq ⟨fun u hlow hlimit => ?_, fun u _ _ => hleave u⟩ next)
  by_contra hne
  obtain rfl := henter u hne
  exact hbad ⟨hlow, hlimit⟩

theorem Leaves.depth (h : s.Leaves next t) : s.depth < t.depth ∧ t.depth ≤ s.maxDepth := by
  obtain ⟨turns, henter, hleave, hshows⟩ := h
  by_contra hbad
  refine hshows (Turns.AgreesWithin.move_eq ⟨fun u _ _ => henter u, fun u hlow hlimit => ?_⟩ next)
  by_contra hne
  obtain rfl := hleave u hne
  exact hbad ⟨hlow, hlimit⟩

theorem Visits.depth (h : s.Visits next t) (hs : s.depth ≤ s.maxDepth) :
    s.depth ≤ t.depth ∧ t.depth ≤ s.maxDepth := by
  cases h with
  | start => exact ⟨Nat.le_refl s.depth, hs⟩
  | entering h => exact ⟨h.depth.1, Nat.le_of_lt h.depth.2⟩
  | entered h => exact ⟨Nat.le_succ_of_le h.depth.1, h.depth.2⟩
  | leaving h => exact ⟨Nat.le_of_lt h.depth.1, h.depth.2⟩
  | left h =>
      exact ⟨Nat.le_sub_one_of_lt h.depth.1, Nat.le_trans (Nat.sub_le _ 1) h.depth.2⟩
  | final =>
      rw [Passage.depth.move s next]
      exact ⟨Nat.le_refl s.depth, hs⟩

/-- **A way in shows if it is taken.** Put on record where a level is entered from a state, a fault
that does not come up otherwise is there at the end of the move exactly if that is done in its
course. -/
theorem enters_iff (hnew : fault ∉ (s.move next).faults) :
    s.Enters next t ↔ fault ∈ ((Turns.noteEntry t fault).move s next).faults := by
  constructor
  · rintro ⟨turns, henter, hleave, hshows⟩
    have hnotes := Turns.notes_noteEntry fault henter hleave
    have hown : (Turns.noteEntry t fault).Notes fault .own :=
      Turns.notes_noteEntry fault (fun _ hne => absurd rfl hne) fun _ => rfl
    exact hnotes.mem_of_move_ne hown hshows
  · intro hnoted
    refine ⟨.noteEntry t fault, fun _ => Turns.eq_of_noteAt_ne, fun _ => rfl, fun heq => hnew ?_⟩
    rwa [heq] at hnoted

theorem leaves_iff (hnew : fault ∉ (s.move next).faults) :
    s.Leaves next t ↔ fault ∈ ((Turns.noteExit t fault).move s next).faults := by
  constructor
  · rintro ⟨turns, henter, hleave, hshows⟩
    have hnotes := Turns.notes_noteExit fault henter hleave
    have hown : (Turns.noteExit t fault).Notes fault .own :=
      Turns.notes_noteExit fault (fun _ => rfl) fun _ hne => absurd rfl hne
    exact hnotes.mem_of_move_ne hown hshows
  · intro hnoted
    refine ⟨.noteExit t fault, fun _ => rfl, fun _ => Turns.eq_of_noteAt_ne, fun heq => hnew ?_⟩
    rwa [heq] at hnoted

end ParseState

/-- **Nesting is balanced.** Whatever state a parser is in, and whatever it is made to do, it comes
back at the depth it started at, whether it succeeds or not. On the way the depth is never less than
that nor beyond the limit. Levels are only left at a greater depth than the first one, so never at
depth zero, and what leaving does elsewhere does not matter. Nothing but entering and leaving levels
changes the depth. -/
theorem nesting_is_balanced (s : ParseState) (h : s.depth ≤ s.maxDepth) (next : Move) :
    (s.move next).depth = s.depth ∧
      (∀ t, s.Visits next t → s.depth ≤ t.depth ∧ t.depth ≤ s.maxDepth) ∧
      (∀ t, s.Leaves next t → s.depth < t.depth) ∧
      (∀ turns : Turns, turns.AgreesWithin s.depth s.maxDepth →
        turns.move s next = s.move next) ∧
      ∀ turns : Turns, turns.KeepsDepth → (turns.move s next).depth = s.depth := by
  refine ⟨Passage.depth.move s next, fun t ht => ht.depth h, fun t ht => ht.depth.1, ?_, ?_⟩
  · exact fun turns hturns => hturns.move_eq next
  · exact fun turns hturns => hturns.move s next

/-- An operand that is missing at the limit of nesting, where a third level is entered and left. -/
theorem nesting_is_balanced_of_missing_operand :
    let s := ParseState.start 3 "(1 + )"
    let t := s.enter.advance.enter.advance.advance
    s.depth ≤ s.maxDepth ∧ s.Enters (.expression .lowest) t ∧
      s.Leaves (.expression .lowest) t.enter ∧ t.enter.depth = 3 ∧
      t.enter.depth ≤ s.maxDepth ∧ s.depth < t.enter.depth ∧
      (s.move (.expression .lowest)).current = ⟨.rightParen, ")", ⟨5, 6, 1, 6⟩⟩ ∧
      (s.move (.expression .lowest)).depth = 0 := by
  intro s t
  have hstart : s.depth ≤ s.maxDepth := Nat.zero_le 3
  have hnew : default ∉ (s.move (.expression .lowest)).faults := by decide +kernel
  have henters : s.Enters (.expression .lowest) t := (s.enters_iff hnew).mpr (by decide +kernel)
  have hleaves : s.Leaves (.expression .lowest) t.enter :=
    (s.leaves_iff hnew).mpr (by decide +kernel)
  obtain ⟨hdepth, hvisits, hleft, -, -⟩ := nesting_is_balanced s hstart (.expression .lowest)
  exact ⟨hstart, henters, hleaves, rfl, (hvisits _ (.entered henters)).2, hleft _ hleaves,
    by decide +kernel, hdepth⟩

end MonkeySyntax
