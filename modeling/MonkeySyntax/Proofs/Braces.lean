import MonkeySyntax.Proofs.Layers
import MonkeySyntax.Proofs.Passage
import MonkeySyntax.Proofs.Stream

/-!
# Braces are always accounted for

A list of statements is read at a level, the number of braces that are open around it. Readers come
back to the level they started at when they succeed. When they fail, they fail inside the braces of
their list or on the very brace that closes it, and from there `resync` finds the way back to the
level. So however a source is broken, a list never takes tokens from the list around it.

Whatever else is to be known of the states on the way, a `Course` says; the pass over the readers
below is made once, for any course, and for two sets of inner readers that come out the same.
-/

namespace MonkeySyntax

open ParseM

namespace ParseState

/-- The source ahead has an end. -/
def Ends (s : ParseState) : Prop := ∃ ts last, s.Sees ts last

/-- Right before the current token `level` braces are open. -/
structure Starts (level : Nat) (s : ParseState) : Prop where
  ends : s.Ends
  braces_eq : s.braces = bracesAfter level s.current.kind

/-- Right after the current token `level` braces are open. -/
structure Stands (level : Nat) (s : ParseState) : Prop where
  ends : s.Ends
  braces_eq : s.braces = level

/-- No brace that was open at `level` is closed, except perhaps the last one by the current
token. -/
structure Inside (level : Nat) (s : ParseState) : Prop where
  ends : s.Ends
  braces_le : level ≤ s.braces ∨ s.current.kind = .rightBrace ∧ s.braces + 1 = level

/-- A place from which a list of statements at `level` goes on: the next token of the list, or the
end of the source with the list still open. -/
def Resumes (level : Nat) (s : ParseState) : Prop :=
  s.Starts level ∨ s.Ends ∧ s.current.kind = .eof ∧ level ≤ s.braces

variable {s t : ParseState} {level : Nat}

theorem Ends.advance (h : s.Ends) : s.advance.Ends := by
  obtain ⟨ts, last, hsees⟩ := h
  exact ⟨ts.tail, last, hsees.advance⟩

theorem Ends.congr (h : s.Ends) (ht : t.stream = s.stream) : t.Ends := by
  obtain ⟨ts, last, hsees⟩ := h
  exact ⟨ts, last, hsees.congr ht⟩

theorem Ends.peek_eof (h : s.Ends) (heof : s.current.kind = .eof) : s.peek.kind = .eof := by
  obtain ⟨ts, last, hsees⟩ := h
  rw [hsees.peek_eq, hsees.current_eof_iff.mp heof]
  exact hsees.last_eof

theorem Stands.advance (h : s.Stands level) : s.advance.Starts level :=
  ⟨h.ends.advance, by rw [braces_advance, h.braces_eq, current_advance]⟩

theorem Stands.inside (h : s.Stands level) : s.Inside level :=
  ⟨h.ends, .inl (Nat.le_of_eq h.braces_eq.symm)⟩

theorem Stands.enter (h : s.Stands level) : s.enter.Stands level :=
  ⟨h.ends.congr s.stream_enter, h.braces_eq⟩

theorem Stands.inside_of_succ (h : s.Stands (level + 1)) : s.Inside level :=
  ⟨h.ends, .inl (by rw [h.braces_eq]; omega)⟩

theorem Starts.enter (h : s.Starts level) : s.enter.Starts level :=
  ⟨h.ends.congr s.stream_enter, h.braces_eq⟩

theorem Starts.stands (h : s.Starts level) (hopening : s.current.kind ≠ .leftBrace)
    (hclosing : s.current.kind ≠ .rightBrace) : s.Stands level := by
  refine ⟨h.ends, h.braces_eq.trans ?_⟩
  cases hkind : s.current.kind <;> simp_all [bracesAfter]

theorem Starts.inside (h : s.Starts level) : s.Inside level := by
  refine ⟨h.ends, ?_⟩
  rw [h.braces_eq]
  cases hkind : s.current.kind <;> simp [bracesAfter]
  omega

theorem Inside.record (h : s.Inside level) (fault : Fault) : (s.record fault).Inside level :=
  ⟨h.ends.congr (s.stream_record fault), h.braces_le⟩

theorem Inside.advance (h : s.Inside level)
    (hclosing : ¬ (s.current.kind = .rightBrace ∧ s.braces < level)) :
    s.advance.Inside level := by
  refine ⟨h.ends.advance, ?_⟩
  have hle : level ≤ s.braces := by
    rcases h.braces_le with hle | ⟨hkind, hbraces⟩
    · exact hle
    · exact absurd ⟨hkind, by omega⟩ hclosing
  rw [braces_advance, current_advance]
  cases hkind : s.peek.kind <;> simp [bracesAfter] <;> omega

/-- Skipping a statement ends on the brace that closes the list, or at its level, or at the end of
the source. -/
theorem Inside.resync (h : s.Inside level) :
    ((s.resync level).1 = true → (s.resync level).2.Ends ∧
      (s.resync level).2.current.kind = .rightBrace ∧ (s.resync level).2.braces + 1 = level) ∧
    ((s.resync level).1 = false → (s.resync level).2.Stands level ∨
      (s.resync level).2.Ends ∧ (s.resync level).2.current.kind = .eof ∧
        level ≤ (s.resync level).2.braces) := by
  fun_induction ParseState.resync level s with
  | case1 s heof =>
      refine ⟨by simp, fun _ => .inr ⟨h.ends, heof, ?_⟩⟩
      rcases h.braces_le with hle | ⟨hkind, -⟩
      · exact hle
      · simp [hkind] at heof
  | case2 s heof hclosing =>
      refine ⟨fun _ => ⟨h.ends, hclosing.1, ?_⟩, by simp⟩
      rcases h.braces_le with hle | ⟨-, hbraces⟩
      · exact absurd hclosing.2 (Nat.not_lt.mpr hle)
      · exact hbraces
  | case3 s heof hclosing hstop => exact ⟨by simp, fun _ => .inl ⟨h.ends, hstop.1⟩⟩
  | case4 s heof hclosing hstop ih => exact ih (h.advance hclosing)

theorem Resumes.starts (h : s.Resumes level) (heof : s.current.kind ≠ .eof) : s.Starts level := by
  rcases h with h | ⟨-, h, -⟩
  · exact h
  · exact absurd h heof

theorem Resumes.stands_of_brace (h : s.Resumes (level + 1))
    (hbrace : s.current.kind = .rightBrace) : s.Stands level := by
  have hstarts := h.starts (by simp [hbrace])
  refine ⟨hstarts.ends, hstarts.braces_eq.trans ?_⟩
  rw [hbrace]
  rfl

theorem Resumes.inside (h : s.Resumes (level + 1)) : s.Inside level := by
  rcases h with h | ⟨hends, -, hle⟩
  · refine ⟨h.ends, .inl ?_⟩
    rw [h.braces_eq]
    cases s.current.kind <;> simp [bracesAfter]
    omega
  · exact ⟨hends, .inl (Nat.le_of_succ_le hle)⟩

theorem Resumes.braces_pos (h : s.Resumes (level + 1)) (heof : s.current.kind = .eof) :
    0 < s.braces := by
  rcases h with h | ⟨-, -, hle⟩
  · rw [h.braces_eq, heof]
    exact Nat.succ_pos _
  · exact Nat.lt_of_lt_of_le (Nat.succ_pos _) hle

theorem Inside.resync_zero_open (h : s.Inside 0) : (s.resync 0).1 = false := by
  cases hflag : (s.resync 0).1 with
  | true =>
      obtain ⟨-, -, hbraces⟩ := h.resync.1 hflag
      exact absurd hbraces (Nat.succ_ne_zero _)
  | false => rfl

theorem Inside.stands_resync_zero (h : s.Inside 0) (heof : (s.resync 0).2.current.kind ≠ .eof) :
    (s.resync 0).2.Stands 0 := by
  rcases h.resync.2 h.resync_zero_open with hstands | ⟨-, hkind, -⟩
  · exact hstands
  · exact absurd hkind heof

theorem Inside.resumes (h : s.Inside level) (hopen : (s.resync level).1 = false) :
    (s.resync level).2.advance.Resumes level := by
  rcases h.resync.2 hopen with hstands | ⟨hends, heof, hle⟩
  · exact .inl hstands.advance
  · have hpeek := hends.peek_eof heof
    refine .inr ⟨hends.advance, hpeek, ?_⟩
    rw [braces_advance, hpeek]
    exact hle

end ParseState

/-- The outcome of a reader that started at `level`. -/
def Leveled {α : Type} (level : Nat) : EStateM.Result Fault ParseState α → Prop
  | .ok _ t => t.Stands level
  | .error _ t => t.Inside level

namespace Leveled

variable {α β : Type} {m : ParseM α} {k : α → ParseM β} {f : α → β} {s t : ParseState}
  {level : Nat}

theorem of_ok {a : α} (h : Leveled level (m s)) (hrun : m s = .ok a t) : t.Stands level := by
  rwa [hrun] at h

theorem of_error {fault : Fault} (h : Leveled level (m s)) (hrun : m s = .error fault t) :
    t.Inside level := by
  rwa [hrun] at h

theorem bind (hm : Leveled level (m s)) (hk : ∀ a t, t.Stands level → Leveled level (k a t)) :
    Leveled level ((m >>= k) s) := by
  cases hrun : m s with
  | ok a t =>
      rw [bind_of_ok hrun]
      exact hk a t (hm.of_ok hrun)
  | error fault t =>
      rw [bind_of_error hrun]
      exact hm.of_error hrun

theorem map (hm : Leveled level (m s)) : Leveled level ((f <$> m) s) := by
  rw [map_apply]
  cases hrun : m s with
  | ok a t => exact hm.of_ok hrun
  | error fault t => exact hm.of_error hrun

theorem nested (hm : Leveled level (m s.enter)) (h : s.Inside level) :
    Leveled level (ParseM.nested m s) := by
  unfold ParseM.nested
  split
  · exact h
  · cases hrun : m s.enter with
    | ok a t =>
        have ht := hm.of_ok hrun
        exact ⟨ht.ends.congr t.stream_leave, ht.braces_eq⟩
    | error fault t =>
        have ht := hm.of_error hrun
        exact ⟨ht.ends.congr t.stream_leave, ht.braces_le⟩

end Leveled

/-- Inner phrases leave the braces as they are. -/
structure Inner.Leveled (inner : Inner) : Prop where
  expression : ∀ {level : Nat} {s : ParseState} (least : Precedence), s.Starts level →
    MonkeySyntax.Leveled level (inner.expression least s)
  block : ∀ {level : Nat} {s : ParseState}, s.Stands (level + 1) →
    MonkeySyntax.Leveled level (inner.block s)

/-! ### Courses -/

/-- What is to be known of the states that a reader comes by: what holds `here`, in each of them,
and what holds `along` the way from one to another while at least `level` braces stay open. -/
structure Course where
  here : ParseState → Prop
  along : Nat → ParseState → ParseState → Prop
  refl : ∀ level s, along level s s
  trans : ∀ {level s t u}, along level s t → along level t u → along level s u
  advance : ∀ {level s}, level ≤ s.braces → along level s s.advance
  record : ∀ level s fault, along level s (s.record fault)
  keeps : ∀ {level s t}, here s → along level s t → here t

namespace Course

/-- The course that asks for nothing. -/
def free : Course where
  here _ := True
  along _ _ _ := True
  refl _ _ := trivial
  trans _ _ := trivial
  advance _ := trivial
  record _ _ _ := trivial
  keeps _ _ := trivial

variable {c : Course} {s t : ParseState} {level : Nat}

structure Starts (c : Course) (level : Nat) (s : ParseState) : Prop where
  starts : s.Starts level
  here : c.here s

structure Stands (c : Course) (level : Nat) (s : ParseState) : Prop where
  stands : s.Stands level
  here : c.here s

theorem here_advance (c : Course) {s : ParseState} (h : c.here s) : c.here s.advance :=
  c.keeps h (c.advance (Nat.zero_le _))

theorem Stands.along_advance (h : c.Stands level s) : c.along level s s.advance :=
  c.advance (Nat.le_of_eq h.stands.braces_eq.symm)

theorem Stands.advance (h : c.Stands level s) : c.Starts level s.advance :=
  ⟨h.stands.advance, c.here_advance h.here⟩

theorem Starts.stands_of_kind (h : c.Starts level s) (hopening : s.current.kind ≠ .leftBrace)
    (hclosing : s.current.kind ≠ .rightBrace) : c.Stands level s :=
  ⟨h.starts.stands hopening hclosing, h.here⟩

theorem along_resync (h : s.Inside level) : c.along level s (s.resync level).2 := by
  fun_induction ParseState.resync level s with
  | case1 s | case2 s | case3 s => exact c.refl level s
  | case4 s heof hclosing hstop ih =>
      have hle : level ≤ s.braces := by
        rcases h.braces_le with hle | ⟨hkind, hbraces⟩
        · exact hle
        · exact absurd ⟨hkind, by omega⟩ hclosing
      exact c.trans (c.advance hle) (ih (h.advance hclosing))

end Course

/-- A reader that started in `s` at `level` keeps to the course, and has the same outcome as
another one. -/
structure Tracked {α : Type} (c : Course) (level : Nat) (s : ParseState) (o o' : Ending α) :
    Prop where
  same : o' = o
  leveled : Leveled level o
  along : c.along level s o.state

namespace Tracked

variable {α β : Type} {c : Course} {m m' : ParseM α} {k k' : α → ParseM β} {f : α → β}
  {o o' : Ending α} {s t : ParseState} {level : Nat}

theorem ok (a : α) (h : s.Stands level) : Tracked c level s (.ok a s) (.ok a s) :=
  ⟨rfl, h, c.refl level s⟩

theorem error (fault : Fault) (h : s.Inside level) :
    Tracked c level s (.error fault s : Ending α) (.error fault s) :=
  ⟨rfl, h, c.refl level s⟩

theorem after (h : Tracked c level t o o') (hst : c.along level s t) : Tracked c level s o o' :=
  ⟨h.same, h.leveled, c.trans hst h.along⟩

theorem of_advance (h : Tracked c level s.advance o o') (hs : c.Stands level s) :
    Tracked c level s o o' :=
  h.after hs.along_advance

theorem bind (hm : Tracked c level s (m s) (m' s)) (hs : c.here s)
    (hk : ∀ a t, c.Stands level t → Tracked c level t (k a t) (k' a t)) :
    Tracked c level s ((m >>= k) s) ((m' >>= k') s) := by
  obtain ⟨hsame, hleveled, halong⟩ := hm
  cases hrun : m s with
  | ok a t =>
      rw [hrun] at hsame hleveled halong
      rw [bind_of_ok hrun, bind_of_ok hsame]
      exact (hk a t ⟨hleveled, c.keeps hs halong⟩).after halong
  | error fault t =>
      rw [hrun] at hsame hleveled halong
      rw [bind_of_error hrun, bind_of_error hsame]
      exact ⟨rfl, hleveled, halong⟩

theorem map (hm : Tracked c level s (m s) (m' s)) :
    Tracked c level s ((f <$> m) s) ((f <$> m') s) := by
  obtain ⟨hsame, hleveled, halong⟩ := hm
  rw [map_apply, map_apply, hsame]
  cases hrun : m s with
  | ok a t =>
      rw [hrun] at hleveled halong
      exact ⟨rfl, hleveled, halong⟩
  | error fault t =>
      rw [hrun] at hleveled halong
      exact ⟨rfl, hleveled, halong⟩

theorem expectPeek {kind : TokenKind} (hopening : kind ≠ .leftBrace)
    (hclosing : kind ≠ .rightBrace) (h : c.Stands level s) :
    Tracked c level s (ParseM.expectPeek kind s) (ParseM.expectPeek kind s) := by
  unfold ParseM.expectPeek
  split
  · rename_i hkind
    refine (ok () (h.stands.advance.stands ?_ ?_)).of_advance h <;> rwa [s.current_advance, hkind]
  · exact error _ h.stands.inside

theorem skipSemicolon (h : c.Stands level s) :
    Tracked c level s (ParseM.skipSemicolon s) (ParseM.skipSemicolon s) := by
  by_cases hkind : s.peek.kind = .semicolon
  · rw [skipSemicolon_of_kind hkind]
    exact (ok () (h.stands.advance.stands (by simp [hkind]) (by simp [hkind]))).of_advance h
  · rw [skipSemicolon_of_kind_ne hkind]
    exact ok () h.stands

/-- One level deeper, readers keep to the course `deeper`. -/
theorem nested {deeper : Course} (hm : s.depth < s.maxDepth →
      Tracked deeper level s.enter (m s.enter) (m' s.enter)) (h : s.Inside level)
    (hleave : ∀ {t}, deeper.along level s.enter t → c.along level s t.leave) :
    Tracked c level s (ParseM.nested m s) (ParseM.nested m' s) := by
  by_cases hdeep : s.maxDepth ≤ s.depth
  · unfold ParseM.nested
    rw [if_pos hdeep, if_pos hdeep]
    exact error _ h
  · obtain ⟨hsame, hleveled, halong⟩ := hm (Nat.lt_of_not_le hdeep)
    refine ⟨?_, hleveled.nested h, ?_⟩
    · unfold ParseM.nested
      rw [hsame]
    · unfold ParseM.nested
      rw [if_neg hdeep]
      cases hrun : m s.enter with
      | ok a t =>
          rw [hrun] at halong
          exact hleave halong
      | error fault t =>
          rw [hrun] at halong
          exact hleave halong

end Tracked

/-- Inner phrases keep to the course, and come out the same from both readers. -/
structure Inner.Tracked (c : Course) (inner inner' : Inner) : Prop where
  expression : ∀ {level : Nat} {s : ParseState} (least : Precedence), c.Starts level s →
    MonkeySyntax.Tracked c level s (inner.expression least s) (inner'.expression least s)
  block : ∀ {level : Nat} {s : ParseState}, c.Stands (level + 1) s →
    s.current.kind = .leftBrace → MonkeySyntax.Tracked c level s (inner.block s) (inner'.block s)

section Readers

variable {c : Course} {inner inner' : Inner} {s : ParseState} {level : Nat}

theorem tracked_integerLiteral (h : c.Stands level s) :
    Tracked c level s (integerLiteral s) (integerLiteral s) := by
  cases hvalue : s.current.integer? with
  | some value =>
      rw [integerLiteral_of_some hvalue]
      exact .ok _ h.stands
  | none =>
      rw [integerLiteral_of_none hvalue]
      exact .error _ h.stands.inside

theorem tracked_parameter (h : c.Stands level s) :
    Tracked c level s (parameter s) (parameter s) :=
  (Tracked.expectPeek (by decide) (by decide) h).bind h.here fun _ _ ht => .ok _ ht.stands

section Enumerations

variable {α : Type} {item item' : ParseM α} {more more' : Nat → ParseM (List α)}
  {items items' : ParseM (List α)}

theorem tracked_more (henum : Enumeration item more items) (henum' : Enumeration item' more' items')
    (hitem : ∀ {s : ParseState}, c.Stands level s → Tracked c level s (item s) (item' s))
    (steps : Nat) (h : c.Stands level s) : Tracked c level s (more steps s) (more' steps s) := by
  induction steps generalizing s with
  | zero =>
      rw [henum.more_zero, henum'.more_zero]
      exact .ok [] h.stands
  | succ steps ih =>
      by_cases hkind : s.peek.kind = .comma
      · rw [henum.more_of_comma hkind, henum'.more_of_comma hkind]
        have hstands := h.advance.stands_of_kind (by simp [hkind]) (by simp [hkind])
        refine Tracked.of_advance ?_ h
        refine (hitem hstands).bind hstands.here fun _ t ht => ?_
        exact (ih ht).bind ht.here fun _ _ hu => .ok _ hu.stands
      · rw [henum.more_of_comma_ne hkind, henum'.more_of_comma_ne hkind]
        exact .ok [] h.stands

theorem tracked_items (henum : Enumeration item more items)
    (henum' : Enumeration item' more' items')
    (hitem : ∀ {s : ParseState}, c.Stands level s → Tracked c level s (item s) (item' s))
    (h : c.Stands level s) : Tracked c level s (items s) (items' s) := by
  by_cases hkind : s.peek.kind = .rightParen
  · rw [henum.items_of_paren hkind, henum'.items_of_paren hkind]
    have hstands := h.stands.advance.stands (by simp [hkind]) (by simp [hkind])
    exact (Tracked.ok [] hstands).of_advance h
  · rw [henum.items_of_paren_ne hkind, henum'.items_of_paren_ne hkind]
    refine (hitem h).bind h.here fun _ t ht => ?_
    refine (tracked_more henum henum' hitem _ ht).bind ht.here fun _ u hu => ?_
    refine (Tracked.expectPeek (by decide) (by decide) hu).bind hu.here fun _ _ hv => ?_
    exact .ok _ hv.stands

end Enumerations

variable (hinner : inner.Tracked c inner')
include hinner

theorem tracked_unaryRest (operator : UnaryOp) (h : c.Stands level s) :
    Tracked c level s (unaryRest inner operator s) (unaryRest inner' operator s) := by
  refine Tracked.of_advance ?_ h
  exact (hinner.expression .unary h.advance).bind h.advance.here fun _ _ ht => .ok _ ht.stands

theorem tracked_groupRest (h : c.Stands level s) :
    Tracked c level s (groupRest inner s) (groupRest inner' s) := by
  refine Tracked.of_advance ?_ h
  refine (hinner.expression .lowest h.advance).bind h.advance.here fun expr t ht => ?_
  exact (Tracked.expectPeek (by decide) (by decide) ht).bind ht.here fun _ _ hu => .ok _ hu.stands

theorem tracked_braced (h : c.Stands level s) :
    Tracked c level s (braced inner s) (braced inner' s) := by
  unfold braced
  by_cases hkind : s.peek.kind = .leftBrace
  · rw [bind_of_ok (expectPeek_of_kind hkind), bind_of_ok (expectPeek_of_kind hkind)]
    refine Tracked.of_advance (hinner.block ⟨⟨h.stands.ends.advance, ?_⟩, h.advance.here⟩ hkind) h
    rw [s.braces_advance, hkind, h.stands.braces_eq]
    rfl
  · have hfails : expectPeek .leftBrace s = .error (s.peekFault .leftBrace) s := if_neg hkind
    rw [bind_of_error hfails, bind_of_error hfails]
    exact .error _ h.stands.inside

theorem tracked_elseBranch (h : c.Stands level s) :
    Tracked c level s (elseBranch inner s) (elseBranch inner' s) := by
  by_cases hkind : s.peek.kind = .kwElse
  · rw [elseBranch_of_else hkind, elseBranch_of_else hkind]
    have hstands := h.advance.stands_of_kind (by simp [hkind]) (by simp [hkind])
    exact (tracked_braced hinner hstands).map.of_advance h
  · rw [elseBranch_of_else_ne hkind, elseBranch_of_else_ne hkind]
    exact .ok none h.stands

theorem tracked_conditionalRest (h : c.Stands level s) :
    Tracked c level s (conditionalRest inner s) (conditionalRest inner' s) := by
  refine (Tracked.expectPeek (by decide) (by decide) h).bind h.here fun _ t ht => ?_
  refine (tracked_groupRest hinner ht).bind ht.here fun _ t ht => ?_
  refine (tracked_braced hinner ht).bind ht.here fun _ t ht => ?_
  exact (tracked_elseBranch hinner ht).bind ht.here fun _ _ hu => .ok _ hu.stands

theorem tracked_argument (h : c.Stands level s) :
    Tracked c level s (argument inner s) (argument inner' s) :=
  Tracked.of_advance (hinner.expression .lowest h.advance) h

theorem tracked_functionRest (h : c.Stands level s) :
    Tracked c level s (functionRest inner s) (functionRest inner' s) := by
  refine (Tracked.expectPeek (by decide) (by decide) h).bind h.here fun _ t ht => ?_
  refine (tracked_items enumeration_parameters enumeration_parameters tracked_parameter ht).bind
    ht.here fun _ t ht => ?_
  exact (tracked_braced hinner ht).bind ht.here fun _ _ hu => .ok _ hu.stands

theorem tracked_start (h : c.Starts level s) :
    Tracked c level s (ParseM.start inner s) (ParseM.start inner' s) := by
  cases hrule : StartRule.ofKind? s.current.kind with
  | none =>
      rw [start_of_none hrule, start_of_none hrule]
      exact .error _ h.starts.inside
  | some rule =>
      rw [start_of_rule hrule, start_of_rule hrule]
      -- No expression starts with a brace.
      have hstands : c.Stands level s := by
        refine h.stands_of_kind ?_ ?_ <;> intro hkind <;>
          simp [hkind, StartRule.ofKind?] at hrule
      cases rule with
      | identifier => exact .ok _ hstands.stands
      | integer => exact tracked_integerLiteral hstands
      | boolean => exact .ok _ hstands.stands
      | unary operator => exact tracked_unaryRest hinner operator hstands
      | group => exact tracked_groupRest hinner hstands
      | conditional => exact tracked_conditionalRest hinner hstands
      | function => exact tracked_functionRest hinner hstands

theorem tracked_continueRule (left : Expr) (rule : ContinueRule) (h : c.Stands level s) :
    Tracked c level s (rule.parse inner left s) (rule.parse inner' left s) := by
  cases rule with
  | binary operator =>
      refine Tracked.of_advance ?_ h
      exact (hinner.expression _ h.advance).bind h.advance.here fun _ _ ht => .ok _ ht.stands
  | call =>
      have harguments := tracked_items (enumeration_arguments inner) (enumeration_arguments inner')
        (tracked_argument hinner) h
      exact harguments.bind h.here fun _ _ ht => .ok _ ht.stands

theorem tracked_continued (least : Precedence) (steps : Nat) (left : Expr) (h : c.Stands level s) :
    Tracked c level s (continued inner least steps left s)
      (continued inner' least steps left s) := by
  induction steps generalizing s left with
  | zero => exact .ok left h.stands
  | succ steps ih =>
      cases hcontinues : s.peek.kind.continues least with
      | false =>
          rw [continued_of_continues_eq_false hcontinues,
            continued_of_continues_eq_false hcontinues]
          exact .ok left h.stands
      | true =>
          obtain ⟨rule, hrule⟩ := ContinueRule.exists_of_continues hcontinues
          rw [continued_of_rule hcontinues hrule, continued_of_rule hcontinues hrule]
          have hstands : c.Stands level s.advance := by
            refine h.advance.stands_of_kind ?_ ?_ <;> rw [s.current_advance] <;> intro hkind <;>
              simp [hkind, ContinueRule.ofKind?] at hrule
          refine Tracked.of_advance ?_ h
          refine (tracked_continueRule hinner left rule hstands).bind hstands.here ?_
          exact fun longer t ht => ih longer ht

theorem tracked_expressionBody (least : Precedence) (h : c.Starts level s) :
    Tracked c level s (expressionBody inner least s) (expressionBody inner' least s) := by
  refine (tracked_start hinner h).bind h.here fun left t ht => ?_
  exact tracked_continued hinner least t.remaining left ht

theorem tracked_letStatement (h : c.Stands level s) :
    Tracked c level s (letStatement inner s) (letStatement inner' s) := by
  refine (Tracked.expectPeek (by decide) (by decide) h).bind h.here fun _ t ht => ?_
  refine (Tracked.expectPeek (by decide) (by decide) ht).bind ht.here fun _ u hu => ?_
  refine Tracked.of_advance ?_ hu
  refine (hinner.expression .lowest hu.advance).bind hu.advance.here fun _ v hv => ?_
  exact (Tracked.skipSemicolon hv).bind hv.here fun _ _ hw => .ok _ hw.stands

theorem tracked_returnStatement (h : c.Stands level s) :
    Tracked c level s (returnStatement inner s) (returnStatement inner' s) := by
  by_cases hstops : s.peek.kind.Stops
  · rw [returnStatement_of_stops hstops, returnStatement_of_stops hstops]
    exact (Tracked.skipSemicolon h).map
  · rw [returnStatement_of_not_stops hstops, returnStatement_of_not_stops hstops]
    refine Tracked.of_advance ?_ h
    refine (hinner.expression .lowest h.advance).bind h.advance.here fun _ t ht => ?_
    exact (Tracked.skipSemicolon ht).bind ht.here fun _ _ hu => .ok _ hu.stands

theorem tracked_statement (h : c.Starts level s) :
    Tracked c level s (statement inner s) (statement inner' s) := by
  by_cases hlet : s.current.kind = .kwLet
  · rw [statement_of_let hlet, statement_of_let hlet]
    have hstands := h.stands_of_kind (by simp [hlet]) (by simp [hlet])
    exact (tracked_letStatement hinner hstands).map
  by_cases hreturn : s.current.kind = .kwReturn
  · rw [statement_of_return hreturn, statement_of_return hreturn]
    have hstands := h.stands_of_kind (by simp [hreturn]) (by simp [hreturn])
    exact (tracked_returnStatement hinner hstands).map
  by_cases hsemicolon : s.current.kind = .semicolon
  · rw [statement_of_semicolon hsemicolon, statement_of_semicolon hsemicolon]
    exact .ok none (h.starts.stands (by simp [hsemicolon]) (by simp [hsemicolon]))
  · rw [statement_of_other hlet hreturn hsemicolon, statement_of_other hlet hreturn hsemicolon]
    have hexpression : Tracked c level s (expressionStatement inner s)
        (expressionStatement inner' s) := by
      refine (hinner.expression .lowest h).bind h.here fun _ t ht => ?_
      exact (Tracked.skipSemicolon ht).bind ht.here fun _ _ hu => .ok _ hu.stands
    exact hexpression.map

end Readers

/-! ### Levels -/

section Levels

variable {inner : Inner} {s : ParseState} {level : Nat}

theorem Inner.Leveled.tracked (h : inner.Leveled) : inner.Tracked .free inner :=
  ⟨fun least hs => ⟨rfl, h.expression least hs.starts, trivial⟩,
    fun hs _ => ⟨rfl, h.block hs.stands, trivial⟩⟩

theorem leveled_statement (hinner : inner.Leveled) (h : s.Starts level) :
    Leveled level (statement inner s) :=
  (tracked_statement hinner.tracked ⟨h, trivial⟩).leveled

/-- A list in braces ends on the brace that closes it, or else at the end of the source. -/
theorem leveled_blockStatements (hinner : inner.Leveled) (steps : Nat)
    (h : s.Resumes (level + 1)) :
    Leveled level (blockStatements inner (level + 1) steps s) := by
  induction steps generalizing s with
  | zero => exact h.inside
  | succ steps ih =>
      by_cases hbrace : s.current.kind = .rightBrace
      · rw [blockStatements_of_brace hbrace]
        exact h.stands_of_brace hbrace
      by_cases heof : s.current.kind = .eof
      · rw [blockStatements_of_eof heof]
        exact h.inside
      have hstarts := h.starts heof
      have hstatement := leveled_statement hinner hstarts
      cases hrun : statement inner s with
      | ok found t =>
          rw [blockStatements_of_ok hbrace heof hrun]
          exact (ih (.inl (hstatement.of_ok hrun).advance)).map
      | error fault t =>
          have hinside := (hstatement.of_error hrun).record fault
          cases hclosed : ((t.record fault).resync (level + 1)).1 with
          | true =>
              rw [blockStatements_of_error_of_closed hbrace heof hrun hclosed]
              obtain ⟨hends, -, hbraces⟩ := hinside.resync.1 hclosed
              exact ⟨hends, Nat.succ.inj hbraces⟩
          | false =>
              rw [blockStatements_of_error_of_open hbrace heof hrun hclosed]
              exact ih (hinside.resumes hclosed)

theorem leveled_blockBody (hinner : inner.Leveled) (h : s.Stands (level + 1)) :
    Leveled level (blockBody inner s) := by
  have hlist := leveled_blockStatements hinner s.advance.remaining (.inl h.advance)
  rw [← h.braces_eq] at hlist
  exact hlist.bind fun _ _ ht => ht

end Levels

theorem Inner.leveled_level (n : Nat) : (Inner.level n).Leveled := by
  induction n with
  | zero =>
      exact ⟨fun least h => h.inside, fun h => h.inside_of_succ⟩
  | succ n ih =>
      constructor
      · intro level s least h
        have hbody := tracked_expressionBody ih.tracked least ⟨h.enter, trivial⟩
        exact Leveled.nested hbody.leveled h.inside
      · intro level s h
        exact Leveled.nested (leveled_blockBody ih h.enter) h.inside_of_succ

end MonkeySyntax
