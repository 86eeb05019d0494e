import MonkeySyntax.Proofs.Passage

/-!
# Readers that do the same, unless it shows

Two parsers are made of the same readers, except for what a reader leaves to others: to the readers
of inner phrases, to a probe, or to the ways into a level of nesting and out of it. Where these do
the same, so do the readers. Where they do not, the second parser may be left in a state that shows
it, and if whatever shows keeps showing, then the second parser shows it in the end.

A `Likeness` says in which states the two are compared, and what it is to show. Nothing may be
counted as showing, and then the readers just do the same.
-/

namespace MonkeySyntax

open ParseM

/-- How two parsers are compared. -/
structure Likeness where
  /-- What holds between a state of the second parser and any later one. -/
  keeps : ParseState → ParseState → Prop
  /-- The states in which both are to do the same. -/
  here : ParseState → Prop
  /-- The states in which the second shows that it did not. -/
  shown : ParseState → Prop
  passage : Passage keeps
  here_of_keeps : ∀ {s t}, here s → keeps s t → here t
  shown_of_keeps : ∀ {s t}, shown s → keeps s t → shown t

namespace Likeness

/-- The two endings are the same, or the second one shows that they are not. -/
def Agree (l : Likeness) {α : Type} (o o' : Ending α) : Prop := o = o' ∨ l.shown o'.state

theorem here_advance (l : Likeness) {s : ParseState} (h : l.here s) : l.here s.advance :=
  l.here_of_keeps h (l.passage.advance s)

/-- A fault that is put on record shows, and stays there. -/
def noted (fault : Fault) : Likeness where
  keeps s t := fault ∈ s.faults → fault ∈ t.faults
  here _ := True
  shown s := fault ∈ s.faults
  passage :=
    { refl := fun _ => id
      trans := fun hst htu hs => htu (hst hs)
      advance := fun _ => id
      record := fun _ _ => List.mem_append_left _
      nested := fun _ h => h }
  here_of_keeps _ _ := trivial
  shown_of_keeps h hst := hst h

end Likeness

/-- From where they are compared, the two readers do the same unless it shows. -/
structure Alike {α : Type} (l : Likeness) (m m' : ParseM α) : Prop where
  keeps : m'.Keeps l.keeps
  same : ∀ s, l.here s → l.Agree (m s) (m' s)

structure Inner.Alike (l : Likeness) (inner inner' : Inner) : Prop where
  expression : ∀ least, MonkeySyntax.Alike l (inner.expression least) (inner'.expression least)
  block : MonkeySyntax.Alike l inner.block inner'.block

namespace Alike

variable {l : Likeness} {α β : Type} {m m' : ParseM α} {k k' : α → ParseM β}

theorem refl (h : m.Keeps l.keeps) : Alike l m m := ⟨h, fun _ _ => .inl rfl⟩

theorem of_ok {s t : ParseState} {a : α} (h : Alike l m m') (hs : l.here s)
    (hrun : m' s = .ok a t) : m s = .ok a t ∨ l.shown t := by
  have hagree := h.same s hs
  rw [hrun] at hagree
  exact hagree

theorem of_error {s t : ParseState} {fault : Fault} (h : Alike l m m') (hs : l.here s)
    (hrun : m' s = .error fault t) : m s = .error fault t ∨ l.shown t := by
  have hagree := h.same s hs
  rw [hrun] at hagree
  exact hagree

theorem bind (hm : Alike l m m') (hk : ∀ a, Alike l (k a) (k' a)) :
    Alike l (m >>= k) (m' >>= k') := by
  refine ⟨l.passage.bind hm.keeps fun a => (hk a).keeps, fun s hs => ?_⟩
  cases hrun : m' s with
  | ok a t =>
      have ht := hm.keeps.of_ok hrun
      rw [bind_of_ok hrun]
      rcases hm.of_ok hs hrun with hsame | hshown
      · rw [bind_of_ok hsame]
        exact (hk a).same t (l.here_of_keeps hs ht)
      · exact .inr (l.shown_of_keeps hshown ((hk a).keeps t))
  | error fault t =>
      rw [bind_of_error hrun]
      rcases hm.of_error hs hrun with hsame | hshown
      · rw [bind_of_error hsame]
        exact .inl rfl
      · exact .inr hshown

/-- A step that both make, and then what is alike. -/
theorem after (hm : m.Keeps l.keeps) (hk : ∀ a, Alike l (k a) (k' a)) :
    Alike l (m >>= k) (m >>= k') :=
  (refl hm).bind hk

theorem pure (a : α) : Alike l (Pure.pure a) (Pure.pure a) := refl (l.passage.pure a)

/-- The last step, whose value both make the same of. -/
theorem finish (hm : Alike l m m') (f : α → β) :
    Alike l (m >>= fun a => Pure.pure (f a)) (m' >>= fun a => Pure.pure (f a)) :=
  hm.bind fun a => .pure (f a)

theorem map (hm : Alike l m m') (f : α → β) : Alike l (f <$> m) (f <$> m') := by
  rw [map_eq_pure_bind, map_eq_pure_bind]
  exact hm.finish f

theorem after_eq_or (h : Alike l m m') {s : ParseState} (hs : l.here s) :
    m.after s = m'.after s ∨ l.shown (m'.after s) := by
  refine (h.same s hs).imp_left fun hsame => ?_
  rw [ParseM.after, ParseM.after, hsame]

end Alike

section Readers

variable {l : Likeness} {inner inner' : Inner}

section Enumerations

variable {α : Type} {item item' : ParseM α} {more more' : Nat → ParseM (List α)}
  {items items' : ParseM (List α)}

theorem alike_more (henum : Enumeration item more items) (henum' : Enumeration item' more' items')
    (hitem : Alike l item item') (steps : Nat) : Alike l (more steps) (more' steps) := by
  have hkeeps := l.passage.more henum' hitem.keeps
  refine ⟨hkeeps steps, fun s hs => ?_⟩
  induction steps generalizing s with
  | zero =>
      rw [henum.more_zero, henum'.more_zero]
      exact .inl rfl
  | succ steps ih =>
      by_cases hkind : s.peek.kind = .comma
      · rw [henum.more_of_comma hkind, henum'.more_of_comma hkind]
        have hmore : Alike l (more steps) (more' steps) := ⟨hkeeps steps, ih⟩
        exact (hitem.bind fun _ => hmore.finish _).same s.advance (l.here_advance hs)
      · rw [henum.more_of_comma_ne hkind, henum'.more_of_comma_ne hkind]
        exact .inl rfl

theorem alike_items (henum : Enumeration item more items)
    (henum' : Enumeration item' more' items') (hitem : Alike l item item') :
    Alike l items items' := by
  refine ⟨l.passage.items henum' hitem.keeps, fun s hs => ?_⟩
  by_cases hkind : s.peek.kind = .rightParen
  · rw [henum.items_of_paren hkind, henum'.items_of_paren hkind]
    exact .inl rfl
  · rw [henum.items_of_paren_ne hkind, henum'.items_of_paren_ne hkind]
    refine Alike.same (hitem.bind fun _ => .after l.passage.get fun t => ?_) s hs
    refine (alike_more henum henum' hitem t.remaining).bind fun _ => ?_
    exact .after (l.passage.expectPeek _) fun _ => .pure _

end Enumerations

variable (hinner : inner.Alike l inner')
include hinner

theorem alike_argument : Alike l (argument inner) (argument inner') :=
  .after l.passage.step fun _ => hinner.expression _

theorem alike_unaryRest (operator : UnaryOp) :
    Alike l (unaryRest inner operator) (unaryRest inner' operator) := by
  refine .after l.passage.current fun _ => .after l.passage.step fun _ => ?_
  exact (hinner.expression _).finish _

theorem alike_groupRest : Alike l (groupRest inner) (groupRest inner') := by
  refine .after l.passage.step fun _ => (hinner.expression _).bind fun _ => ?_
  exact .after (l.passage.expectPeek _) fun _ => .pure _

theorem alike_braced : Alike l (braced inner) (braced inner') :=
  .after (l.passage.expectPeek _) fun _ => hinner.block

theorem alike_elseBranch : Alike l (elseBranch inner) (elseBranch inner') := by
  refine .after l.passage.peek fun next => ?_
  split
  · exact .after l.passage.step fun _ => (alike_braced hinner).finish _
  · exact .pure _

theorem alike_conditionalRest : Alike l (conditionalRest inner) (conditionalRest inner') := by
  refine .after l.passage.current fun _ => .after (l.passage.expectPeek _) fun _ => ?_
  refine (alike_groupRest hinner).bind fun _ => (alike_braced hinner).bind fun _ => ?_
  exact (alike_elseBranch hinner).finish _

theorem alike_functionRest : Alike l (functionRest inner) (functionRest inner') := by
  have hparameter : parameter.Keeps l.keeps := l.passage.parameter
  refine .after l.passage.current fun _ => .after (l.passage.expectPeek _) fun _ => ?_
  refine .after (l.passage.items enumeration_parameters hparameter) fun _ => ?_
  exact (alike_braced hinner).finish _

theorem alike_startRule (rule : StartRule) : Alike l (rule.parse inner) (rule.parse inner') := by
  cases rule with
  | identifier => exact .after l.passage.current fun _ => .pure _
  | integer => exact .refl l.passage.integerLiteral
  | boolean => exact .after l.passage.current fun _ => .pure _
  | unary operator => exact alike_unaryRest hinner operator
  | group => exact alike_groupRest hinner
  | conditional => exact alike_conditionalRest hinner
  | function => exact alike_functionRest hinner

theorem alike_start : Alike l (ParseM.start inner) (ParseM.start inner') := by
  refine .after l.passage.current fun token => ?_
  split
  · exact .refl (l.passage.throw _)
  · exact alike_startRule hinner _

theorem alike_continueRule (left : Expr) (rule : ContinueRule) :
    Alike l (rule.parse inner left) (rule.parse inner' left) := by
  cases rule with
  | binary operator =>
      refine .after l.passage.current fun _ => .after l.passage.step fun _ => ?_
      exact (hinner.expression _).finish _
  | call =>
      have harguments := alike_items (enumeration_arguments inner) (enumeration_arguments inner')
        (alike_argument hinner)
      exact .after l.passage.current fun _ => harguments.finish _

theorem alike_continued (least : Precedence) (steps : Nat) (left : Expr) :
    Alike l (continued inner least steps left) (continued inner' least steps left) := by
  induction steps generalizing left with
  | zero => exact .pure left
  | succ steps ih =>
      refine .after l.passage.peek fun next => ?_
      split
      · split
        · exact .pure left
        · refine .after l.passage.step fun _ => ?_
          exact (alike_continueRule hinner left _).bind fun longer => ih longer
      · exact .pure left

theorem alike_expressionBody (least : Precedence) :
    Alike l (expressionBody inner least) (expressionBody inner' least) := by
  refine (alike_start hinner).bind fun left => .after l.passage.get fun s => ?_
  exact alike_continued hinner least s.remaining left

theorem alike_letStatement : Alike l (letStatement inner) (letStatement inner') := by
  refine .after l.passage.current fun _ => .after (l.passage.expectPeek _) fun _ => ?_
  refine .after l.passage.current fun _ => .after (l.passage.expectPeek _) fun _ => ?_
  refine .after l.passage.step fun _ => (hinner.expression _).bind fun _ => ?_
  exact .after l.passage.skipSemicolon fun _ => .pure _

theorem alike_returnStatement : Alike l (returnStatement inner) (returnStatement inner') := by
  refine .after l.passage.current fun _ => .after l.passage.peek fun next => ?_
  split
  · exact .after l.passage.skipSemicolon fun _ => .pure _
  · exact .after l.passage.skipSemicolon fun _ => .pure _
  · exact .after l.passage.skipSemicolon fun _ => .pure _
  · refine .after l.passage.step fun _ => (hinner.expression _).bind fun _ => ?_
    exact .after l.passage.skipSemicolon fun _ => .pure _

theorem alike_expressionStatement :
    Alike l (expressionStatement inner) (expressionStatement inner') := by
  refine .after l.passage.current fun _ => (hinner.expression _).bind fun _ => ?_
  exact .after l.passage.skipSemicolon fun _ => .pure _

theorem alike_statement : Alike l (statement inner) (statement inner') := by
  refine .after l.passage.current fun token => ?_
  split
  · exact (alike_letStatement hinner).finish _
  · exact (alike_returnStatement hinner).finish _
  · exact .pure _
  · exact (alike_expressionStatement hinner).finish _

end Readers

/-! ### Lists of statements -/

section Probed

variable {l : Likeness} {probe probe' : Probe} {inner inner' : Inner}

theorem alike_probedBlockStatements {level : Nat}
    (hattempt : Alike l (probe.attempt inner level) (probe'.attempt inner' level)) (steps : Nat) :
    Alike l (probe.blockStatements inner level steps)
      (probe'.blockStatements inner' level steps) := by
  have hkeeps := l.passage.probedBlockStatements hattempt.keeps
  refine ⟨hkeeps steps, fun s hs => ?_⟩
  induction steps generalizing s with
  | zero => exact .inl rfl
  | succ steps ih =>
      by_cases hbrace : s.current.kind = .rightBrace
      · rw [Probe.blockStatements_of_brace hbrace, Probe.blockStatements_of_brace hbrace]
        exact .inl rfl
      by_cases heof : s.current.kind = .eof
      · rw [Probe.blockStatements_of_eof heof, Probe.blockStatements_of_eof heof]
        exact .inl rfl
      have hrest : Alike l (probe.blockStatements inner level steps)
          (probe'.blockStatements inner' level steps) := ⟨hkeeps steps, ih⟩
      cases hrun : probe'.attempt inner' level s with
      | ok found t =>
          have ht := l.passage.trans (hattempt.keeps.of_ok hrun) (l.passage.advance t)
          rw [Probe.blockStatements_of_ok hbrace heof hrun]
          rcases hattempt.of_ok hs hrun with hsame | hshown
          · rw [Probe.blockStatements_of_ok hbrace heof hsame]
            exact (hrest.map _).same t.advance (l.here_of_keeps hs ht)
          · have hon := l.shown_of_keeps hshown (l.passage.advance t)
            exact .inr (l.shown_of_keeps hon ((hrest.map (found.toList ++ ·)).keeps t.advance))
      | error fault t =>
          have hskip := l.passage.skip t fault level
          have ht := l.passage.trans (hattempt.keeps.of_error hrun) hskip
          have hagree := hattempt.of_error hs hrun
          cases hclosed : ((t.record fault).resync level).1 with
          | true =>
              rw [Probe.blockStatements_of_error_of_closed hbrace heof hrun hclosed]
              rcases hagree with hsame | hshown
              · rw [Probe.blockStatements_of_error_of_closed hbrace heof hsame hclosed]
                exact .inl rfl
              · exact .inr (l.shown_of_keeps hshown hskip)
          | false =>
              rw [Probe.blockStatements_of_error_of_open hbrace heof hrun hclosed]
              rcases hagree with hsame | hshown
              · rw [Probe.blockStatements_of_error_of_open hbrace heof hsame hclosed]
                exact ih _ (l.here_advance (l.here_of_keeps hs ht))
              · have hon := l.shown_of_keeps hshown (l.passage.trans hskip (l.passage.advance _))
                exact .inr (l.shown_of_keeps hon (hkeeps steps _))

theorem alike_probedBlockBody
    (hattempt : ∀ level, Alike l (probe.attempt inner level) (probe'.attempt inner' level)) :
    Alike l (probe.blockBody inner) (probe'.blockBody inner') := by
  refine .after l.passage.get fun s => .after l.passage.step fun _ => ?_
  refine .after l.passage.get fun t => ?_
  exact (alike_probedBlockStatements (hattempt s.braces) t.remaining).finish _

theorem probedProgramStatements_eq_or
    (hattempt : Alike l (probe.attempt inner 0) (probe'.attempt inner' 0)) (steps : Nat)
    {s : ParseState} (hs : l.here s) :
    probe.programStatements inner steps s = probe'.programStatements inner' steps s ∨
      l.shown (probe'.programStatements inner' steps s).2 := by
  have hkeeps := l.passage.probedProgramStatements hattempt.keeps
  induction steps generalizing s with
  | zero => exact .inl rfl
  | succ steps ih =>
      by_cases heof : s.current.kind = .eof
      · rw [Probe.programStatements_of_eof heof, Probe.programStatements_of_eof heof]
        exact .inl rfl
      cases hrun : probe'.attempt inner' 0 s with
      | ok found t =>
          have ht := l.passage.trans (hattempt.keeps.of_ok hrun) (l.passage.advance t)
          rw [Probe.programStatements_of_ok heof hrun]
          rcases hattempt.of_ok hs hrun with hsame | hshown
          · rw [Probe.programStatements_of_ok heof hsame]
            exact (ih (l.here_of_keeps hs ht)).imp_left fun hrest => by rw [hrest]
          · have hon := l.shown_of_keeps hshown (l.passage.advance t)
            exact .inr (l.shown_of_keeps hon (hkeeps steps t.advance))
      | error fault t =>
          have hskip := l.passage.trans (l.passage.skip t fault 0) (l.passage.advance _)
          have ht := l.passage.trans (hattempt.keeps.of_error hrun) hskip
          rw [Probe.programStatements_of_error heof hrun]
          rcases hattempt.of_error hs hrun with hsame | hshown
          · rw [Probe.programStatements_of_error heof hsame]
            exact ih (l.here_of_keeps hs ht)
          · exact .inr (l.shown_of_keeps (l.shown_of_keeps hshown hskip) (hkeeps steps _))

end Probed

section Plain

variable {l : Likeness} {inner inner' : Inner} (hinner : inner.Alike l inner')
include hinner

theorem alike_attempt_idle (level : Nat) :
    Alike l (Probe.idle.attempt inner level) (Probe.idle.attempt inner' level) := by
  rw [Probe.attempt_idle, Probe.attempt_idle]
  exact alike_statement hinner

theorem alike_blockBody : Alike l (blockBody inner) (blockBody inner') := by
  rw [← Probe.blockBody_idle, ← Probe.blockBody_idle]
  exact alike_probedBlockBody (alike_attempt_idle hinner)

theorem programStatements_eq_or (steps : Nat) {s : ParseState} (hs : l.here s) :
    s.programStatements inner steps = s.programStatements inner' steps ∨
      l.shown (s.programStatements inner' steps).2 := by
  rw [← Probe.programStatements_idle, ← Probe.programStatements_idle]
  exact probedProgramStatements_eq_or (alike_attempt_idle hinner 0) steps hs

end Plain

/-! ### Levels of nesting -/

/-- The ways into a level of nesting and out of it. -/
structure Turns where
  enter : ParseState → ParseState
  leave : ParseState → ParseState

namespace Turns

/-- The turns of the parser. -/
def own : Turns := ⟨.enter, .leave⟩

/-- `ParseM.nested` with these turns. -/
def nested {α : Type} (turns : Turns) (step : ParseM α) : ParseM α := fun s =>
  if s.maxDepth ≤ s.depth then tooDeep s
  else
    match step (turns.enter s) with
    | .ok value s => .ok value (turns.leave s)
    | .error fault s => .error fault (turns.leave s)

theorem nested_own {α : Type} (step : ParseM α) : own.nested step = ParseM.nested step := rfl

variable {turns : Turns} {α : Type} {m : ParseM α} {s : ParseState}

theorem nested_of_le (h : s.maxDepth ≤ s.depth) : turns.nested m s = tooDeep s := if_pos h

theorem after_nested (h : s.depth < s.maxDepth) :
    (turns.nested m).after s = turns.leave (m.after (turns.enter s)) := by
  unfold after Turns.nested
  rw [if_neg (Nat.not_le_of_lt h)]
  cases m (turns.enter s) <;> rfl

theorem keeps_nested {R : ParseState → ParseState → Prop} (hrefl : ∀ s, R s s)
    (h : ∀ s, R s (turns.leave (m.after (turns.enter s)))) : (turns.nested m).Keeps R := by
  intro s
  rcases Nat.lt_or_ge s.depth s.maxDepth with hroom | hdeep
  · rw [after_nested hroom]
    exact h s
  · rw [after, nested_of_le hdeep]
    exact hrefl s

end Turns

/-- Both go one level further in, where they are compared by `deeper`. -/
theorem alike_nested {l deeper : Likeness} {turns turns' : Turns} {α : Type} {m m' : ParseM α}
    (hm : Alike deeper m m') (hkeeps : (turns'.nested m').Keeps l.keeps)
    (henter : ∀ s, l.here s → s.depth < s.maxDepth →
      turns.enter s = turns'.enter s ∧ deeper.here (turns'.enter s) ∨
        deeper.shown (turns'.enter s))
    (hleave : ∀ s t, l.here s → s.depth < s.maxDepth → deeper.here t →
      turns.leave t = turns'.leave t ∨ l.shown (turns'.leave t))
    (hshown : ∀ t, deeper.shown t → l.shown (turns'.leave t)) :
    Alike l (turns.nested m) (turns'.nested m') := by
  refine ⟨hkeeps, fun s hs => ?_⟩
  rcases Nat.lt_or_ge s.depth s.maxDepth with hroom | hdeep
  · change _ ∨ l.shown ((turns'.nested m').after s)
    rw [Turns.after_nested hroom]
    have hlater := hm.keeps (turns'.enter s)
    rcases henter s hs hroom with ⟨hsame, hhere⟩ | hon
    · rcases hm.same _ hhere with hrun | hon
      · refine (hleave s _ hs hroom (deeper.here_of_keeps hhere hlater)).imp_left fun hback => ?_
        unfold Turns.nested
        rw [hsame, hrun]
        unfold after at hback
        cases hend : m' (turns'.enter s) <;> rw [hend] at hback <;> simp only [hback]
      · exact .inr (hshown _ hon)
    · exact .inr (hshown _ (deeper.shown_of_keeps hon hlater))
  · rw [Turns.nested_of_le hdeep, Turns.nested_of_le hdeep]
    exact .inl rfl

theorem Alike.nested_noted {fault : Fault} {α : Type} {m m' : ParseM α}
    (h : Alike (.noted fault) m m') :
    Alike (.noted fault) (ParseM.nested m) (ParseM.nested m') := by
  have hkeeps := (Likeness.noted fault).passage.within h.keeps
  rw [← Turns.nested_own] at hkeeps ⊢
  rw [← Turns.nested_own]
  exact alike_nested h hkeeps (fun _ _ _ => .inl ⟨rfl, trivial⟩) (fun _ _ _ _ _ => .inl rfl)
    fun _ => id

end MonkeySyntax
