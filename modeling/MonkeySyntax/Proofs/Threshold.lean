import Mathlib.Data.Nat.Find
import MonkeySyntax.Proofs.Conduct
import MonkeySyntax.Proofs.Soundness

/-!
# The limit on nesting is a threshold

A parser that is allowed one more level of nesting does exactly the same, unless the smaller limit
was in the way somewhere. If it was, that is on record for good, for no fault is ever forgotten. So
there is a least limit that is not in the way, and all higher limits make no difference.

How high that least limit is at most follows from the tokens: every level of nesting takes a token
of its own, so as many levels as there are tokens are always enough.
-/

namespace MonkeySyntax

open ParseM

def Fault.isTooDeep : Fault → Bool
  | .tooDeep _ _ => true
  | _ => false

theorem Token.isTooDeep_startFault (token : Token) : token.startFault.isTooDeep = false := by
  unfold Token.startFault
  split <;> rfl

theorem Token.isTooDeep_followFault (token : Token) (expected : TokenKind) :
    (token.followFault expected).isTooDeep = false := by
  unfold Token.followFault
  split <;> rfl

namespace ParseState

/-- The limit on nesting was in the way of a statement. -/
def Cramped (s : ParseState) : Prop := ∃ fault ∈ s.faults, fault.isTooDeep = true

/-- The same state with one more level of nesting allowed. -/
def raise (s : ParseState) : ParseState := { s with maxDepth := s.maxDepth + 1 }

theorem raise_start (maxDepth : Nat) (source : String) :
    (start maxDepth source).raise = start (maxDepth + 1) source := rfl

theorem resync_raise (level : Nat) (s : ParseState) :
    s.raise.resync level = ((s.resync level).1, (s.resync level).2.raise) := by
  fun_induction ParseState.resync level s with
  | case1 s heof => exact (resync.eq_def level s.raise).trans (if_pos heof)
  | case2 s heof hclosing =>
      exact (resync.eq_def level s.raise).trans ((if_neg heof).trans (if_pos hclosing))
  | case3 s heof hclosing hend =>
      refine (resync.eq_def level s.raise).trans ((if_neg heof).trans ?_)
      exact (if_neg hclosing).trans (if_pos hend)
  | case4 s heof hclosing hend ih =>
      refine (resync.eq_def level s.raise).trans ((if_neg heof).trans ?_)
      exact ((if_neg hclosing).trans (if_neg hend)).trans ih

theorem Cramped.mono {s t : ParseState} (h : s.Cramped) (hst : s.faults <+: t.faults) :
    t.Cramped := by
  obtain ⟨fault, hmem, hdeep⟩ := h
  exact ⟨fault, hst.subset hmem, hdeep⟩

theorem cramped_record_iff {s : ParseState} {fault : Fault} :
    (s.record fault).Cramped ↔ fault.isTooDeep = true ∨ s.Cramped := by
  simp [Cramped, record, or_and_right, exists_or, or_comm]

end ParseState

namespace Ending

variable {α : Type}

/-- The limit on nesting was in the way, be it of what ends here or of something before. -/
def Cramped : Ending α → Prop
  | .ok _ t => t.Cramped
  | .error fault t => fault.isTooDeep = true ∨ t.Cramped

def raise : Ending α → Ending α
  | .ok a t => .ok a t.raise
  | .error fault t => .error fault t.raise

end Ending

/-! ### One more level -/

/-- With one more level of nesting allowed, `m'` does what `m` does, unless `m` runs into the
limit. -/
structure Widens {α : Type} (m m' : ParseM α) : Prop where
  keeps : m.Keeps fun s t => s.faults <+: t.faults
  same : ∀ s, Ending.Cramped (m s) ∨ m' s.raise = Ending.raise (m s)

structure Inner.Widens (inner inner' : Inner) : Prop where
  expression : ∀ least, MonkeySyntax.Widens (inner.expression least) (inner'.expression least)
  block : MonkeySyntax.Widens inner.block inner'.block

namespace Widens

variable {α β : Type} {m m' : ParseM α} {k k' : α → ParseM β}

theorem cramped_of_start (h : m.Keeps fun s t => s.faults <+: t.faults) {s : ParseState}
    (hs : s.Cramped) : Ending.Cramped (m s) := by
  cases hrun : m s with
  | ok a t => exact hs.mono (h.of_ok hrun)
  | error fault t => exact .inr (hs.mono (h.of_error hrun))

theorem of_forall (hkeeps : m.Keeps fun s t => s.faults <+: t.faults)
    (h : ∀ s, m' s.raise = Ending.raise (m s)) : Widens m m' :=
  ⟨hkeeps, fun s => .inr (h s)⟩

theorem pure (a : α) : Widens (Pure.pure a) (Pure.pure a) :=
  .of_forall (Passage.faults.pure a) fun _ => rfl

theorem throw (fault : Fault) :
    Widens (MonadExcept.throw fault : ParseM α) (MonadExcept.throw fault) :=
  .of_forall (Passage.faults.throw fault) fun _ => rfl

theorem current : Widens ParseM.current ParseM.current :=
  .of_forall Passage.faults.current fun _ => rfl

theorem peek : Widens ParseM.peek ParseM.peek :=
  .of_forall Passage.faults.peek fun _ => rfl

theorem step : Widens ParseM.advance ParseM.advance :=
  .of_forall Passage.faults.step fun _ => rfl

theorem expectPeek (kind : TokenKind) :
    Widens (ParseM.expectPeek kind) (ParseM.expectPeek kind) := by
  refine .of_forall (Passage.faults.expectPeek kind) fun s => ?_
  unfold ParseM.expectPeek
  by_cases hkind : s.peek.kind = kind
  · rw [if_pos hkind]
    exact if_pos hkind
  · rw [if_neg hkind]
    exact if_neg hkind

theorem bind (hm : Widens m m') (hk : ∀ a, Widens (k a) (k' a)) : Widens (m >>= k) (m' >>= k') := by
  refine ⟨Passage.faults.bind hm.keeps fun a => (hk a).keeps, fun s => ?_⟩
  have hsame := hm.same s
  cases hrun : m s with
  | ok a t =>
      rw [hrun] at hsame
      rw [bind_of_ok hrun]
      rcases hsame with hcramped | hsame
      · exact .inl (cramped_of_start (hk a).keeps hcramped)
      · rw [bind_of_ok hsame]
        exact (hk a).same t
  | error fault t =>
      rw [hrun] at hsame
      rw [bind_of_error hrun]
      refine hsame.imp_right fun hsame => ?_
      rw [bind_of_error hsame]
      rfl

/-- What is read off the state must not depend on the limit. -/
theorem bind_get {k k' : ParseState → ParseM β} (hk : ∀ s, Widens (k s) (k' s.raise)) :
    Widens (MonadState.get >>= k) (MonadState.get >>= k') :=
  ⟨Passage.faults.bind Passage.faults.get fun s => (hk s).keeps, fun s => (hk s).same s⟩

theorem map {f : α → β} (hm : Widens m m') : Widens (f <$> m) (f <$> m') := by
  rw [map_eq_pure_bind, map_eq_pure_bind]
  exact hm.bind fun a => .pure (f a)

theorem skipSemicolon : Widens ParseM.skipSemicolon ParseM.skipSemicolon := by
  refine peek.bind fun next => ?_
  split
  · exact step
  · exact .pure ()

theorem nested (hm : Widens m m') : Widens (ParseM.nested m) (ParseM.nested m') := by
  refine ⟨Passage.faults.within hm.keeps, fun s => ?_⟩
  by_cases hdeep : s.maxDepth ≤ s.depth
  · have hrun : ParseM.nested m s = .error (.tooDeep s.maxDepth s.current.span) s := if_pos hdeep
    rw [hrun]
    exact .inl (.inl rfl)
  · have hdeep' : ¬ s.raise.maxDepth ≤ s.raise.depth := by
      change ¬ s.maxDepth + 1 ≤ s.depth
      omega
    unfold ParseM.nested
    rw [if_neg hdeep, if_neg hdeep']
    have hsame := hm.same s.enter
    change _ ∨ m' s.raise.enter = _ at hsame
    cases hrun : m s.enter with
    | ok a t =>
        rw [hrun] at hsame
        refine hsame.imp_right fun hsame => ?_
        rw [hsame]
        rfl
    | error fault t =>
        rw [hrun] at hsame
        refine hsame.imp_right fun hsame => ?_
        rw [hsame]
        rfl

/-- A reader without any room is in the way at once. -/
theorem tooDeep : Widens (fun s => ParseM.tooDeep s) m' :=
  ⟨Passage.faults.refl, fun _ => .inl (.inl rfl)⟩

end Widens

section Readers

variable {inner inner' : Inner}

theorem widens_integerLiteral : Widens integerLiteral integerLiteral := by
  refine Widens.current.bind fun token => ?_
  split
  · exact .pure _
  · exact .throw _

theorem widens_parameter : Widens parameter parameter :=
  (Widens.expectPeek _).bind fun _ => Widens.current.bind fun _ => .pure _

section Enumerations

variable {α : Type} {item item' : ParseM α} {more more' : Nat → ParseM (List α)}
  {items items' : ParseM (List α)}

theorem widens_more (henum : Enumeration item more items) (henum' : Enumeration item' more' items')
    (hitem : Widens item item') (steps : Nat) : Widens (more steps) (more' steps) := by
  refine ⟨Passage.faults.more henum hitem.keeps steps, fun s => ?_⟩
  induction steps generalizing s with
  | zero =>
      rw [henum.more_zero, henum'.more_zero]
      exact .inr rfl
  | succ steps ih =>
      by_cases hkind : s.peek.kind = .comma
      · rw [henum.more_of_comma hkind, henum'.more_of_comma (s := s.raise) hkind]
        have hmore : Widens (more steps) (more' steps) :=
          ⟨Passage.faults.more henum hitem.keeps steps, ih⟩
        exact (hitem.bind fun _ => hmore.bind fun _ => .pure _).same s.advance
      · rw [henum.more_of_comma_ne hkind, henum'.more_of_comma_ne (s := s.raise) hkind]
        exact .inr rfl

theorem widens_items (henum : Enumeration item more items)
    (henum' : Enumeration item' more' items') (hitem : Widens item item') :
    Widens items items' := by
  refine ⟨Passage.faults.items henum hitem.keeps, fun s => ?_⟩
  by_cases hkind : s.peek.kind = .rightParen
  · rw [henum.items_of_paren hkind, henum'.items_of_paren (s := s.raise) hkind]
    exact .inr rfl
  · rw [henum.items_of_paren_ne hkind, henum'.items_of_paren_ne (s := s.raise) hkind]
    refine (hitem.bind fun _ => Widens.bind_get fun t => ?_).same s
    refine (widens_more henum henum' hitem t.remaining).bind fun _ => ?_
    exact (Widens.expectPeek _).bind fun _ => .pure _

end Enumerations

variable (hinner : inner.Widens inner')
include hinner

theorem widens_unaryRest (operator : UnaryOp) :
    Widens (unaryRest inner operator) (unaryRest inner' operator) := by
  refine Widens.current.bind fun _ => Widens.step.bind fun _ => ?_
  exact (hinner.expression _).bind fun _ => .pure _

theorem widens_groupRest : Widens (groupRest inner) (groupRest inner') := by
  refine Widens.step.bind fun _ => (hinner.expression _).bind fun _ => ?_
  exact (Widens.expectPeek _).bind fun _ => .pure _

theorem widens_braced : Widens (braced inner) (braced inner') :=
  (Widens.expectPeek _).bind fun _ => hinner.block

theorem widens_elseBranch : Widens (elseBranch inner) (elseBranch inner') := by
  refine Widens.peek.bind fun next => ?_
  split
  · exact Widens.step.bind fun _ => (widens_braced hinner).bind fun _ => .pure _
  · exact .pure _

theorem widens_conditionalRest : Widens (conditionalRest inner) (conditionalRest inner') := by
  refine Widens.current.bind fun _ => (Widens.expectPeek _).bind fun _ => ?_
  refine (widens_groupRest hinner).bind fun _ => (widens_braced hinner).bind fun _ => ?_
  exact (widens_elseBranch hinner).bind fun _ => .pure _

theorem widens_functionRest : Widens (functionRest inner) (functionRest inner') := by
  refine Widens.current.bind fun _ => (Widens.expectPeek _).bind fun _ => ?_
  refine (widens_items enumeration_parameters enumeration_parameters widens_parameter).bind
    fun _ => ?_
  exact (widens_braced hinner).bind fun _ => .pure _

theorem widens_startRule (rule : StartRule) : Widens (rule.parse inner) (rule.parse inner') := by
  cases rule with
  | identifier => exact Widens.current.bind fun _ => .pure _
  | integer => exact widens_integerLiteral
  | boolean => exact Widens.current.bind fun _ => .pure _
  | unary operator => exact widens_unaryRest hinner operator
  | group => exact widens_groupRest hinner
  | conditional => exact widens_conditionalRest hinner
  | function => exact widens_functionRest hinner

theorem widens_start : Widens (ParseM.start inner) (ParseM.start inner') := by
  refine Widens.current.bind fun token => ?_
  split
  · exact .throw _
  · exact widens_startRule hinner _

theorem widens_argument : Widens (argument inner) (argument inner') :=
  Widens.step.bind fun _ => hinner.expression _

theorem widens_continueRule (left : Expr) (rule : ContinueRule) :
    Widens (rule.parse inner left) (rule.parse inner' left) := by
  cases rule with
  | binary operator =>
      refine Widens.current.bind fun _ => Widens.step.bind fun _ => ?_
      exact (hinner.expression _).bind fun _ => .pure _
  | call =>
      have harguments := widens_items (enumeration_arguments inner) (enumeration_arguments inner')
        (widens_argument hinner)
      exact Widens.current.bind fun _ => harguments.bind fun _ => .pure _

theorem widens_continued (least : Precedence) (steps : Nat) (left : Expr) :
    Widens (continued inner least steps left) (continued inner' least steps left) := by
  induction steps generalizing left with
  | zero => exact .pure left
  | succ steps ih =>
      refine Widens.peek.bind fun next => ?_
      split
      · split
        · exact .pure left
        · refine Widens.step.bind fun _ => ?_
          exact (widens_continueRule hinner left _).bind fun longer => ih longer
      · exact .pure left

theorem widens_expressionBody (least : Precedence) :
    Widens (expressionBody inner least) (expressionBody inner' least) := by
  refine (widens_start hinner).bind fun left => Widens.bind_get fun s => ?_
  exact widens_continued hinner least s.remaining left

theorem widens_letStatement : Widens (letStatement inner) (letStatement inner') := by
  refine Widens.current.bind fun _ => (Widens.expectPeek _).bind fun _ => ?_
  refine Widens.current.bind fun _ => (Widens.expectPeek _).bind fun _ => ?_
  refine Widens.step.bind fun _ => (hinner.expression _).bind fun _ => ?_
  exact Widens.skipSemicolon.bind fun _ => .pure _

theorem widens_returnStatement : Widens (returnStatement inner) (returnStatement inner') := by
  refine Widens.current.bind fun _ => Widens.peek.bind fun next => ?_
  split
  · exact Widens.skipSemicolon.bind fun _ => .pure _
  · exact Widens.skipSemicolon.bind fun _ => .pure _
  · exact Widens.skipSemicolon.bind fun _ => .pure _
  · refine Widens.step.bind fun _ => (hinner.expression _).bind fun _ => ?_
    exact Widens.skipSemicolon.bind fun _ => .pure _

theorem widens_expressionStatement :
    Widens (expressionStatement inner) (expressionStatement inner') := by
  refine Widens.current.bind fun _ => (hinner.expression _).bind fun _ => ?_
  exact Widens.skipSemicolon.bind fun _ => .pure _

theorem widens_statement : Widens (statement inner) (statement inner') := by
  refine Widens.current.bind fun token => ?_
  split
  · exact (widens_letStatement hinner).bind fun _ => .pure _
  · exact (widens_returnStatement hinner).bind fun _ => .pure _
  · exact .pure _
  · exact (widens_expressionStatement hinner).bind fun _ => .pure _

omit hinner in
/-- If the limit is in the way of one statement, that stays on record. -/
theorem cramped_blockStatements (hkeeps : inner.Keeps fun s t => s.faults <+: t.faults)
    {level steps : Nat} {s : ParseState} (hbrace : s.current.kind ≠ .rightBrace)
    (heof : s.current.kind ≠ .eof) (h : Ending.Cramped (statement inner s)) :
    Ending.Cramped (blockStatements inner level (steps + 1) s) := by
  have hlist := Passage.faults.blockStatements hkeeps level steps
  cases hrun : statement inner s with
  | ok found t =>
      rw [hrun] at h
      rw [blockStatements_of_ok hbrace heof hrun]
      exact Widens.cramped_of_start (Passage.faults.map hlist) (s := t.advance) h
  | error fault t =>
      rw [hrun] at h
      have hsync : ((t.record fault).resync level).2.Cramped :=
        (ParseState.cramped_record_iff.mpr h).mono (Passage.faults.resync level _)
      cases hclosed : ((t.record fault).resync level).1 with
      | true =>
          rw [blockStatements_of_error_of_closed hbrace heof hrun hclosed]
          exact hsync
      | false =>
          rw [blockStatements_of_error_of_open hbrace heof hrun hclosed]
          exact Widens.cramped_of_start hlist (s := ((t.record fault).resync level).2.advance) hsync

theorem widens_blockStatements (level steps : Nat) :
    Widens (blockStatements inner level steps) (blockStatements inner' level steps) := by
  have hkeeps : inner.Keeps fun s t => s.faults <+: t.faults :=
    ⟨fun least => (hinner.expression least).keeps, hinner.block.keeps⟩
  have hlist := Passage.faults.blockStatements hkeeps level
  refine ⟨hlist steps, fun s => ?_⟩
  induction steps generalizing s with
  | zero => exact .inr rfl
  | succ steps ih =>
      by_cases hbrace : s.current.kind = .rightBrace
      · rw [blockStatements_of_brace hbrace, blockStatements_of_brace (s := s.raise) hbrace]
        exact .inr rfl
      by_cases heof : s.current.kind = .eof
      · rw [blockStatements_of_eof heof, blockStatements_of_eof (s := s.raise) heof]
        exact .inr rfl
      rcases (widens_statement hinner).same s with hcramped | hsame
      · exact .inl (cramped_blockStatements hkeeps hbrace heof hcramped)
      cases hrun : statement inner s with
      | ok found t =>
          rw [hrun] at hsame
          rw [blockStatements_of_ok hbrace heof hrun,
            blockStatements_of_ok (s := s.raise) hbrace heof hsame]
          exact (Widens.map ⟨hlist steps, ih⟩).same t.advance
      | error fault t =>
          rw [hrun] at hsame
          have hresync : (t.raise.record fault).resync level = _ :=
            ParseState.resync_raise level (t.record fault)
          cases hclosed : ((t.record fault).resync level).1 with
          | true =>
              have hclosed' := (congrArg Prod.fst hresync).trans hclosed
              rw [blockStatements_of_error_of_closed hbrace heof hrun hclosed,
                blockStatements_of_error_of_closed (s := s.raise) hbrace heof hsame hclosed',
                hresync]
              exact .inr rfl
          | false =>
              have hclosed' := (congrArg Prod.fst hresync).trans hclosed
              rw [blockStatements_of_error_of_open hbrace heof hrun hclosed,
                blockStatements_of_error_of_open (s := s.raise) hbrace heof hsame hclosed',
                hresync]
              exact ih ((t.record fault).resync level).2.advance

theorem widens_blockBody : Widens (blockBody inner) (blockBody inner') := by
  refine Widens.bind_get fun s => Widens.step.bind fun _ => Widens.bind_get fun t => ?_
  exact (widens_blockStatements hinner s.braces t.remaining).bind fun _ => .pure _

end Readers

theorem Inner.widens_level (n : Nat) : (Inner.level n).Widens (.level (n + 1)) := by
  induction n with
  | zero => exact ⟨fun _ => .tooDeep, .tooDeep⟩
  | succ n ih =>
      exact ⟨fun least => (widens_expressionBody ih least).nested, (widens_blockBody ih).nested⟩

theorem programRound_raise (n : Nat) (s : ParseState) :
    (programRound (.level n) s).2.Cramped ∨
      programRound (.level (n + 1)) s.raise
        = ((programRound (.level n) s).1, (programRound (.level n) s).2.raise) := by
  have hsame := (widens_statement (Inner.widens_level n)).same s
  cases hrun : statement (.level n) s with
  | ok found t =>
      rw [hrun] at hsame
      rw [programRound_of_ok hrun]
      exact hsame.imp_right fun hsame => programRound_of_ok hsame
  | error fault t =>
      rw [hrun] at hsame
      rw [programRound_of_error hrun]
      rcases hsame with hcramped | hsame
      · exact .inl ((ParseState.cramped_record_iff.mpr hcramped).mono
          (Passage.faults.resync 0 (t.record fault)))
      · have hresync : (t.raise.record fault).resync 0 = _ :=
          ParseState.resync_raise 0 (t.record fault)
        rw [programRound_of_error hsame, hresync]
        exact .inr rfl

theorem programStatements_raise (n steps : Nat) (s : ParseState) :
    (s.programStatements (.level n) steps).2.Cramped ∨
      s.raise.programStatements (.level (n + 1)) steps
        = ((s.programStatements (.level n) steps).1,
          (s.programStatements (.level n) steps).2.raise) := by
  induction steps generalizing s with
  | zero => exact .inr rfl
  | succ steps ih =>
      by_cases heof : s.current.kind = .eof
      · rw [programStatements_of_eof heof, programStatements_of_eof (s := s.raise) heof]
        exact .inr rfl
      rw [programStatements_succ heof, programStatements_succ (s := s.raise) heof]
      rcases programRound_raise n s with hcramped | hround
      · exact .inl (hcramped.mono
          (Passage.faults.programStatements (Passage.faults.level n) steps _))
      · rw [hround]
        exact (ih _).imp_right fun hrest => by rw [hrest]

/-- One more level of nesting makes no difference, unless the limit was in the way. -/
theorem parse_succ (maxDepth : Nat) (source : String) :
    (∃ fault ∈ (parse maxDepth source).faults, fault.isTooDeep = true) ∨
      parse (maxDepth + 1) source = parse maxDepth source := by
  have hrun := programStatements_raise maxDepth (ParseState.start maxDepth source).remaining
    (.start maxDepth source)
  refine hrun.imp_right fun hsame => ?_
  rw [ParseState.raise_start] at hsame
  have hraised : parse (maxDepth + 1) source = ⟨⟨_⟩, _, _⟩ :=
    congrArg (fun run : List Statement × ParseState =>
      (⟨⟨run.1⟩, run.2.faults, run.2.log⟩ : Parsed)) hsame
  exact hraised

/-! ### Enough levels -/

namespace ParseState

/-- The limit was not in the way so far and leaves room for `n` levels, with fewer than `count`
tokens ahead. -/
structure Roomy (n count : Nat) (s : ParseState) : Prop where
  depth_le : s.depth + n ≤ s.maxDepth
  free : ¬ s.Cramped
  ahead : ∃ ts last, s.Sees ts last ∧ ts.length < count

namespace Roomy

variable {n count : Nat} {s : ParseState}

theorem mono {more : Nat} (h : s.Roomy n count) (hle : count ≤ more) : s.Roomy n more := by
  obtain ⟨hdepth, hfree, ts, last, hsees, hlt⟩ := h
  exact ⟨hdepth, hfree, ts, last, hsees, Nat.lt_of_lt_of_le hlt hle⟩

theorem pos (h : s.Roomy n count) : 0 < count := by
  obtain ⟨-, -, ts, -, -, hlt⟩ := h
  exact Nat.lt_of_le_of_lt (Nat.zero_le _) hlt

theorem advance (h : s.Roomy n (count + 1)) (hcount : s.current.kind = .eof → 0 < count) :
    s.advance.Roomy n count := by
  obtain ⟨hdepth, hfree, ts, last, hsees, hlt⟩ := h
  refine ⟨hdepth, hfree, ts.tail, last, hsees.advance, ?_⟩
  cases ts with
  | nil => exact hcount (hsees.current_eof_iff.mpr rfl)
  | cons t ts => exact Nat.lt_of_succ_lt_succ hlt

theorem enter (h : s.Roomy (n + 1) count) : s.enter.Roomy n count := by
  obtain ⟨hdepth, hfree, ts, last, hsees, hlt⟩ := h
  refine ⟨?_, hfree, ts, last, hsees.congr s.stream_enter, hlt⟩
  change s.depth + 1 + n ≤ s.maxDepth
  omega

theorem leave (h : s.Roomy n count) (hpos : 0 < s.depth) : s.leave.Roomy (n + 1) count := by
  obtain ⟨hdepth, hfree, ts, last, hsees, hlt⟩ := h
  refine ⟨?_, hfree, ts, last, hsees.congr s.stream_leave, hlt⟩
  change s.depth - 1 + (n + 1) ≤ s.maxDepth
  omega

theorem record {fault : Fault} (h : s.Roomy n count) (hfault : fault.isTooDeep = false) :
    (s.record fault).Roomy n count := by
  obtain ⟨hdepth, hfree, ts, last, hsees, hlt⟩ := h
  refine ⟨hdepth, fun hcramped => ?_, ts, last, hsees.congr (s.stream_record fault), hlt⟩
  rcases cramped_record_iff.mp hcramped with hdeep | hcramped
  · simp [hfault] at hdeep
  · exact hfree hcramped

theorem resync (h : s.Roomy n count) (level : Nat) : (s.resync level).2.Roomy n count := by
  fun_induction ParseState.resync level s with
  | case1 s | case2 s | case3 s => exact h
  | case4 s heof _ _ ih =>
      exact ih ((h.mono (Nat.le_succ count)).advance fun hend => absurd hend heof)

end Roomy

end ParseState

/-- Each level of nesting takes a token, so there are always more levels left than tokens. -/
def roomForAll : Conduct where
  begins n _ s := s.Roomy n n
  starts n _ s := s.Roomy n n
  stands n _ s := s.Roomy n (n + 1) ∧ s.current.kind ≠ .eof
  ends n _ s := s.Roomy n (n + 1) ∧ s.current.kind ≠ .eof
  fails n _ fault t := t.Roomy n (n + 1) ∧ fault.isTooDeep = false
  keyword h hkind := ⟨h.mono (Nat.le_succ _), by rcases hkind with hkind | hkind <;> simp [hkind]⟩
  semicolon h hkind := ⟨h.mono (Nat.le_succ _), by simp [hkind]⟩
  other h _ _ := h
  finish h := h
  skip h hkind := ⟨(h.1.advance fun heof => absurd heof h.2).mono (Nat.le_succ _), by simp [hkind]⟩
  advance h _ := h.1.advance fun heof => absurd heof h.2
  pass {n level s} h _ hplain := by
    refine ⟨(h.1.advance fun heof => absurd heof h.2).mono (Nat.le_succ _), fun heof => ?_⟩
    rw [s.current_advance] at heof
    simp [heof, TokenKind.isPlain] at hplain
  mismatch {n level s kind} h _ _ := ⟨h.1, s.peek.isTooDeep_followFault kind⟩
  tooDeep {n level s} h _ hdeep := by
    have hpos := h.pos
    have hdepth := h.depth_le
    omega
  enter {n level s} h hplain := by
    refine ⟨h.enter, fun heof => ?_⟩
    change s.current.kind = .eof at heof
    simp [heof, TokenKind.isPlain] at hplain
  noStart {n level s} h _ _ := ⟨h.enter, s.current.isTooDeep_startFault⟩
  tooLarge h _ _ := ⟨h.enter, rfl⟩
  leave h hpos := ⟨(h.1.leave hpos).mono (Nat.le_succ _), h.2⟩
  leaveFails h hpos := ⟨(h.1.leave hpos).mono (Nat.le_succ _), h.2⟩
  opening {n level s} h _ hkind := by
    refine h.enter.advance fun heof => ?_
    change s.current.kind = .eof at heof
    simp [hkind] at heof
  closing h hkind := ⟨h.mono (Nat.le_succ _), by simp [hkind]⟩
  unclosed h _ _ := ⟨h.mono (Nat.le_succ _), rfl⟩
  next h _ := h.1.advance fun heof => absurd heof h.2
  recoverClosed {n level fault t} h hinside hclosed := by
    obtain ⟨-, hkind, -⟩ := (hinside.record fault).resync.1 hclosed
    exact ⟨(h.1.record h.2).resync _, by simp [hkind]⟩
  recoverOpen hs h _ _ := ((h.1.record h.2).resync _).advance fun _ => hs.pos

/-- As many levels of nesting as there are tokens are enough. -/
theorem isTooDeep_eq_false_of_length_le {maxDepth : Nat} {source : String}
    (h : (tokenize source).length ≤ maxDepth) :
    ∀ fault ∈ (parse maxDepth source).faults, fault.isTooDeep = false := by
  obtain ⟨ts, last, htokens⟩ := exists_tokenize_eq_append source
  rw [htokens, List.length_append, List.length_singleton] at h
  have hstart : (ParseState.start maxDepth source).Roomy maxDepth maxDepth := by
    refine ⟨Nat.le_of_eq (Nat.zero_add _), ?_, ts, last, ParseState.start_sees htokens, h⟩
    rintro ⟨fault, hmem, -⟩
    simp [ParseState.start, ParseState.advance] at hmem
  have hend := roomForAll.program (n := maxDepth)
    (fun ht => ht.here.1.advance fun heof => absurd heof ht.here.2)
    (fun hs ht => ((ht.here.1.record ht.here.2).resync 0).advance fun _ => hs.pos)
    (ParseState.start maxDepth source).remaining
    ⟨.inl (ParseState.starts_start maxDepth source), hstart⟩
  intro fault hmem
  by_contra hdeep
  exact hend.here.free ⟨fault, hmem, by simpa using hdeep⟩

/-! ### The threshold -/

theorem parse_of_le {maxDepth more : Nat} {source : String}
    (h : ∀ fault ∈ (parse maxDepth source).faults, fault.isTooDeep = false)
    (hle : maxDepth ≤ more) : parse more source = parse maxDepth source := by
  induction more, hle using Nat.le_induction with
  | base => rfl
  | succ more hle ih =>
      rcases parse_succ more source with ⟨fault, hmem, hdeep⟩ | hsame
      · rw [ih] at hmem
        simp [h fault hmem] at hdeep
      · exact hsame.trans ih

/-- **The limit on nesting is a threshold.** For every source there is a limit, of as many levels as
there are tokens at most, from which on nothing is too deep, and from which on it makes no
difference to anything how high the limit is. Below it something always is too deep. -/
theorem nesting_limit_threshold (source : String) :
    ∃ N, N ≤ (tokenize source).length ∧
      (∀ d, (∀ fault ∈ (parse d source).faults, fault.isTooDeep = false) ↔ N ≤ d) ∧
      ∀ d d', N ≤ d → N ≤ d' → parse d source = parse d' source := by
  have hexists : ∃ d, ∀ fault ∈ (parse d source).faults, fault.isTooDeep = false :=
    ⟨_, isTooDeep_eq_false_of_length_le (Nat.le_refl _)⟩
  have hleast := Nat.find_spec hexists
  refine ⟨Nat.find hexists, ?_, fun d => ⟨fun h => Nat.find_min' hexists h, fun hle => ?_⟩, ?_⟩
  · exact Nat.find_min' hexists (isTooDeep_eq_false_of_length_le (Nat.le_refl _))
  · rw [parse_of_le hleast hle]
    exact hleast
  · intro d d' hd hd'
    rw [parse_of_le hleast hd, parse_of_le hleast hd']

end MonkeySyntax
