import MonkeySyntax.Proofs.Blocks

/-!
# The conduct of the parser

What a run of the parser keeps to can be said at five kinds of places: where a statement begins,
where an expression or a block in it starts, on the last token that was read of an expression, on
the last token of a statement, and where a statement is given up. A `Conduct` says something at each
of them and asks only that the steps from one place to the next preserve it: moving on by a token,
entering and leaving a level of nesting, finding a fault, and going on behind a fault. All readers
then keep to it, which is shown here once.

What is said may depend on how many levels of nesting are left, and on how many braces are open
around the list of statements that is being read. That the braces are accounted for is known, so
the steps may rely on it.
-/

namespace MonkeySyntax

open ParseM

/-- Tokens of this kind only occur inside of expressions and of what leads up to them: they neither
begin nor end a statement, and they are no braces. -/
def TokenKind.isPlain : TokenKind → Bool
  | .illegal | .eof | .semicolon | .leftBrace | .rightBrace | .kwLet | .kwReturn => false
  | _ => true

theorem TokenKind.ne_braces_of_isPlain {kind : TokenKind} (h : kind.isPlain = true) :
    kind ≠ .leftBrace ∧ kind ≠ .rightBrace := by
  constructor <;> rintro rfl <;> cases h

theorem StartRule.isPlain_of_ofKind? {kind : TokenKind} {rule : StartRule}
    (h : StartRule.ofKind? kind = some rule) : kind.isPlain = true := by
  cases kind <;> first | rfl | cases h

theorem ContinueRule.isPlain_of_ofKind? {kind : TokenKind} {rule : ContinueRule}
    (h : ContinueRule.ofKind? kind = some rule) : kind.isPlain = true := by
  cases kind <;> first | rfl | cases h

/-- What holds in the states that the parser comes by. Where two numbers are given, the first is how
many levels of nesting are left, and the second how many braces are open around the list. -/
structure Conduct where
  /-- Where a statement may begin. -/
  begins : Nat → Nat → ParseState → Prop
  /-- Where an expression or a block may start, before its level of nesting is entered. -/
  starts : Nat → Nat → ParseState → Prop
  /-- On a token of a statement, with no phrase in it left unfinished. -/
  stands : Nat → Nat → ParseState → Prop
  /-- On the last token of a statement. -/
  ends : Nat → Nat → ParseState → Prop
  /-- Where a statement may be given up, and for what fault. -/
  fails : Nat → Nat → Fault → ParseState → Prop
  -- Statements
  keyword : ∀ {n level s}, begins n level s →
    s.current.kind = .kwLet ∨ s.current.kind = .kwReturn → stands n level s
  semicolon : ∀ {n level s}, begins n level s → s.current.kind = .semicolon → ends n level s
  other : ∀ {n level s}, begins n level s → s.current.kind.endsBefore level = false →
    s.current.kind ≠ .semicolon → starts n level s
  finish : ∀ {n level s}, stands n level s → ends n level s
  skip : ∀ {n level s}, stands n level s → s.peek.kind = .semicolon → ends n level s.advance
  -- Tokens
  advance : ∀ {n level s}, stands n level s → s.Stands level → starts n level s.advance
  pass : ∀ {n level s}, stands n level s → s.Stands level → s.peek.kind.isPlain = true →
    stands n level s.advance
  mismatch : ∀ {n level s kind}, stands n level s → s.Stands level → s.peek.kind ≠ kind →
    fails n level (s.peekFault kind) s
  -- Levels of nesting
  tooDeep : ∀ {n level s}, starts n level s → s.Starts level → n = 0 ∨ s.maxDepth ≤ s.depth →
    fails n level (.tooDeep s.maxDepth s.current.span) s
  enter : ∀ {n level s}, starts (n + 1) level s → s.current.kind.isPlain = true →
    stands n level s.enter
  noStart : ∀ {n level s}, starts (n + 1) level s → s.Starts level →
    StartRule.ofKind? s.current.kind = none → fails n level s.current.startFault s.enter
  tooLarge : ∀ {n level s}, starts (n + 1) level s → s.current.kind = .integer →
    maxInteger < decimalValue s.current.literal →
    fails n level (.integerTooLarge s.current.literal s.current.span) s.enter
  leave : ∀ {n level t}, stands n level t → 0 < t.depth → stands (n + 1) level t.leave
  leaveFails : ∀ {n level fault t}, fails n level fault t → 0 < t.depth →
    fails (n + 1) level fault t.leave
  -- Lists in braces
  opening : ∀ {n level s}, starts (n + 1) level s → s.Starts level → s.current.kind = .leftBrace →
    begins n (level + 1) s.enter.advance
  closing : ∀ {n level s}, begins n (level + 1) s → s.current.kind = .rightBrace → stands n level s
  unclosed : ∀ {n level s}, begins n (level + 1) s → s.Resumes (level + 1) →
    s.current.kind = .eof → fails n level (.unexpectedEnd .rightBrace s.current.span) s
  next : ∀ {n level t}, ends n (level + 1) t → t.Stands (level + 1) →
    begins n (level + 1) t.advance
  recoverClosed : ∀ {n level fault t}, fails n (level + 1) fault t → t.Inside (level + 1) →
    ((t.record fault).resync (level + 1)).1 = true →
    stands n level ((t.record fault).resync (level + 1)).2
  recoverOpen : ∀ {n level fault s t}, begins n (level + 1) s → fails n (level + 1) fault t →
    t.Inside (level + 1) → ((t.record fault).resync (level + 1)).1 = false →
    begins n (level + 1) ((t.record fault).resync (level + 1)).2.advance

namespace Conduct

variable {c : Conduct} {n level : Nat} {s t : ParseState}

structure Begins (c : Conduct) (n level : Nat) (s : ParseState) : Prop where
  resumes : s.Resumes level
  here : c.begins n level s

structure Starts (c : Conduct) (n level : Nat) (s : ParseState) : Prop where
  starts : s.Starts level
  here : c.starts n level s

structure Stands (c : Conduct) (n level : Nat) (s : ParseState) : Prop where
  stands : s.Stands level
  here : c.stands n level s

structure Ends (c : Conduct) (n level : Nat) (s : ParseState) : Prop where
  stands : s.Stands level
  here : c.ends n level s

structure Fails (c : Conduct) (n level : Nat) (fault : Fault) (s : ParseState) : Prop where
  inside : s.Inside level
  here : c.fails n level fault s

theorem Stands.advance (h : c.Stands n level s) : c.Starts n level s.advance :=
  ⟨h.stands.advance, c.advance h.here h.stands⟩

theorem Stands.pass (h : c.Stands n level s) (hplain : s.peek.kind.isPlain = true) :
    c.Stands n level s.advance := by
  obtain ⟨hopening, hclosing⟩ := TokenKind.ne_braces_of_isPlain hplain
  exact ⟨h.stands.advance.stands hopening hclosing, c.pass h.here h.stands hplain⟩

theorem Starts.enter (h : c.Starts (n + 1) level s) (hplain : s.current.kind.isPlain = true) :
    c.Stands n level s.enter := by
  obtain ⟨hopening, hclosing⟩ := TokenKind.ne_braces_of_isPlain hplain
  exact ⟨h.starts.enter.stands hopening hclosing, c.enter h.here hplain⟩

/-- How a reader may end: where `Q` holds, or with a fault that the conduct allows. -/
def Outcome {α : Type} (c : Conduct) (n level : Nat) (Q : ParseState → Prop) : Ending α → Prop
  | .ok _ t => Q t
  | .error fault t => c.Fails n level fault t

namespace Outcome

variable {α β : Type} {Q R : ParseState → Prop} {m : ParseM α} {k : α → ParseM β} {f : α → β}

theorem of_ok {a : α} (h : c.Outcome n level Q (m s)) (hrun : m s = .ok a t) : Q t := by
  rwa [hrun] at h

theorem of_error {fault : Fault} (h : c.Outcome n level Q (m s))
    (hrun : m s = .error fault t) : c.Fails n level fault t := by
  rwa [hrun] at h

theorem bind (hm : c.Outcome n level Q (m s))
    (hk : ∀ a t, Q t → c.Outcome n level R (k a t)) :
    c.Outcome n level R ((m >>= k) s) := by
  cases hrun : m s with
  | ok a t =>
      rw [bind_of_ok hrun]
      exact hk a t (hm.of_ok hrun)
  | error fault t =>
      rw [bind_of_error hrun]
      exact hm.of_error hrun

theorem map (hm : c.Outcome n level Q (m s)) : c.Outcome n level Q ((f <$> m) s) := by
  rw [map_apply]
  cases hrun : m s with
  | ok a t => exact hm.of_ok hrun
  | error fault t => exact hm.of_error hrun

theorem mismatch {kind : TokenKind} (h : c.Stands n level s) (hkind : s.peek.kind ≠ kind) :
    c.Fails n level (s.peekFault kind) s :=
  ⟨h.stands.inside, c.mismatch h.here h.stands hkind⟩

theorem expectPeek {kind : TokenKind} (hplain : kind.isPlain = true) (h : c.Stands n level s) :
    c.Outcome n level (c.Stands n level) (ParseM.expectPeek kind s) := by
  unfold ParseM.expectPeek
  split
  · rename_i hkind
    subst hkind
    exact h.pass hplain
  · rename_i hkind
    exact mismatch h hkind

theorem skipSemicolon (h : c.Stands n level s) :
    c.Outcome n level (c.Ends n level) (ParseM.skipSemicolon s) := by
  by_cases hkind : s.peek.kind = .semicolon
  · rw [skipSemicolon_of_kind hkind]
    exact ⟨h.stands.advance.stands (by simp [hkind]) (by simp [hkind]), c.skip h.here hkind⟩
  · rw [skipSemicolon_of_kind_ne hkind]
    exact ⟨h.stands, c.finish h.here⟩

/-- What a reader keeps to one level further in. -/
theorem nested (h : c.Starts (n + 1) level s) (hkeeps : m.Keeps fun s t => t.depth = s.depth)
    (hm : c.Outcome n level (c.Stands n level) (m s.enter)) :
    c.Outcome (n + 1) level (c.Stands (n + 1) level) (ParseM.nested m s) := by
  unfold ParseM.nested
  split
  · rename_i hdeep
    exact ⟨h.starts.inside, c.tooDeep h.here h.starts (.inr hdeep)⟩
  · cases hrun : m s.enter with
    | ok a t =>
        obtain ⟨hstands, hhere⟩ := hm.of_ok hrun
        have hdepth : 0 < t.depth := by
          rw [hkeeps.of_ok hrun]
          exact Nat.succ_pos _
        exact ⟨⟨hstands.ends.congr t.stream_leave, hstands.braces_eq⟩, c.leave hhere hdepth⟩
    | error fault t =>
        obtain ⟨hinside, hhere⟩ := hm.of_error hrun
        have hdepth : 0 < t.depth := by
          rw [hkeeps.of_error hrun]
          exact Nat.succ_pos _
        exact ⟨⟨hinside.ends.congr t.stream_leave, hinside.braces_le⟩, c.leaveFails hhere hdepth⟩

end Outcome

end Conduct

/-- Inner phrases are read within the conduct. -/
structure Inner.Conducted (c : Conduct) (n : Nat) (inner : Inner) : Prop where
  expression : ∀ {level : Nat} {s : ParseState} (least : Precedence), c.Starts n level s →
    c.Outcome n level (c.Stands n level) (inner.expression least s)
  block : ∀ {level : Nat} {s : ParseState}, c.Starts n level s → s.current.kind = .leftBrace →
    c.Outcome n level (c.Stands n level) (inner.block s)

section Readers

variable {c : Conduct} {n level : Nat} {inner : Inner} {s : ParseState}

theorem conducted_parameter (h : c.Stands n level s) :
    c.Outcome n level (c.Stands n level) (parameter s) :=
  (Conduct.Outcome.expectPeek rfl h).bind fun _ _ ht => ht

section Enumerations

variable {α : Type} {item : ParseM α} {more : Nat → ParseM (List α)} {items : ParseM (List α)}

theorem conducted_more (henum : Enumeration item more items)
    (hitem : ∀ {s : ParseState}, c.Stands n level s →
      c.Outcome n level (c.Stands n level) (item s)) (steps : Nat) (h : c.Stands n level s) :
    c.Outcome n level (c.Stands n level) (more steps s) := by
  induction steps generalizing s with
  | zero =>
      rw [henum.more_zero]
      exact h
  | succ steps ih =>
      by_cases hkind : s.peek.kind = .comma
      · rw [henum.more_of_comma hkind]
        refine (hitem (h.pass (by rw [hkind]; rfl))).bind fun _ t ht => ?_
        exact (ih ht).bind fun _ _ hu => hu
      · rw [henum.more_of_comma_ne hkind]
        exact h

theorem conducted_items (henum : Enumeration item more items)
    (hitem : ∀ {s : ParseState}, c.Stands n level s →
      c.Outcome n level (c.Stands n level) (item s)) (h : c.Stands n level s) :
    c.Outcome n level (c.Stands n level) (items s) := by
  by_cases hkind : s.peek.kind = .rightParen
  · rw [henum.items_of_paren hkind]
    exact h.pass (by rw [hkind]; rfl)
  · rw [henum.items_of_paren_ne hkind]
    refine (hitem h).bind fun _ t ht => ?_
    refine (conducted_more henum hitem _ ht).bind fun _ u hu => ?_
    exact (Conduct.Outcome.expectPeek rfl hu).bind fun _ _ hv => hv

end Enumerations

section Expressions

variable (hinner : inner.Conducted c n)
include hinner

theorem conducted_unaryRest (operator : UnaryOp) (h : c.Stands n level s) :
    c.Outcome n level (c.Stands n level) (unaryRest inner operator s) :=
  (hinner.expression .unary h.advance).bind fun _ _ ht => ht

theorem conducted_groupRest (h : c.Stands n level s) :
    c.Outcome n level (c.Stands n level) (groupRest inner s) := by
  refine (hinner.expression .lowest h.advance).bind fun _ t ht => ?_
  exact (Conduct.Outcome.expectPeek rfl ht).bind fun _ _ hu => hu

theorem conducted_braced (h : c.Stands n level s) :
    c.Outcome n level (c.Stands n level) (braced inner s) := by
  unfold braced
  by_cases hkind : s.peek.kind = .leftBrace
  · rw [bind_of_ok (expectPeek_of_kind hkind)]
    exact hinner.block h.advance hkind
  · have hfails : expectPeek .leftBrace s = .error (s.peekFault .leftBrace) s := if_neg hkind
    rw [bind_of_error hfails]
    exact Conduct.Outcome.mismatch h hkind

theorem conducted_elseBranch (h : c.Stands n level s) :
    c.Outcome n level (c.Stands n level) (elseBranch inner s) := by
  by_cases hkind : s.peek.kind = .kwElse
  · rw [elseBranch_of_else hkind]
    exact (conducted_braced hinner (h.pass (by rw [hkind]; rfl))).map
  · rw [elseBranch_of_else_ne hkind]
    exact h

theorem conducted_conditionalRest (h : c.Stands n level s) :
    c.Outcome n level (c.Stands n level) (conditionalRest inner s) := by
  refine (Conduct.Outcome.expectPeek rfl h).bind fun _ t ht => ?_
  refine (conducted_groupRest hinner ht).bind fun _ u hu => ?_
  refine (conducted_braced hinner hu).bind fun _ v hv => ?_
  exact (conducted_elseBranch hinner hv).bind fun _ _ hw => hw

theorem conducted_functionRest (h : c.Stands n level s) :
    c.Outcome n level (c.Stands n level) (functionRest inner s) := by
  refine (Conduct.Outcome.expectPeek rfl h).bind fun _ t ht => ?_
  refine (conducted_items enumeration_parameters conducted_parameter ht).bind fun _ u hu => ?_
  exact (conducted_braced hinner hu).bind fun _ _ hv => hv

theorem conducted_argument (h : c.Stands n level s) :
    c.Outcome n level (c.Stands n level) (argument inner s) :=
  hinner.expression .lowest h.advance

theorem conducted_start (h : c.Starts (n + 1) level s) :
    c.Outcome n level (c.Stands n level) (ParseM.start inner s.enter) := by
  cases hrule : StartRule.ofKind? s.current.kind with
  | none =>
      rw [start_of_none (s := s.enter) hrule]
      exact ⟨h.starts.enter.inside, c.noStart h.here h.starts hrule⟩
  | some rule =>
      rw [start_of_rule (s := s.enter) hrule]
      have hstands := h.enter (StartRule.isPlain_of_ofKind? hrule)
      cases rule with
      | identifier => exact hstands
      | integer =>
          have hkind := StartRule.ofKind?_eq_integer_iff.mp hrule
          change c.Outcome n level _ (integerLiteral s.enter)
          cases hvalue : s.enter.current.integer? with
          | some value =>
              rw [integerLiteral_of_some hvalue]
              exact hstands
          | none =>
              have hlarge := Token.lt_of_integer?_eq_none hkind hvalue
              rw [integerLiteral_of_none hvalue]
              exact ⟨hstands.stands.inside, c.tooLarge h.here hkind hlarge⟩
      | boolean => exact hstands
      | unary operator => exact conducted_unaryRest hinner operator hstands
      | group => exact conducted_groupRest hinner hstands
      | conditional => exact conducted_conditionalRest hinner hstands
      | function => exact conducted_functionRest hinner hstands

theorem conducted_continueRule (left : Expr) (rule : ContinueRule) (h : c.Stands n level s) :
    c.Outcome n level (c.Stands n level) (rule.parse inner left s) := by
  cases rule with
  | binary operator => exact (hinner.expression _ h.advance).bind fun _ _ ht => ht
  | call =>
      have harguments := conducted_items (enumeration_arguments inner)
        (conducted_argument hinner) h
      exact harguments.bind fun _ _ ht => ht

theorem conducted_continued (least : Precedence) (steps : Nat) (left : Expr)
    (h : c.Stands n level s) :
    c.Outcome n level (c.Stands n level) (continued inner least steps left s) := by
  induction steps generalizing s left with
  | zero => exact h
  | succ steps ih =>
      cases hcontinues : s.peek.kind.continues least with
      | false =>
          rw [continued_of_continues_eq_false hcontinues]
          exact h
      | true =>
          obtain ⟨rule, hrule⟩ := ContinueRule.exists_of_continues hcontinues
          rw [continued_of_rule hcontinues hrule]
          have hstands := h.pass (ContinueRule.isPlain_of_ofKind? hrule)
          have hlonger := conducted_continueRule hinner left rule hstands
          exact hlonger.bind fun longer _ ht => ih longer ht

theorem conducted_expressionBody (least : Precedence) (h : c.Starts (n + 1) level s) :
    c.Outcome n level (c.Stands n level) (expressionBody inner least s.enter) :=
  (conducted_start hinner h).bind fun left _ ht => conducted_continued hinner least _ left ht

/-! ### Statements -/

theorem conducted_letStatement (h : c.Stands n level s) :
    c.Outcome n level (c.Ends n level) (letStatement inner s) := by
  refine (Conduct.Outcome.expectPeek rfl h).bind fun _ t ht => ?_
  refine (Conduct.Outcome.expectPeek rfl ht).bind fun _ u hu => ?_
  refine (hinner.expression .lowest hu.advance).bind fun _ v hv => ?_
  exact (Conduct.Outcome.skipSemicolon hv).bind fun _ _ hw => hw

theorem conducted_returnStatement (h : c.Stands n level s) :
    c.Outcome n level (c.Ends n level) (returnStatement inner s) := by
  by_cases hstops : s.peek.kind.Stops
  · rw [returnStatement_of_stops hstops]
    exact (Conduct.Outcome.skipSemicolon h).map
  · rw [returnStatement_of_not_stops hstops]
    refine (hinner.expression .lowest h.advance).bind fun _ t ht => ?_
    exact (Conduct.Outcome.skipSemicolon ht).bind fun _ _ hu => hu

/-- A statement of a list, which does not begin with the brace that closes the list. -/
theorem conducted_statement (h : c.Begins n level s) (heof : s.current.kind ≠ .eof)
    (hbrace : s.current.kind = .rightBrace → level = 0) :
    c.Outcome n level (c.Ends n level) (statement inner s) := by
  have hstarts := h.resumes.starts heof
  by_cases hlet : s.current.kind = .kwLet
  · rw [statement_of_let hlet]
    have hstands := hstarts.stands (by simp [hlet]) (by simp [hlet])
    exact (conducted_letStatement hinner ⟨hstands, c.keyword h.here (.inl hlet)⟩).map
  by_cases hreturn : s.current.kind = .kwReturn
  · rw [statement_of_return hreturn]
    have hstands := hstarts.stands (by simp [hreturn]) (by simp [hreturn])
    exact (conducted_returnStatement hinner ⟨hstands, c.keyword h.here (.inr hreturn)⟩).map
  by_cases hsemicolon : s.current.kind = .semicolon
  · rw [statement_of_semicolon hsemicolon]
    exact ⟨hstarts.stands (by simp [hsemicolon]) (by simp [hsemicolon]),
      c.semicolon h.here hsemicolon⟩
  · rw [statement_of_other hlet hreturn hsemicolon]
    have hother : s.current.kind.endsBefore level = false := by
      cases hkind : s.current.kind <;> simp_all [TokenKind.endsBefore]
    have hexpression : c.Outcome n level (c.Ends n level) (expressionStatement inner s) := by
      refine (hinner.expression .lowest ⟨hstarts, c.other h.here hother hsemicolon⟩).bind
        fun _ t ht => ?_
      exact (Conduct.Outcome.skipSemicolon ht).bind fun _ _ hu => hu
    exact hexpression.map

end Expressions

/-! ### Lists of statements -/

theorem ParseState.Ends.resync (h : s.Ends) (level : Nat) : (s.resync level).2.Ends := by
  fun_induction ParseState.resync level s with
  | case1 s | case2 s | case3 s => exact h
  | case4 s _ _ _ ih => exact ih h.advance

theorem remaining_of_error {t : ParseState} {fault : Fault}
    (hrun : statement (.level n) s = .error fault t) (level : Nat) :
    ((t.record fault).resync level).2.remaining ≤ s.remaining := by
  have hle : t.remaining ≤ s.remaining :=
    (Passage.remaining.statement (Passage.remaining.level n)).of_error hrun
  exact Nat.le_trans (Passage.remaining.resync level (t.record fault)) hle

theorem conducted_blockStatements (hinner : (Inner.level n).Conducted c n) {steps : Nat}
    (h : c.Begins n (level + 1) s) (hfuel : Fueled steps s) :
    c.Outcome n level (c.Stands n level) (blockStatements (.level n) (level + 1) steps s) := by
  induction steps generalizing s with
  | zero =>
      have heof := hfuel.eof_of_zero
      rw [blockStatements_of_eof heof]
      exact ⟨h.resumes.inside, c.unclosed h.here h.resumes heof⟩
  | succ steps ih =>
      by_cases hbrace : s.current.kind = .rightBrace
      · rw [blockStatements_of_brace hbrace]
        exact ⟨h.resumes.stands_of_brace hbrace, c.closing h.here hbrace⟩
      by_cases heof : s.current.kind = .eof
      · rw [blockStatements_of_eof heof]
        exact ⟨h.resumes.inside, c.unclosed h.here h.resumes heof⟩
      have hstatement := conducted_statement hinner h heof fun hkind => absurd hkind hbrace
      cases hrun : statement (.level n) s with
      | ok found t =>
          obtain ⟨hstands, hends⟩ := hstatement.of_ok hrun
          have hle := (Passage.remaining.statement (Passage.remaining.level n)).of_ok hrun
          rw [blockStatements_of_ok hbrace heof hrun]
          exact (ih ⟨.inl hstands.advance, c.next hends hstands⟩
            (hfuel.next heof hle hstands.ends)).map
      | error fault t =>
          obtain ⟨hinside, hfails⟩ := hstatement.of_error hrun
          have hrecord := hinside.record fault
          cases hclosed : ((t.record fault).resync (level + 1)).1 with
          | true =>
              rw [blockStatements_of_error_of_closed hbrace heof hrun hclosed]
              obtain ⟨hends, -, hbraces⟩ := hrecord.resync.1 hclosed
              exact ⟨⟨hends, Nat.succ.inj hbraces⟩, c.recoverClosed hfails hinside hclosed⟩
          | false =>
              rw [blockStatements_of_error_of_open hbrace heof hrun hclosed]
              exact ih ⟨hrecord.resumes hclosed, c.recoverOpen h.here hfails hinside hclosed⟩
                (hfuel.next heof (remaining_of_error hrun _) (hrecord.ends.resync _))

theorem conducted_blockBody (hinner : (Inner.level n).Conducted c n)
    (h : c.Starts (n + 1) level s) (hkind : s.current.kind = .leftBrace) :
    c.Outcome n level (c.Stands n level) (blockBody (.level n) s.enter) := by
  have hbraces : s.enter.braces = level + 1 := by
    rw [h.starts.enter.braces_eq]
    exact congrArg (bracesAfter level) hkind
  have hstands : s.enter.Stands (level + 1) := ⟨h.starts.enter.ends, hbraces⟩
  rw [blockBody_apply, hbraces]
  exact (conducted_blockStatements hinner
    ⟨.inl hstands.advance, c.opening h.here h.starts hkind⟩ (.inl (Nat.le_refl _))).map

end Readers

theorem ParseState.starts_start (maxDepth : Nat) (source : String) :
    (start maxDepth source).Starts 0 := by
  obtain ⟨ts, last, htokens⟩ := exists_tokenize_eq_append source
  exact ⟨⟨ts, last, start_sees htokens⟩, rfl⟩

namespace Conduct

theorem level (c : Conduct) (n : Nat) : (Inner.level n).Conducted c n := by
  induction n with
  | zero =>
      constructor
      · intro level s least h
        exact ⟨h.starts.inside, c.tooDeep h.here h.starts (.inl rfl)⟩
      · intro level s h hkind
        exact ⟨h.starts.inside, c.tooDeep h.here h.starts (.inl rfl)⟩
  | succ n ih =>
      constructor
      · intro level s least h
        have hkeeps := Passage.depth.expressionBody (Passage.depth.level n) least
        exact .nested h hkeeps (conducted_expressionBody ih least h)
      · intro level s h hkind
        have hkeeps := Passage.depth.blockBody (Passage.depth.level n)
        exact .nested h hkeeps (conducted_blockBody ih h hkind)

/-- A program keeps to a conduct that also goes on from statement to statement outside of braces. -/
theorem program (c : Conduct) {n : Nat}
    (hnext : ∀ {t}, c.Ends n 0 t → c.begins n 0 t.advance)
    (hrecover : ∀ {s t fault}, c.begins n 0 s → c.Fails n 0 fault t →
      c.begins n 0 ((t.record fault).resync 0).2.advance)
    (steps : Nat) {s : ParseState} (h : c.Begins n 0 s) :
    c.Begins n 0 (s.programStatements (.level n) steps).2 := by
  induction steps generalizing s with
  | zero => exact h
  | succ steps ih =>
      by_cases heof : s.current.kind = .eof
      · rw [programStatements_of_eof heof]
        exact h
      have hstatement := conducted_statement (c.level n) h heof fun _ => rfl
      cases hrun : statement (.level n) s with
      | ok found t =>
          have hends := hstatement.of_ok hrun
          rw [programStatements_of_ok heof hrun]
          exact ih ⟨.inl hends.stands.advance, hnext hends⟩
      | error fault t =>
          have hfails := hstatement.of_error hrun
          have hrecord := hfails.inside.record fault
          rw [programStatements_of_error heof hrun]
          exact ih ⟨hrecord.resumes hrecord.resync_zero_open, hrecover h.here hfails⟩

end Conduct

end MonkeySyntax
