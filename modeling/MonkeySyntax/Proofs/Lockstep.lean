import MonkeySyntax.Proofs.Mirror

/-!
# Readers in lockstep

Every reader of the parser, run by two parsers on the same tokens, does the same in both. The
readers are taken one by one, each from those it calls; a level of nesting follows from the next
one.

Statements need one exception. If the stop is a semicolon, the second parser takes it as the end of
the last statement, while the first parser has nothing to take.
-/

namespace MonkeySyntax

open ParseM

/-- Inner phrases are read in the same way by both parsers. -/
structure Inner.Mirrored (c : Copy) (inner : Inner) : Prop where
  leveled : inner.Leveled
  leads : inner.Keeps ParseState.Leads
  expression : ∀ {ts : List Token} {s s' : ParseState} (least : Precedence), c.Mirrors ts s s' →
    c.Pairs (·.relocate c.place) c.Meets (inner.expression least s) (inner.expression least s')
  block : ∀ {x : Token} {ts : List Token} {s s' : ParseState}, c.Mirrors (x :: ts) s s' →
    0 < s.braces → c.Pairs (·.relocate c.place) c.Meets (inner.block s) (inner.block s')

namespace Copy

section Readers

variable {c : Copy} {inner : Inner} {s s' : ParseState} {x : Token} {ts : List Token}

theorem pairs_integerLiteral (h : c.Mirrors (x :: ts) s s') (hkind : s.current.kind = .integer) :
    c.Pairs (·.relocate c.place) c.Meets (integerLiteral s) (integerLiteral s') := by
  have hcurrent := h.current_relocate
  have hsame : s'.current.integer? = s.current.integer? := by
    rw [hcurrent]
    rfl
  cases hvalue : s.current.integer? with
  | some value =>
      rw [integerLiteral_of_some hvalue, integerLiteral_of_some (hsame.trans hvalue), hcurrent]
      exact .pure rfl ⟨x, ts, h⟩
  | none =>
      have hx : s.current = x := h.current_eq
      have hlarge := (h.blames x (by simp)).large (by rwa [← hx])
      rw [← hx] at hlarge
      rw [integerLiteral_of_none hvalue, integerLiteral_of_none (hsame.trans hvalue), hcurrent,
        ← Token.literal_relocate c.place, ← hlarge]
      exact .error h

theorem pairs_unaryRest (hinner : inner.Mirrored c) (operator : UnaryOp)
    (h : c.Mirrors (x :: ts) s s') :
    c.Pairs (·.relocate c.place) c.Meets (unaryRest inner operator s)
      (unaryRest inner operator s') := by
  refine (hinner.expression .unary h.advance).bind fun right t t' _ ht => .pure ?_ ht
  rw [h.current_relocate, Expr.relocate]

theorem pairs_groupRest (hinner : inner.Mirrored c) (h : c.Mirrors (x :: ts) s s') :
    c.Pairs (·.relocate c.place) c.Meets (groupRest inner s) (groupRest inner s') := by
  refine (hinner.expression .lowest h.advance).bind fun expr t t' _ hmeets => ?_
  obtain ⟨y, us, ht⟩ := hmeets
  refine (Pairs.expectPeek ht (by simp [TokenKind.Stops])).bind fun _ u u' _ hmeets => ?_
  obtain ⟨vs, hu, -⟩ := hmeets
  exact .pure rfl ⟨_, vs, hu⟩

theorem pairs_braced (hinner : inner.Mirrored c) (h : c.Mirrors (x :: ts) s s') :
    c.Pairs (·.relocate c.place) c.Meets (braced inner s) (braced inner s') := by
  refine (Pairs.expectPeek h (by simp [TokenKind.Stops])).bind fun _ t t' hrun hmeets => ?_
  obtain ⟨us, ht, -⟩ := hmeets
  obtain ⟨hkind, rfl⟩ := expectPeek_eq_ok_iff.mp hrun
  refine hinner.block ht ?_
  rw [s.braces_advance, hkind]
  exact Nat.succ_pos _

theorem pairs_elseBranch (hinner : inner.Mirrored c) (h : c.Mirrors (x :: ts) s s') :
    c.Pairs (Option.map (·.relocate c.place)) c.Meets (elseBranch inner s)
      (elseBranch inner s') := by
  have hiff := h.peek_kind_iff (by simp [TokenKind.Stops] : ¬ TokenKind.kwElse.Stops)
  by_cases hkind : s.peek.kind = .kwElse
  · rw [elseBranch_of_else hkind, elseBranch_of_else (hiff.mpr hkind)]
    obtain ⟨us, rfl⟩ := h.advance.eq_cons (by simp [hkind])
    exact (pairs_braced hinner h.advance).map fun _ => rfl
  · rw [elseBranch_of_else_ne hkind, elseBranch_of_else_ne (mt hiff.mp hkind)]
    exact .pure rfl ⟨x, ts, h⟩

theorem pairs_conditionalRest (hinner : inner.Mirrored c) (h : c.Mirrors (x :: ts) s s') :
    c.Pairs (·.relocate c.place) c.Meets (conditionalRest inner s)
      (conditionalRest inner s') := by
  refine (Pairs.expectPeek h (by simp [TokenKind.Stops])).bind fun _ t t' _ hmeets => ?_
  obtain ⟨us, ht, -⟩ := hmeets
  refine (pairs_groupRest hinner ht).bind fun condition u u' _ hmeets => ?_
  obtain ⟨_, _, hu⟩ := hmeets
  refine (pairs_braced hinner hu).bind fun consequence v v' _ hmeets => ?_
  obtain ⟨_, _, hv⟩ := hmeets
  refine (pairs_elseBranch hinner hv).bind fun alternative w w' _ hw => .pure ?_ hw
  rw [h.current_relocate, Expr.relocate_conditional]

theorem pairs_parameter (h : c.Mirrors (x :: ts) s s') :
    c.Pairs (·.relocate c.place) c.Meets (parameter s) (parameter s') := by
  refine (Pairs.expectPeek h (by simp [TokenKind.Stops])).bind fun _ t t' _ hmeets => ?_
  obtain ⟨us, ht, -⟩ := hmeets
  refine .pure ?_ ⟨_, us, ht⟩
  rw [ht.current_relocate]
  rfl

theorem pairs_argument (hinner : inner.Mirrored c) (h : c.Mirrors (x :: ts) s s') :
    c.Pairs (·.relocate c.place) c.Meets (argument inner s) (argument inner s') :=
  hinner.expression .lowest h.advance

section Enumerations

variable {α : Type} {f : α → α} {item : ParseM α} {more : Nat → ParseM (List α)}
  {items : ParseM (List α)}

theorem pairs_more (henum : Enumeration item more items) (hkeeps : item.Keeps ParseState.Leads)
    (hitem : ∀ {x : Token} {ts : List Token} {s s' : ParseState}, c.Mirrors (x :: ts) s s' →
      c.Pairs f c.Meets (item s) (item s')) {steps steps' : Nat} (h : c.Mirrors (x :: ts) s s')
    (hsteps : ts.length ≤ steps) (hsteps' : ts.length ≤ steps') :
    c.Pairs (List.map f) c.Meets (more steps s) (more steps' s') := by
  have hiff := h.peek_kind_iff (by simp [TokenKind.Stops] : ¬ TokenKind.comma.Stops)
  induction steps generalizing x ts s s' steps' with
  | zero =>
      obtain rfl : ts = [] := List.eq_nil_of_length_eq_zero (Nat.le_zero.mp hsteps)
      have hpeek : s.peek.kind ≠ .comma := by simp [h.peek_eof]
      rw [henum.more_zero, henum.more_of_comma_ne (mt hiff.mp hpeek)]
      exact .pure rfl ⟨x, [], h⟩
  | succ steps ih =>
      by_cases hkind : s.peek.kind = .comma
      · obtain ⟨us, rfl⟩ := h.advance.eq_cons (by simp [hkind])
        have hpos := Nat.lt_of_lt_of_le (Nat.succ_pos _) hsteps'
        obtain ⟨steps', rfl⟩ := Nat.exists_eq_add_of_lt hpos
        rw [Nat.zero_add] at hsteps' ⊢
        rw [henum.more_of_comma hkind, henum.more_of_comma (hiff.mpr hkind)]
        refine (hitem h.advance).bind fun first t t' hrun hmeets => ?_
        obtain ⟨y, vs, ht⟩ := hmeets
        have hlength := h.advance.length_le ht (hkeeps.of_ok hrun)
        simp only [List.length_cons] at hsteps hsteps' hlength
        have hiff' := ht.peek_kind_iff (by simp [TokenKind.Stops] : ¬ TokenKind.comma.Stops)
        refine (ih ht (by omega) (by omega) hiff').bind fun rest u u' _ hu => ?_
        exact .pure rfl hu
      · rw [henum.more_of_comma_ne hkind, henum.more_of_comma_ne (mt hiff.mp hkind)]
        exact .pure rfl ⟨x, ts, h⟩

theorem pairs_items (henum : Enumeration item more items) (hkeeps : item.Keeps ParseState.Leads)
    (hitem : ∀ {x : Token} {ts : List Token} {s s' : ParseState}, c.Mirrors (x :: ts) s s' →
      c.Pairs f c.Meets (item s) (item s')) (h : c.Mirrors (x :: ts) s s') :
    c.Pairs (List.map f) c.Meets (items s) (items s') := by
  have hiff := h.peek_kind_iff (by simp [TokenKind.Stops] : ¬ TokenKind.rightParen.Stops)
  by_cases hkind : s.peek.kind = .rightParen
  · rw [henum.items_of_paren hkind, henum.items_of_paren (hiff.mpr hkind)]
    obtain ⟨us, rfl⟩ := h.advance.eq_cons (by simp [hkind])
    exact .pure rfl ⟨_, us, h.advance⟩
  · rw [henum.items_of_paren_ne hkind, henum.items_of_paren_ne (mt hiff.mp hkind)]
    refine (hitem h).bind fun first t t' _ hmeets => ?_
    obtain ⟨y, us, ht⟩ := hmeets
    have hsteps := Nat.le_of_succ_le ht.sees.length_le_remaining
    have hsteps' := Nat.le_of_succ_le ht.length_le_remaining
    refine (pairs_more henum hkeeps hitem ht hsteps hsteps').bind fun rest u u' _ hmeets => ?_
    obtain ⟨z, vs, hu⟩ := hmeets
    refine (Pairs.expectPeek hu (by simp [TokenKind.Stops])).bind fun _ v v' _ hmeets => ?_
    obtain ⟨ws, hv, -⟩ := hmeets
    exact .pure rfl ⟨_, ws, hv⟩

end Enumerations

theorem pairs_functionRest (hinner : inner.Mirrored c) (h : c.Mirrors (x :: ts) s s') :
    c.Pairs (·.relocate c.place) c.Meets (functionRest inner s) (functionRest inner s') := by
  refine (Pairs.expectPeek h (by simp [TokenKind.Stops])).bind fun _ t t' _ hmeets => ?_
  obtain ⟨us, ht, -⟩ := hmeets
  have hparameters := pairs_items enumeration_parameters Passage.leads.parameter pairs_parameter ht
  refine hparameters.bind fun names u u' _ hmeets => ?_
  obtain ⟨_, _, hu⟩ := hmeets
  refine (pairs_braced hinner hu).bind fun body v v' _ hv => .pure ?_ hv
  rw [h.current_relocate, Expr.relocate]

theorem pairs_startRule (hinner : inner.Mirrored c) {rule : StartRule}
    (hrule : StartRule.ofKind? s.current.kind = some rule) (h : c.Mirrors (x :: ts) s s') :
    c.Pairs (·.relocate c.place) c.Meets (rule.parse inner s) (rule.parse inner s') := by
  have hcurrent := h.current_relocate
  cases rule with
  | identifier =>
      refine .pure ?_ ⟨x, ts, h⟩
      rw [hcurrent]
      rfl
  | integer => exact pairs_integerLiteral h (StartRule.ofKind?_eq_integer_iff.mp hrule)
  | boolean =>
      refine .pure ?_ ⟨x, ts, h⟩
      rw [hcurrent]
      rfl
  | unary operator => exact pairs_unaryRest hinner operator h
  | group => exact pairs_groupRest hinner h
  | conditional => exact pairs_conditionalRest hinner h
  | function => exact pairs_functionRest hinner h

theorem pairs_start (hinner : inner.Mirrored c) (h : c.Mirrors ts s s') :
    c.Pairs (·.relocate c.place) c.Meets (ParseM.start inner s) (ParseM.start inner s') := by
  have hcongr : StartRule.ofKind? s'.current.kind = StartRule.ofKind? s.current.kind := by
    refine h.current_kind_congr fun kind hkind => ?_
    rcases hkind with rfl | rfl | rfl <;> rfl
  cases hrule : StartRule.ofKind? s.current.kind with
  | none =>
      have hfault : c.reblame s.current.startFault = s'.current.startFault := by
        rw [h.current_eq, h.current_eq']
        exact h.blames_head.start
      rw [start_of_none hrule, start_of_none (hcongr.trans hrule), ← hfault]
      exact .error h
  | some rule =>
      have hreal : s.current.kind ≠ .eof := by
        intro heof
        simp [heof, StartRule.ofKind?] at hrule
      rw [start_of_rule hrule, start_of_rule (hcongr.trans hrule)]
      obtain ⟨us, rfl⟩ := h.eq_cons hreal
      exact pairs_startRule hinner hrule h

theorem pairs_continueRule (hinner : inner.Mirrored c) (left : Expr) (rule : ContinueRule)
    (h : c.Mirrors (x :: ts) s s') :
    c.Pairs (·.relocate c.place) c.Meets (rule.parse inner left s)
      (rule.parse inner (left.relocate c.place) s') := by
  have hcurrent := h.current_relocate
  cases rule with
  | binary operator =>
      have hexpression := hinner.expression s.current.kind.precedence h.advance
      have hkind : s'.current.kind = s.current.kind := by rw [hcurrent]; rfl
      nth_rewrite 2 [← hkind] at hexpression
      refine hexpression.bind fun right t t' _ ht => .pure ?_ ht
      rw [hcurrent, Expr.relocate]
  | call =>
      have harguments := pairs_items (enumeration_arguments inner)
        (Passage.leads.argument hinner.leads) (pairs_argument hinner) h
      refine harguments.bind fun exprs t t' _ ht => .pure ?_ ht
      rw [hcurrent, Expr.relocate, relocateExprs_eq_map]

theorem pairs_continued (hinner : inner.Mirrored c) {least : Precedence} {steps steps' : Nat}
    {left : Expr} (h : c.Mirrors (x :: ts) s s') (hsteps : ts.length ≤ steps)
    (hsteps' : ts.length ≤ steps') :
    c.Pairs (·.relocate c.place) c.Meets (continued inner least steps left s)
      (continued inner least steps' (left.relocate c.place) s') := by
  have hstops : ∀ kind : TokenKind, kind.Stops →
      kind.continues least = TokenKind.eof.continues least := by
    rintro kind (rfl | rfl | rfl) <;> cases least <;> rfl
  induction steps generalizing x ts s s' steps' left with
  | zero =>
      obtain rfl : ts = [] := List.eq_nil_of_length_eq_zero (Nat.le_zero.mp hsteps)
      have hpeek : s.peek.kind.continues least = false := by
        rw [h.peek_eq, List.headD_nil, c.marker_eof]
        cases least <;> rfl
      have hpeek' := (h.peek_kind_congr hstops).trans hpeek
      rw [continued_of_continues_eq_false hpeek, continued_of_continues_eq_false hpeek']
      exact .pure rfl ⟨x, [], h⟩
  | succ steps ih =>
      have hcongr := h.peek_kind_congr hstops
      cases hcontinues : s.peek.kind.continues least with
      | false =>
          rw [continued_of_continues_eq_false hcontinues,
            continued_of_continues_eq_false (hcongr.trans hcontinues)]
          exact .pure rfl ⟨x, ts, h⟩
      | true =>
          obtain ⟨rule, hrule⟩ := ContinueRule.exists_of_continues hcontinues
          have hreal : s.peek.kind ≠ .eof := by
            intro heof
            simp [heof, ContinueRule.ofKind?] at hrule
          obtain ⟨us, rfl⟩ := h.advance.eq_cons hreal
          have hpeek : s'.peek.kind = s.peek.kind := by
            rw [h.peek_eq, h.peek_eq']
            rfl
          obtain ⟨steps', rfl⟩ :=
            Nat.exists_eq_add_of_lt (Nat.lt_of_lt_of_le (Nat.succ_pos _) hsteps')
          rw [Nat.zero_add] at hsteps' ⊢
          rw [continued_of_rule hcontinues hrule,
            continued_of_rule (hcongr.trans hcontinues) (by rw [hpeek]; exact hrule)]
          refine (pairs_continueRule hinner left rule h.advance).bind
            fun longer t t' hrun hmeets => ?_
          obtain ⟨y, vs, ht⟩ := hmeets
          have hleads := (Passage.leads.continueRule hinner.leads left rule).of_ok hrun
          have hlength := h.advance.length_le ht hleads
          simp only [List.length_cons] at hsteps hsteps' hlength
          exact ih ht (by omega) (by omega)

theorem pairs_expressionBody (hinner : inner.Mirrored c) (least : Precedence)
    (h : c.Mirrors ts s s') :
    c.Pairs (·.relocate c.place) c.Meets (expressionBody inner least s)
      (expressionBody inner least s') := by
  refine (pairs_start hinner h).bind fun left t t' _ hmeets => ?_
  obtain ⟨x, us, ht⟩ := hmeets
  have hsteps := Nat.le_of_succ_le ht.sees.length_le_remaining
  have hsteps' := Nat.le_of_succ_le ht.length_le_remaining
  exact pairs_continued hinner ht hsteps hsteps'

/-! ### Statements -/

/-- The second parser has taken the stop, a semicolon, as the end of the last statement. -/
structure Spent (c : Copy) (t t' : ParseState) : Prop where
  stop_kind : c.stop.kind = .semicolon
  sees : t.advance.Sees [] c.marker
  stream_eq : t'.stream = Stream'.cons c.stop c.beyond
  agrees : c.Agrees t t'
  braces_eq : t.braces = 0
  braces_eq' : t'.braces = c.braces

/-- Where the two parsers are at the end of a statement. -/
def Ends (c : Copy) (t t' : ParseState) : Prop := c.Meets t t' ∨ c.Spent t t'

/-- On the last token, the braces are closed unless the stop is the end of the source. -/
theorem Mirrors.braces_eq_zero (h : c.Mirrors ts s s') (hts : ts.tail = [])
    (hstop : c.stop.kind ≠ .eof) : s.braces = 0 := by
  have hsheltered := h.sheltered.resolve_left hstop
  rwa [hts] at hsheltered

theorem Mirrors.stop_eof (h : c.Mirrors ts s s') (hts : ts.tail = []) (hbraces : 0 < s.braces) :
    c.stop.kind = .eof := by
  by_contra hstop
  exact Nat.ne_of_gt hbraces (h.braces_eq_zero hts hstop)

theorem Mirrors.spent (h : c.Mirrors [x] s s') (hstop : c.stop.kind = .semicolon) :
    c.Spent s s'.advance where
  stop_kind := hstop
  sees := h.advance.sees
  stream_eq := h.advance.stream_eq
  agrees := ⟨h.agrees.depth_eq, h.agrees.maxDepth_eq, h.agrees.faults_eq⟩
  braces_eq := h.braces_eq_zero rfl (by simp [hstop])
  braces_eq' := by
    have hbraces : s.braces = 0 := h.braces_eq_zero rfl (by simp [hstop])
    have hbraces' := h.braces_eq_add
    have hpeek : s'.peek = c.stop := h.peek_eq'
    rw [s'.braces_advance, hbraces', hbraces, hpeek, hstop]
    exact Nat.zero_add _

theorem pairs_skipSemicolon (h : c.Mirrors (x :: ts) s s') :
    c.Pairs id c.Ends (skipSemicolon s) (skipSemicolon s') := by
  have hpeek := h.peek_eq
  have hpeek' := h.peek_eq'
  cases ts with
  | nil =>
      have hother : s.peek.kind ≠ .semicolon := by simp [h.peek_eof]
      rw [skipSemicolon_of_kind_ne hother]
      by_cases hstop : c.stop.kind = .semicolon
      · rw [skipSemicolon_of_kind (by rw [hpeek']; exact hstop)]
        exact .ok (.inr (h.spent hstop))
      · rw [skipSemicolon_of_kind_ne (by rw [hpeek']; exact hstop)]
        exact .ok (.inl ⟨x, [], h⟩)
  | cons y ts =>
      have hkind : s'.peek.kind = s.peek.kind := by
        rw [hpeek, hpeek']
        rfl
      by_cases hsemicolon : s.peek.kind = .semicolon
      · rw [skipSemicolon_of_kind hsemicolon, skipSemicolon_of_kind (hkind.trans hsemicolon)]
        exact .ok (.inl ⟨y, ts, h.advance⟩)
      · rw [skipSemicolon_of_kind_ne hsemicolon,
          skipSemicolon_of_kind_ne (by rwa [hkind])]
        exact .ok (.inl ⟨x, y :: ts, h⟩)

theorem pairs_letStatement (hinner : inner.Mirrored c) (h : c.Mirrors (x :: ts) s s') :
    c.Pairs (·.relocate c.place) c.Ends (letStatement inner s) (letStatement inner s') := by
  refine (Pairs.expectPeek h (by simp [TokenKind.Stops])).bind fun _ t t' _ hmeets => ?_
  obtain ⟨us, ht, -⟩ := hmeets
  refine (Pairs.expectPeek ht (by simp [TokenKind.Stops])).bind fun _ u u' _ hmeets => ?_
  obtain ⟨vs, hu, -⟩ := hmeets
  refine (hinner.expression .lowest hu.advance).bind fun value v v' _ hmeets => ?_
  obtain ⟨_, _, hv⟩ := hmeets
  refine (pairs_skipSemicolon hv).bind fun _ w w' _ hw => .pure ?_ hw
  rw [h.current_relocate, ht.current_relocate, Statement.relocate]
  rfl

theorem pairs_returnStatement (hinner : inner.Mirrored c) (h : c.Mirrors (x :: ts) s s') :
    c.Pairs (·.relocate c.place) c.Ends (returnStatement inner s) (returnStatement inner s') := by
  have hiff : s'.peek.kind.Stops ↔ s.peek.kind.Stops := by
    refine Iff.of_eq (h.peek_kind_congr fun kind hkind => ?_)
    simpa [TokenKind.Stops] using hkind
  by_cases hstops : s.peek.kind.Stops
  · rw [returnStatement_of_stops hstops, returnStatement_of_stops (hiff.mpr hstops)]
    refine (pairs_skipSemicolon h).map fun _ => ?_
    rw [h.current_relocate, Statement.relocate]
  · rw [returnStatement_of_not_stops hstops, returnStatement_of_not_stops (mt hiff.mp hstops)]
    refine (hinner.expression .lowest h.advance).bind fun value t t' _ hmeets => ?_
    obtain ⟨_, _, ht⟩ := hmeets
    refine (pairs_skipSemicolon ht).bind fun _ u u' _ hu => .pure ?_ hu
    rw [h.current_relocate, Statement.relocate]

theorem pairs_expressionStatement (hinner : inner.Mirrored c) (h : c.Mirrors (x :: ts) s s') :
    c.Pairs (·.relocate c.place) c.Ends (expressionStatement inner s)
      (expressionStatement inner s') := by
  refine (hinner.expression .lowest h).bind fun expr t t' _ hmeets => ?_
  obtain ⟨_, _, ht⟩ := hmeets
  refine (pairs_skipSemicolon ht).bind fun _ u u' _ hu => .pure ?_ hu
  rw [h.current_relocate, Statement.relocate]

theorem pairs_statement (hinner : inner.Mirrored c) (h : c.Mirrors (x :: ts) s s') :
    c.Pairs (Option.map (·.relocate c.place)) c.Ends (statement inner s) (statement inner s') := by
  have hkind := h.current_kind_eq
  by_cases hlet : s.current.kind = .kwLet
  · rw [statement_of_let hlet, statement_of_let (hkind.trans hlet)]
    exact (pairs_letStatement hinner h).map fun _ => rfl
  by_cases hreturn : s.current.kind = .kwReturn
  · rw [statement_of_return hreturn, statement_of_return (hkind.trans hreturn)]
    exact (pairs_returnStatement hinner h).map fun _ => rfl
  by_cases hsemicolon : s.current.kind = .semicolon
  · rw [statement_of_semicolon hsemicolon, statement_of_semicolon (hkind.trans hsemicolon)]
    exact .ok (.inl ⟨x, ts, h⟩)
  · rw [statement_of_other hlet hreturn hsemicolon,
      statement_of_other (by rwa [hkind]) (by rwa [hkind]) (by rwa [hkind])]
    exact (pairs_expressionStatement hinner h).map fun _ => rfl

/-! ### Skipping a statement -/

theorem endsBefore_add {level more : Nat} {kind : TokenKind}
    (h : more = 0 ∨ (kind = .rightBrace → 0 < level)) :
    kind.endsBefore (level + more) = kind.endsBefore level := by
  rcases h with rfl | h
  · rfl
  cases kind with
  | rightBrace =>
      have hlevel := h rfl
      have hmore : 0 < level + more := by omega
      simp only [TokenKind.endsBefore, hlevel, hmore]
  | _ => rfl

theorem Mirrors.end_iff {level : Nat} (h : c.Mirrors (x :: ts) s s')
    (hlevel : ts ≠ [] ∨ c.stop.kind = .eof ∨ 0 < level) :
    (s'.braces = level + c.braces ∧ (s'.current.kind = .semicolon ∨
        s'.peek.kind.endsBefore (level + c.braces) = true)) ↔
      (s.braces = level ∧ (s.current.kind = .semicolon ∨
        s.peek.kind.endsBefore level = true)) := by
  have hkind := h.current_kind_eq
  have hbraces := h.braces_eq_add
  have hunstrayed := h.unstrayed
  rw [hbraces, Nat.add_right_cancel_iff, hkind, h.peek_eq, h.peek_eq']
  refine and_congr_right fun heq => or_congr_right (Iff.of_eq ?_)
  subst heq
  cases ts with
  | nil =>
      have hstop : c.stop.kind = .eof :=
        (hlevel.resolve_left fun hne => hne rfl).elim id (h.stop_eof rfl)
      rw [List.headD_nil, c.marker_eof]
      change (c.stop.kind.endsBefore _ = true) = _
      rw [hstop]
      rfl
  | cons y ts =>
      change (y.kind.endsBefore (s.braces + c.braces) = true) = (y.kind.endsBefore s.braces = true)
      rw [endsBefore_add (hunstrayed.imp_right And.left)]

theorem Mirrors.ne_nil_of_not_end (h : c.Mirrors (x :: ts) s s') (hstop : c.stop.kind ≠ .eof)
    (hend : ¬ (s.braces = 0 ∧ (s.current.kind = .semicolon ∨ s.peek.kind.endsBefore 0 = true))) :
    ts ≠ [] := by
  rintro rfl
  have hpeek := h.peek_eof
  exact hend ⟨h.braces_eq_zero rfl hstop, .inr (by simp [hpeek, TokenKind.endsBefore])⟩

/-- A statement of an inner list, or of a list that both parsers read to the end of their source, is
skipped by both in the same way. -/
theorem Mirrors.resync {level : Nat} (h : c.Mirrors ts s s') (hinside : s.Inside level)
    (hlevel : c.stop.kind = .eof ∨ 0 < level) :
    (s'.resync (level + c.braces)).1 = (s.resync level).1 ∧
      ∃ us, c.Mirrors us (s.resync level).2 (s'.resync (level + c.braces)).2 := by
  fun_induction ParseState.resync level s generalizing s' ts with
  | case1 s heof =>
      obtain rfl : ts = [] := h.sees.current_eof_iff.mp heof
      have hstop : c.stop.kind = .eof := by
        refine hlevel.elim id fun hpos => h.stop_eof rfl ?_
        rcases hinside.braces_le with hle | ⟨hkind, -⟩
        · exact Nat.lt_of_lt_of_le hpos hle
        · simp [hkind] at heof
      rw [ParseState.resync, if_pos (h.current_kind_eq_stop.trans hstop)]
      exact ⟨rfl, [], h⟩
  | case2 s heof hclosing =>
      obtain ⟨us, rfl⟩ := h.eq_cons heof
      have hkind := h.current_kind_eq
      have hbraces := h.braces_eq_add
      have hclosing' : s'.current.kind = .rightBrace ∧ s'.braces < level + c.braces :=
        ⟨hkind.trans hclosing.1, by omega⟩
      rw [ParseState.resync, if_neg (by rwa [hkind]), if_pos hclosing']
      exact ⟨rfl, _, h⟩
  | case3 s heof hclosing hend =>
      obtain ⟨us, rfl⟩ := h.eq_cons heof
      have hend' := (h.end_iff (.inr hlevel)).mpr hend
      have hkind := h.current_kind_eq
      rw [ParseState.resync, if_neg (by rwa [hkind]), if_neg (by omega), if_pos hend']
      exact ⟨rfl, _, h⟩
  | case4 s heof hclosing hend ih =>
      obtain ⟨us, rfl⟩ := h.eq_cons heof
      have hend' := mt (h.end_iff (.inr hlevel)).mp hend
      have hkind := h.current_kind_eq
      have hbraces := h.braces_eq_add
      have hclosing' : ¬ (s'.current.kind = .rightBrace ∧ s'.braces < level + c.braces) := by
        rw [hkind, hbraces, Nat.add_lt_add_iff_right]
        exact hclosing
      rw [ParseState.resync, if_neg (by rwa [hkind]), if_neg hclosing', if_neg hend']
      exact ih h.advance (hinside.advance hclosing)

/-! ### Blocks -/

theorem Ends.meets {t t' : ParseState} (h : c.Ends t t') (hbraces : 0 < t.braces) :
    c.Meets t t' := by
  rcases h with h | h
  · exact h
  · exact absurd h.braces_eq (Nat.ne_of_gt hbraces)

theorem Mirrors.next {level : Nat} (h : c.Mirrors ts s s') (hlevel : 0 < level)
    (hle : level ≤ s.braces) :
    ∃ us, us.length ≤ ts.length - 1 ∧ c.Mirrors us s.advance s'.advance := by
  cases ts with
  | nil => exact ⟨[], Nat.zero_le _, h.advance_nil (h.stop_eof rfl (Nat.lt_of_lt_of_le hlevel hle))⟩
  | cons x ts => exact ⟨ts, Nat.le_refl _, h.advance⟩

theorem pairs_blockStatements_nil {level steps steps' : Nat} (h : c.Mirrors [] s s')
    (hresumes : s.Resumes (level + 1)) :
    c.Pairs (List.map (·.relocate c.place)) c.Meets
      (blockStatements inner (level + 1) steps s)
      (blockStatements inner (level + 1 + c.braces) steps' s') := by
  have heof := h.current_kind_eof
  have hstop := h.stop_eof rfl (hresumes.braces_pos heof)
  have heof' := h.current_kind_eq_stop.trans hstop
  have hfault : c.reblame (.unexpectedEnd .rightBrace s.current.span)
      = .unexpectedEnd .rightBrace s'.current.span := by
    have hfollow := c.stop_blames.follow .rightBrace
    rw [Token.followFault, if_pos c.marker_eof, Token.followFault, if_pos hstop] at hfollow
    rw [h.current_eq, h.current_eq']
    exact hfollow
  rw [blockStatements_of_eof heof, blockStatements_of_eof heof', ← hfault]
  exact .error h

theorem pairs_blockStatements (hinner : inner.Mirrored c) {level steps steps' : Nat}
    (h : c.Mirrors ts s s') (hresumes : s.Resumes (level + 1)) (hsteps : ts.length ≤ steps)
    (hsteps' : ts.length ≤ steps') :
    c.Pairs (List.map (·.relocate c.place)) c.Meets
      (blockStatements inner (level + 1) steps s)
      (blockStatements inner (level + 1 + c.braces) steps' s') := by
  induction steps generalizing s s' ts steps' with
  | zero =>
      obtain rfl : ts = [] := List.eq_nil_of_length_eq_zero (Nat.le_zero.mp hsteps)
      exact pairs_blockStatements_nil h hresumes
  | succ steps ih =>
      by_cases heof : s.current.kind = .eof
      · obtain rfl : ts = [] := h.sees.current_eof_iff.mp heof
        exact pairs_blockStatements_nil h hresumes
      obtain ⟨us, rfl⟩ := h.eq_cons heof
      have hkind := h.current_kind_eq
      obtain ⟨steps', rfl⟩ := Nat.exists_eq_add_of_lt (Nat.lt_of_lt_of_le (Nat.succ_pos _) hsteps')
      rw [Nat.zero_add] at hsteps' ⊢
      by_cases hbrace : s.current.kind = .rightBrace
      · rw [blockStatements_of_brace hbrace, blockStatements_of_brace (hkind.trans hbrace)]
        exact .ok ⟨_, us, h⟩
      have heof' : s'.current.kind ≠ .eof := by rwa [hkind]
      have hbrace' : s'.current.kind ≠ .rightBrace := by rwa [hkind]
      have hlevel := leveled_statement hinner.leveled (hresumes.starts heof)
      have hleads := Passage.leads.statement hinner.leads
      have hpairs := pairs_statement hinner h
      generalize hrun : statement inner s = r at hpairs
      generalize hrun' : statement inner s' = r' at hpairs
      cases hpairs with
      | @ok found t t' hends =>
          have hstands := hlevel.of_ok hrun
          rw [blockStatements_of_ok hbrace heof hrun, blockStatements_of_ok hbrace' heof' hrun']
          obtain ⟨y, vs, ht⟩ := hends.meets (by rw [hstands.braces_eq]; exact Nat.succ_pos _)
          have hlength := h.length_le ht (hleads.of_ok hrun)
          simp only [List.length_cons] at hsteps hsteps' hlength
          refine (ih ht.advance (.inl hstands.advance) (by omega) (by omega)).map fun rest => ?_
          cases found <;> simp
      | @error fault vs t t' ht =>
          have hinside := (hlevel.of_error hrun).record fault
          obtain ⟨hclosed', ws, hsync⟩ := (ht.record fault).resync hinside (.inr (Nat.succ_pos _))
          have hlength := h.length_le hsync ((hleads.of_error hrun).skip fault (level + 1))
          -- The two parsers agree on whether the block is over.
          cases hclosed : ((t.record fault).resync (level + 1)).1 with
          | true =>
              rw [blockStatements_of_error_of_closed hbrace heof hrun hclosed,
                blockStatements_of_error_of_closed hbrace' heof' hrun' (hclosed'.trans hclosed)]
              obtain ⟨-, hcurrent, -⟩ := hinside.resync.1 hclosed
              obtain ⟨_, rfl⟩ := hsync.eq_cons (by simp [hcurrent])
              exact .ok ⟨_, _, hsync⟩
          | false =>
              rw [blockStatements_of_error_of_open hbrace heof hrun hclosed,
                blockStatements_of_error_of_open hbrace' heof' hrun' (hclosed'.trans hclosed)]
              have hle : level + 1 ≤ ((t.record fault).resync (level + 1)).2.braces := by
                rcases hinside.resync.2 hclosed with hstands | ⟨-, -, hle⟩
                · exact Nat.le_of_eq hstands.braces_eq.symm
                · exact hle
              obtain ⟨zs, hzs, hnext⟩ := hsync.next (Nat.succ_pos _) hle
              simp only [List.length_cons] at hsteps hsteps' hlength
              exact ih hnext (hinside.resumes hclosed) (by omega) (by omega)

theorem pairs_blockBody (hinner : inner.Mirrored c) (h : c.Mirrors (x :: ts) s s')
    (hbraces : 0 < s.braces) :
    c.Pairs (·.relocate c.place) c.Meets (blockBody inner s) (blockBody inner s') := by
  obtain ⟨level, hlevel⟩ := Nat.exists_eq_succ_of_ne_zero (Nat.ne_of_gt hbraces)
  have hstands : s.Stands (level + 1) := ⟨⟨_, _, h.sees⟩, hlevel⟩
  have hlist := pairs_blockStatements hinner h.advance (.inl hstands.advance)
    h.advance.sees.length_le_remaining h.advance.length_le_remaining
  have hbraces' : s'.braces = level + 1 + c.braces := by
    rw [← hstands.braces_eq]
    exact h.braces_eq
  rw [← hbraces', ← hstands.braces_eq] at hlist
  refine hlist.bind fun statements t t' _ ht => .pure ?_ ht
  rw [h.current_relocate, Block.relocate, relocateStatements_eq_map]

end Readers

/-! ### Levels of nesting -/

section Levels

variable {α : Type} {c : Copy} {f : α → α} {m : ParseM α} {s s' : ParseState} {ts : List Token}

theorem Mirrors.enter (h : c.Mirrors ts s s') : c.Mirrors ts s.enter s'.enter :=
  { h with
    sees := h.sees.congr s.stream_enter
    agrees := by
      refine ⟨?_, h.agrees.maxDepth_eq, h.agrees.faults_eq⟩
      have hdepth := h.agrees.depth_eq
      simp only [ParseState.enter]
      omega }

theorem Mirrors.leave (h : c.Mirrors ts s s') (hdepth : 0 < s.depth) :
    c.Mirrors ts s.leave s'.leave :=
  { h with
    sees := h.sees.congr s.stream_leave
    agrees := by
      refine ⟨?_, h.agrees.maxDepth_eq, h.agrees.faults_eq⟩
      have hdepth' := h.agrees.depth_eq
      simp only [ParseState.leave]
      omega }

theorem pairs_tooDeep (h : c.Mirrors ts s s') :
    c.Pairs f c.Meets ((ParseM.tooDeep : ParseM α) s) ((ParseM.tooDeep : ParseM α) s') := by
  have hfault : c.reblame (.tooDeep s.maxDepth s.current.span)
      = .tooDeep s'.maxDepth s'.current.span := by
    rw [h.agrees.maxDepth_eq, h.current_eq, h.current_eq']
    exact h.blames_head.deep s.maxDepth
  unfold ParseM.tooDeep
  rw [← hfault]
  exact .error h

/-- One level further in, both parsers are at their limit or neither is. -/
theorem pairs_nested (h : c.Mirrors ts s s') (hkeeps : m.Keeps fun s t => t.depth = s.depth)
    (hm : c.Pairs f c.Meets (m s.enter) (m s'.enter)) :
    c.Pairs f c.Meets (nested m s) (nested m s') := by
  have hdepth := h.agrees.depth_eq
  have hmaxDepth := h.agrees.maxDepth_eq
  unfold nested
  by_cases hdeep : s.maxDepth ≤ s.depth
  · rw [if_pos hdeep, if_pos (by omega)]
    exact pairs_tooDeep h
  · rw [if_neg hdeep, if_neg (by omega)]
    generalize hrun : m s.enter = r at hm
    generalize hrun' : m s'.enter = r' at hm
    cases hm with
    | ok ht =>
        obtain ⟨y, us, ht⟩ := ht
        have hpos := hkeeps.of_ok hrun
        exact .ok ⟨y, us, ht.leave (by rw [hpos]; exact Nat.succ_pos _)⟩
    | error ht =>
        have hpos := hkeeps.of_error hrun
        exact .error (ht.leave (by rw [hpos]; exact Nat.succ_pos _))

end Levels

end Copy

theorem Inner.mirrored_level (c : Copy) (n : Nat) : (Inner.level n).Mirrored c := by
  induction n with
  | zero =>
      exact ⟨Inner.leveled_level 0, Passage.leads.level 0, fun _ h => Copy.pairs_tooDeep h,
        fun h _ => Copy.pairs_tooDeep h⟩
  | succ n ih =>
      refine ⟨Inner.leveled_level (n + 1), Passage.leads.level (n + 1), ?_, ?_⟩
      · intro ts s s' least h
        have hkeeps := Passage.depth.expressionBody (Passage.depth.level n) least
        exact Copy.pairs_nested h hkeeps (Copy.pairs_expressionBody ih least h.enter)
      · intro x ts s s' h hbraces
        have hkeeps := Passage.depth.blockBody (Passage.depth.level n)
        exact Copy.pairs_nested h hkeeps (Copy.pairs_blockBody ih h.enter hbraces)

end MonkeySyntax
