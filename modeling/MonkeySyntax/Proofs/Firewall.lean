import MonkeySyntax.Proofs.Joining
import MonkeySyntax.Proofs.Lockstep

/-!
# A semicolon keeps faults to its own side

A source is cut at a semicolon outside of all braces. Whatever is wrong on the left of it, the
parser is through with it at the semicolon: on the right it reads what it would read if there were
nothing on the left, and on the left what it would read if the source ended there.

The left side is a run in lockstep with the left source alone, with the semicolon as the stop. The
right side is one with the right source alone, with its end as the stop.
-/

namespace MonkeySyntax

open ParseM

namespace Copy

variable {c : Copy} {inner : Inner} {s s' t t' : ParseState} {x : Token} {ts us : List Token}

/-- The first parser is at its end, the second one has passed the stop. -/
structure Passed (c : Copy) (t t' : ParseState) : Prop where
  sees : t.Sees [] c.marker
  stream_eq : t'.stream = c.beyond
  agrees : c.Agrees t t'
  braces_eq : c.stop.kind = .semicolon → t'.braces = bracesAfter c.braces t'.current.kind

theorem Spent.passed (h : c.Spent t t') : c.Passed t.advance t'.advance where
  sees := h.sees
  stream_eq := by
    rw [ParseState.stream_advance, h.stream_eq]
    rfl
  agrees := h.agrees.advance
  braces_eq _ := by rw [t'.braces_advance, h.braces_eq', t'.current_advance]

theorem Mirrors.spent_nil (h : c.Mirrors [] s s') (hstop : c.stop.kind = .semicolon) :
    c.Spent s s' where
  stop_kind := hstop
  sees := h.sees.advance
  stream_eq := h.stream_eq
  agrees := h.agrees
  braces_eq := h.braces_eq_zero rfl (by simp [hstop])
  braces_eq' := by
    have hbraces : s.braces = 0 := h.braces_eq_zero rfl (by simp [hstop])
    have hbraces' : s'.braces = bracesAfter (s.braces + c.braces) c.stop.kind := h.braces_eq
    rw [hbraces', hbraces, hstop]
    exact Nat.zero_add _

theorem resync_of_semicolon (hkind : s.current.kind = .semicolon) (hbraces : s.braces = 0) :
    s.resync 0 = (false, s) := by
  rw [ParseState.resync, if_neg (by simp [hkind]), if_neg (by simp [hkind]),
    if_pos ⟨hbraces, .inl hkind⟩]

/-- A statement of a program is skipped up to the same token, or up to the end of the first source
and the semicolon in the second. -/
theorem Mirrors.resync_semicolon (h : c.Mirrors ts s s') (hstop : c.stop.kind = .semicolon)
    (hbraces : c.braces = 0) : c.Ends (s.resync 0).2 (s'.resync 0).2 := by
  have hother : c.stop.kind ≠ .eof := by simp [hstop]
  fun_induction ParseState.resync 0 s generalizing s' ts with
  | case1 s heof =>
      obtain rfl : ts = [] := h.sees.current_eof_iff.mp heof
      have hspent := h.spent_nil hstop
      rw [resync_of_semicolon (h.current_kind_eq_stop.trans hstop)
        (hspent.braces_eq'.trans hbraces)]
      exact .inr hspent
  | case2 s heof hclosing => simp at hclosing
  | case3 s heof hclosing hend =>
      obtain ⟨us, rfl⟩ := h.eq_cons heof
      have hkind := h.current_kind_eq
      have hbraces' : s'.braces = 0 := by
        have heq := h.braces_eq_add
        omega
      by_cases hsemicolon : s.current.kind = .semicolon
      · rw [resync_of_semicolon (hkind.trans hsemicolon) hbraces']
        exact .inl ⟨_, us, h⟩
      have hround := ParseState.resync.eq_def 0 s'
      rw [if_neg (by rwa [hkind]), if_neg (by simp)] at hround
      rw [hround]
      cases us with
      | nil =>
          -- The second parser does not stop before the semicolon but on it.
          have hpeek : s'.peek.kind = .semicolon := by
            rw [h.peek_eq']
            exact hstop
          have hspent := h.spent hstop
          rw [if_neg (by simp [hkind, hsemicolon, hpeek, TokenKind.endsBefore]),
            resync_of_semicolon hpeek (hspent.braces_eq'.trans hbraces)]
          exact .inr hspent
      | cons y us =>
          have hend' := (h.end_iff (.inl (List.cons_ne_nil y us))).mpr hend
          rw [hbraces, Nat.add_zero] at hend'
          rw [if_pos hend']
          exact .inl ⟨_, _, h⟩
  | case4 s heof hclosing hend ih =>
      obtain ⟨us, rfl⟩ := h.eq_cons heof
      have hkind := h.current_kind_eq
      have hend' := mt (h.end_iff (.inl (h.ne_nil_of_not_end hother hend))).mp hend
      rw [hbraces, Nat.add_zero] at hend'
      have hround := ParseState.resync.eq_def 0 s'
      rw [if_neg (by rwa [hkind]), if_neg (by simp), if_neg hend'] at hround
      rw [hround]
      exact ih h.advance

/-- A statement of a program is skipped up to the same token where both sources end together. -/
theorem Mirrors.resync_eof (h : c.Mirrors ts s s') (hstop : c.stop.kind = .eof)
    (hbraces : c.braces = 0) : ∃ us, c.Mirrors us (s.resync 0).2 (s'.resync 0).2 := by
  have hinside : s.Inside 0 := ⟨⟨_, _, h.sees⟩, .inl (Nat.zero_le _)⟩
  obtain ⟨-, us, hsync⟩ := h.resync hinside (.inl hstop)
  rw [hbraces] at hsync
  exact ⟨us, hsync⟩

/-! ### Programs -/

/-- Where the two parsers are at the start of a statement of a program, `n` tokens before the end of
the first source at most. -/
def Resumed (c : Copy) (n : Nat) (t t' : ParseState) : Prop :=
  (∃ us, us.length ≤ n ∧ c.Mirrors us t t') ∨ c.Passed t t'

theorem Ends.resumed (h : c.Ends t t') (hs : c.Mirrors (x :: ts) s s') (hleads : s.Leads t) :
    c.Resumed ts.length t.advance t'.advance := by
  rcases h with ⟨y, us, ht⟩ | h
  · have hlength := hs.length_le ht hleads
    simp only [List.length_cons] at hlength
    exact .inl ⟨us, by omega, ht.advance⟩
  · exact .inr h.passed

theorem Mirrors.resumed_of_eof (h : c.Mirrors us t t') (hstop : c.stop.kind = .eof)
    (hs : c.Mirrors (x :: ts) s s') (hleads : s.Leads t) :
    c.Resumed ts.length t.advance t'.advance := by
  cases us with
  | nil => exact .inl ⟨[], Nat.zero_le _, h.advance_nil hstop⟩
  | cons y us => exact Ends.resumed (.inl ⟨y, us, h⟩) hs hleads

theorem Mirrors.round (hinner : inner.Mirrored c) (h : c.Mirrors (x :: ts) s s')
    (hbraces : c.braces = 0) (hstop : c.stop.kind ≠ .rightBrace) :
    (programRound inner s').1 = (programRound inner s).1.map (·.relocate c.place) ∧
      c.Resumed ts.length (programRound inner s).2 (programRound inner s').2 := by
  have hleads := Passage.leads.statement hinner.leads
  have hpairs := pairs_statement hinner h
  unfold programRound
  generalize hrun : statement inner s = r at hpairs
  generalize hrun' : statement inner s' = r' at hpairs
  cases hpairs with
  | @ok found t t' hends =>
      refine ⟨?_, hends.resumed h (hleads.of_ok hrun)⟩
      cases found <;> rfl
  | @error fault us t t' ht =>
      refine ⟨rfl, ?_⟩
      have hleads' := (hleads.of_error hrun).skip fault 0
      rcases c.stop_stops with hsemicolon | hbrace | heof
      · exact ((ht.record fault).resync_semicolon hsemicolon hbraces).resumed h hleads'
      · exact absurd hbrace hstop
      · obtain ⟨vs, hsync⟩ := (ht.record fault).resync_eof heof hbraces
        exact hsync.resumed_of_eof heof h hleads'

theorem Mirrors.passed_nil (h : c.Mirrors [] s s') (hstop : c.stop.kind ≠ .rightBrace)
    {steps' : Nat} (hsteps' : c.stop.kind = .semicolon → 0 < steps') :
    ∃ k u', c.Passed s u' ∧ steps' ≤ k + 1 ∧
      s'.programStatements inner steps' = u'.programStatements inner k := by
  rcases c.stop_stops with hsemicolon | hbrace | heof
  · obtain ⟨k, rfl⟩ := Nat.exists_eq_succ_of_ne_zero (Nat.ne_of_gt (hsteps' hsemicolon))
    have hpassed := (h.spent_nil hsemicolon).passed
    refine ⟨k, s'.advance, ?_, Nat.le_refl _,
      programStatements_of_semicolon (h.current_kind_eq_stop.trans hsemicolon)⟩
    exact ⟨h.sees, hpassed.stream_eq, ⟨h.agrees.depth_eq, h.agrees.maxDepth_eq,
      h.agrees.faults_eq⟩, hpassed.braces_eq⟩
  · exact absurd hbrace hstop
  · refine ⟨steps', s', ⟨h.sees, ?_, h.agrees, by simp [heof]⟩, Nat.le_succ _, rfl⟩
    rw [h.stream_eq, c.beyond_eq heof]
    exact (Stream'.const_eq c.stop).symm

/-- The second parser reads what the first one reads, and goes on behind the stop. -/
theorem Resumed.program (hinner : inner.Mirrored c) (hbraces : c.braces = 0)
    (hstop : c.stop.kind ≠ .rightBrace) {n steps steps' : Nat} (h : c.Resumed n s s')
    (hsteps : n ≤ steps) (hsteps' : n ≤ steps')
    (hroom : c.stop.kind = .semicolon → n < steps') :
    ∃ k u', c.Passed (s.programStatements inner steps).2 u' ∧ steps' ≤ k + n + 1 ∧
      s'.programStatements inner steps'
        = ((s.programStatements inner steps).1.map (·.relocate c.place) ++
            (u'.programStatements inner k).1, (u'.programStatements inner k).2) := by
  induction n using Nat.strong_induction_on generalizing s s' steps steps' with
  | _ n ih =>
      rcases h with ⟨us, hus, h⟩ | h
      · cases us with
        | nil =>
            obtain ⟨k, u', hpassed, hk, heq⟩ := h.passed_nil hstop
              fun hsemicolon => Nat.lt_of_le_of_lt (Nat.zero_le n) (hroom hsemicolon)
            rw [programStatements_of_eof h.current_kind_eof]
            exact ⟨k, u', hpassed, by omega, heq⟩
        | cons x us =>
            simp only [List.length_cons] at hus
            have heof := h.current_ne_eof
            have heof' : s'.current.kind ≠ .eof := by rwa [h.current_kind_eq]
            obtain ⟨steps, rfl⟩ := Nat.exists_eq_succ_of_ne_zero (by omega : steps ≠ 0)
            obtain ⟨steps', rfl⟩ := Nat.exists_eq_succ_of_ne_zero (by omega : steps' ≠ 0)
            obtain ⟨hread, hresumed⟩ := h.round hinner hbraces hstop
            obtain ⟨k, u', hpassed, hk, heq⟩ :=
              ih us.length (by omega) hresumed (by omega : us.length ≤ steps)
                (by omega : us.length ≤ steps') fun hsemicolon => by
                  have hlt := hroom hsemicolon
                  omega
            rw [programStatements_succ heof, programStatements_succ heof', heq, hread]
            refine ⟨k, u', hpassed, by omega, ?_⟩
            simp only [List.map_append, List.append_assoc]
      · have heof : s.current.kind = .eof := h.sees.current_eof_iff.mpr rfl
        rw [programStatements_of_eof heof]
        exact ⟨steps', s', h, by omega, rfl⟩

theorem Mirrors.program_of_eof (hinner : inner.Mirrored c) (hbraces : c.braces = 0)
    (hstop : c.stop.kind = .eof) {steps steps' : Nat} (h : c.Mirrors ts s s')
    (hsteps : ts.length ≤ steps) (hsteps' : ts.length ≤ steps') :
    (s'.programStatements inner steps').1
        = (s.programStatements inner steps).1.map (·.relocate c.place) ∧
      c.Agrees (s.programStatements inner steps).2 (s'.programStatements inner steps').2 := by
  have hresumed : c.Resumed ts.length s s' := .inl ⟨ts, Nat.le_refl _, h⟩
  obtain ⟨k, u', hpassed, -, heq⟩ :=
    hresumed.program hinner hbraces (by simp [hstop]) hsteps hsteps' (by simp [hstop])
  have heof : u'.current.kind = .eof := by
    rw [← u'.head_stream, hpassed.stream_eq, c.beyond_eq hstop]
    exact hstop
  rw [programStatements_of_eof heof, List.append_nil] at heq
  rw [heq]
  exact ⟨rfl, hpassed.agrees⟩

end Copy

/-! ### Sources -/

section Sources

variable {maxDepth : Nat} {a b : String} {ts us : List Token}

/-- What the parser of a longer source does with `b`, which stands at its end from `origin` on,
after faults before that. -/
def Copy.behind (origin : Position) (b : String) (earlier : List Fault) : Copy :=
  .toEnd (Span.moved origin (firstLine b.toList)) (.markerAt (endOf b)) earlier
    (Token.kind_markerAt_endOf b)

theorem Copy.stream_behind (htokens : tokenize b = us ++ [.markerAt (endOf b)]) (source : String)
    (origin : Position) (earlier : List Fault) :
    Lexer.stream ⟨source, b.toList, origin⟩
      = us.map (·.relocate (behind origin b earlier).place) ++ₛ
          Stream'.const (behind origin b earlier).stop := by
  have hcopies : Lexer.Copies origin b.toList [] (.ofSource b) ⟨source, b.toList, origin⟩ :=
    ⟨⟨[], rfl, rfl, rfl⟩, (List.append_nil _).symm⟩
  rw [hcopies.stream .nil htokens, Lexer.stream_nil, ← Token.relocate_markerAt]
  rfl

/-- Where `b` begins, the parser is in the state in which it starts on `b`. -/
theorem Copy.Mirrors.behind (htokens : tokenize b = us ++ [.markerAt (endOf b)])
    {origin : Position} {source : String} {t : ParseState}
    (hstream : t.stream = Lexer.stream ⟨source, b.toList, origin⟩)
    (hbraces : t.braces = bracesAfter 0 t.current.kind) (hdepth : t.depth = 0)
    (hmaxDepth : t.maxDepth = maxDepth) :
    (Copy.behind origin b t.faults).Mirrors us (.start maxDepth b) t := by
  refine .of_starts (ParseState.start_sees htokens) ?_ (fun t _ => .relocate _ t)
    ⟨hdepth, hmaxDepth, (List.append_nil _).symm⟩ (ParseState.braces_start _ _) hbraces
    (.inl rfl) (.inl rfl)
  rw [hstream, stream_behind htokens source origin t.faults, Stream'.const_eq]
  rfl

theorem toList_semicolon (a b : String) :
    (a ++ ";" ++ b).toList = a.toList ++ ';' :: b.toList := by
  simp

/-- What the parser of `a ++ ";" ++ b` does with `a`. -/
def leftCopy (a b : String) : Copy :=
  .upTo id (.markerAt (endOf a)) (.symbolAt .semicolon ';' (endOf a))
    (Lexer.stream ⟨a ++ ";" ++ b, b.toList, (endOf a).after ';'⟩) 0 0
    (Token.kind_markerAt_endOf a) (.inl rfl)

theorem stop_kind_leftCopy (a b : String) : (leftCopy a b).stop.kind = .semicolon := rfl

theorem reblame_leftCopy (a b : String) :
    (leftCopy a b).reblame
      = Fault.reblame (.markerAt (endOf a)) (.symbolAt .semicolon ';' (endOf a)) := by
  funext fault
  change ((fault.relocate id).reblame _ _).deepen 0 = _
  rw [Fault.deepen_zero, Fault.relocate_id]
  rfl

theorem leftCopy_mirrors (htokens : tokenize a = ts ++ [.markerAt (endOf a)])
    (hbraces : bracesAfterAll 0 (tokenize a) = 0) :
    (leftCopy a b).Mirrors ts (.start maxDepth a) (.start maxDepth (a ++ ";" ++ b)) := by
  have hsees : (ParseState.start maxDepth a).Sees ts _ := ParseState.start_sees htokens
  refine .of_starts hsees ?_ ?_ ⟨rfl, rfl, rfl⟩ (ParseState.braces_start _ _)
    (ParseState.braces_start _ _) ?_ (.inl rfl)
  · have hcopies : Lexer.Copies .first a.toList (';' :: b.toList) (.ofSource a)
        (.ofSource (a ++ ";" ++ b)) :=
      ⟨⟨[], rfl, rfl, rfl⟩, toList_semicolon a b⟩
    rw [ParseState.stream_start, hcopies.stream (.semicolon _) htokens, Span.moved_first,
      Lexer.stream_semicolon]
    rfl
  · intro t ht
    have hne := moved_ne_marker htokens ht .first 0
    rw [Span.moved_first] at hne
    exact .reblame_of_ne (hsees.real t ht) hne
  · rw [htokens, bracesAfterAll_append] at hbraces
    exact .inr hbraces

/-- What the parser of `a ++ ";" ++ b` does with `b`, after faults in `a`. -/
def rightCopy (a b : String) (earlier : List Fault) : Copy := .behind (endOf (a ++ ";")) b earlier

theorem beyond_leftCopy (htokens : tokenize b = us ++ [.markerAt (endOf b)])
    (earlier : List Fault) :
    (leftCopy a b).beyond = us.map (·.relocate (rightCopy a b earlier).place) ++ₛ
      Stream'.const (rightCopy a b earlier).stop := by
  have horigin : (endOf a).after ';' = endOf (a ++ ";") := by simp [endOf]
  change Lexer.stream ⟨a ++ ";" ++ b, b.toList, (endOf a).after ';'⟩ = _
  rw [horigin]
  exact Copy.stream_behind htokens _ _ earlier

theorem length_add_length_lt_remaining {s s' : ParseState} (h : (leftCopy a b).Mirrors ts s s')
    (htokens : tokenize b = us ++ [.markerAt (endOf b)]) :
    ts.length + us.length < s'.remaining := by
  have hstream := h.stream_eq
  rw [beyond_leftCopy htokens [], ← Stream'.cons_append_stream,
    ← Stream'.append_append_stream] at hstream
  have hleft := h.sees.real
  have hright := (Lexer.stream_of_tokens htokens).2.1
  have hreal : ∀ t ∈ ts.map (·.relocate (leftCopy a b).place) ++
      (leftCopy a b).stop :: us.map (·.relocate (rightCopy a b []).place), t.kind ≠ .eof := by
    simp only [List.forall_mem_append, List.forall_mem_cons, List.forall_mem_map,
      Token.kind_relocate]
    exact ⟨hleft, by simp [stop_kind_leftCopy], hright⟩
  have hlength := ParseState.length_le_remaining hstream hreal
  simp only [List.length_append, List.length_cons, List.length_map] at hlength
  omega

end Sources

/-- **A semicolon is a firewall.** If the braces of `a` are closed at its end, then, whatever is
wrong in `a` or `b`, the source `a ++ ";" ++ b` has the statements of `a` and then those of `b`
where they are now, and the faults of `a`, with the semicolon to blame for the end of `a`, and then
the faults of `b` where they are now. -/
theorem parse_append_semicolon (maxDepth : Nat) (a b : String)
    (hbraces : bracesAfterAll 0 (tokenize a) = 0) :
    (parse maxDepth (a ++ ";" ++ b)).program.statements
        = (parse maxDepth a).program.statements ++ (parse maxDepth b).program.statements.map
            (·.relocate (Span.moved (endOf (a ++ ";")) (firstLine b.toList))) ∧
      (parse maxDepth (a ++ ";" ++ b)).faults
        = (parse maxDepth a).faults.map
            (Fault.reblame (.markerAt (endOf a)) (.symbolAt .semicolon ';' (endOf a))) ++
          (parse maxDepth b).faults.map
            (Fault.relocate (Span.moved (endOf (a ++ ";")) (firstLine b.toList))) := by
  obtain ⟨ts, htokens⟩ := exists_tokenize_eq a
  obtain ⟨us, htokens'⟩ := exists_tokenize_eq b
  have hinner := fun c => Inner.mirrored_level c maxDepth
  have hleft : (leftCopy a b).Mirrors ts (.start maxDepth a) (.start maxDepth (a ++ ";" ++ b)) :=
    leftCopy_mirrors htokens hbraces
  have hfuel := length_add_length_lt_remaining hleft htokens'
  have hsteps : ts.length < (ParseState.start maxDepth (a ++ ";" ++ b)).remaining := by omega
  have hresumed : (leftCopy a b).Resumed ts.length _ _ := .inl ⟨ts, Nat.le_refl _, hleft⟩
  obtain ⟨k, t, hpassed, hk, hrun⟩ := hresumed.program (hinner _) rfl
    (by simp [stop_kind_leftCopy]) hleft.sees.length_le_remaining (Nat.le_of_lt hsteps)
    fun _ => hsteps
  have hdepth : t.depth = 0 := by
    rw [hpassed.agrees.depth_eq]
    exact Passage.depth.programStatements (Passage.depth.level _) _ _
  have hmaxDepth : t.maxDepth = maxDepth := by
    rw [hpassed.agrees.maxDepth_eq]
    exact Passage.maxDepth.programStatements (Passage.maxDepth.level _) _ _
  have hstream : t.stream = Lexer.stream ⟨a ++ ";" ++ b, b.toList, endOf (a ++ ";")⟩ := by
    rw [endOf_append]
    exact hpassed.stream_eq
  have hright : (rightCopy a b t.faults).Mirrors us (.start maxDepth b) t :=
    .behind htokens' hstream (hpassed.braces_eq (stop_kind_leftCopy a b)) hdepth hmaxDepth
  obtain ⟨hstatements, hagrees⟩ := hright.program_of_eof (hinner _) rfl rfl
    hright.sees.length_le_remaining (by omega : us.length ≤ k)
  have hid : (fun statement : Statement => statement.relocate id) = id :=
    funext Statement.relocate_id
  constructor
  · calc (parse maxDepth (a ++ ";" ++ b)).program.statements
        = (parse maxDepth a).program.statements.map (·.relocate id) ++
            (t.programStatements (.level maxDepth) k).1 := congrArg Prod.fst hrun
      _ = _ := by
          rw [hid, List.map_id, hstatements]
          rfl
  · calc (parse maxDepth (a ++ ";" ++ b)).faults
        = (t.programStatements (.level maxDepth) k).2.faults :=
          congrArg (fun run => run.2.faults) hrun
      _ = t.faults ++ (parse maxDepth b).faults.map (Fault.relocate _) := hagrees.faults_eq
      _ = _ := by
          rw [hpassed.agrees.faults_eq, reblame_leftCopy]
          rfl

/-- A fault at the end of the left side, one of its own on the right side, which starts in the
middle of a line and goes on in the next one. -/
theorem parse_append_semicolon_let_let :
    bracesAfterAll 0 (tokenize "let x =") = 0 ∧
      (parse 9 ("let x =" ++ ";" ++ " y +\n* z; w")).program.statements
        = (parse 9 "let x =").program.statements ++ (parse 9 " y +\n* z; w").program.statements.map
            (·.relocate (Span.moved (endOf ("let x =" ++ ";")) (firstLine " y +\n* z; w".toList))) ∧
      (parse 9 ("let x =" ++ ";" ++ " y +\n* z; w")).faults
        = (parse 9 "let x =").faults.map (Fault.reblame (.markerAt (endOf "let x ="))
            (.symbolAt .semicolon ';' (endOf "let x ="))) ++
          (parse 9 " y +\n* z; w").faults.map
            (Fault.relocate (Span.moved (endOf ("let x =" ++ ";"))
              (firstLine " y +\n* z; w".toList))) :=
  have hbraces : bracesAfterAll 0 (tokenize "let x =") = 0 := by decide +kernel
  ⟨hbraces, parse_append_semicolon 9 "let x =" " y +\n* z; w" hbraces⟩

end MonkeySyntax
