import MonkeySyntax.Proofs.Joining
import MonkeySyntax.Proofs.Lockstep

/-!
# The body of a function is read like a program

The statements of a program and those of a block are read by two loops. They look for different
ends, skip faulty statements at different levels, and the loop of a block is left early when the
statement that is given up runs into the closing brace. On a text with matching braces they agree
all the same: a text is read in the braces of a function as it is read alone, faults included.

The run inside of the braces is in lockstep with the run on the text alone. The stop is the closing
brace, two levels of nesting and one brace are in use already.
-/

namespace MonkeySyntax

open ParseM

/-! ### Matching braces -/

def openings (ts : List Token) : Nat := (ts.map Token.kind).count .leftBrace

def closings (ts : List Token) : Nat := (ts.map Token.kind).count .rightBrace

/-- Nowhere are more braces closed than opened, and in the end as many. -/
structure BracesMatch (ts : List Token) : Prop where
  closings_le : ∀ n, closings (ts.take n) ≤ openings (ts.take n)
  closings_eq : closings ts = openings ts

theorem bracesMatch_iff (ts : List Token) : BracesMatch ts ↔
    (∀ n ∈ List.range ts.length, closings (ts.take n) ≤ openings (ts.take n)) ∧
      closings ts = openings ts := by
  constructor
  · intro h
    exact ⟨fun n _ => h.closings_le n, h.closings_eq⟩
  · rintro ⟨hle, heq⟩
    refine ⟨fun n => ?_, heq⟩
    by_cases hn : n < ts.length
    · exact hle n (List.mem_range.mpr hn)
    · rw [List.take_of_length_le (Nat.le_of_not_lt hn)]
      exact Nat.le_of_eq heq

instance (ts : List Token) : Decidable (BracesMatch ts) :=
  decidable_of_iff _ (bracesMatch_iff ts).symm

/-- Counting braces with saturation is counting them, as long as none is closed that is not open. -/
theorem unstrayed_of_closings_le {ts : List Token} {braces : Nat}
    (h : ∀ n, closings (ts.take n) ≤ braces + openings (ts.take n)) :
    Unstrayed braces ts ∧ bracesAfterAll braces ts + closings ts = braces + openings ts := by
  induction ts generalizing braces with
  | nil => exact ⟨trivial, rfl⟩
  | cons t ts ih =>
      have hstray : t.kind = .rightBrace → 0 < braces := by
        intro hkind
        have hone := h 1
        simp [closings, openings, hkind] at hone
        exact hone
      have hstep : bracesAfter braces t.kind + closings [t] = braces + openings [t] := by
        cases hkind : t.kind <;> simp_all [bracesAfter, closings, openings]
        omega
      have hclosings : ∀ us, closings (t :: us) = closings [t] + closings us := by
        intro us
        simp [closings, List.count_cons, Nat.add_comm]
      have hopenings : ∀ us, openings (t :: us) = openings [t] + openings us := by
        intro us
        simp [openings, List.count_cons, Nat.add_comm]
      obtain ⟨hunstrayed, hcount⟩ := ih fun n => by
        have hnext := h (n + 1)
        rw [List.take_succ_cons, hclosings, hopenings] at hnext
        exact (by omega : closings (ts.take n) ≤ bracesAfter braces t.kind + openings (ts.take n))
      refine ⟨⟨hstray, hunstrayed⟩, ?_⟩
      change bracesAfterAll (bracesAfter braces t.kind) ts + _ = _
      rw [hclosings, hopenings]
      omega

theorem BracesMatch.unstrayed {ts : List Token} (h : BracesMatch ts) :
    Unstrayed 0 ts ∧ bracesAfterAll 0 ts = 0 := by
  obtain ⟨hunstrayed, hcount⟩ := unstrayed_of_closings_le fun n => by
    rw [Nat.zero_add]
    exact h.closings_le n
  have heq := h.closings_eq
  exact ⟨hunstrayed, by omega⟩

theorem Unstrayed.of_append {braces : Nat} {ts us : List Token} (h : Unstrayed braces (ts ++ us)) :
    Unstrayed braces ts := by
  induction ts generalizing braces with
  | nil => trivial
  | cons t ts ih => exact ⟨h.1, ih h.2⟩

/-! ### The two loops -/

namespace Copy

variable {c : Copy} {inner : Inner} {s s' : ParseState} {x : Token} {ts : List Token}

/-- A statement of a program is skipped up to the same token, or up to the end of the source and
the closing brace. -/
theorem Mirrors.resync_rightBrace (h : c.Mirrors ts s s') (hstop : c.stop.kind = .rightBrace)
    (hbraces : c.braces = 1) :
    (s'.resync 1).1 = true ∧ c.Mirrors [] (s.resync 0).2 (s'.resync 1).2 ∨
      (s'.resync 1).1 = false ∧ c.Meets (s.resync 0).2 (s'.resync 1).2 := by
  have hother : c.stop.kind ≠ .eof := by simp [hstop]
  have hround := ParseState.resync.eq_def 1 s'
  fun_induction ParseState.resync 0 s generalizing s' ts with
  | case1 s heof =>
      obtain rfl : ts = [] := h.sees.current_eof_iff.mp heof
      have hkind := h.current_kind_eq_stop.trans hstop
      have hbraces' : s'.braces < 1 := by
        have heq : s'.braces = bracesAfter (s.braces + c.braces) c.stop.kind := h.braces_eq
        rw [heq, h.braces_eq_zero rfl hother, hbraces, hstop]
        exact Nat.zero_lt_one
      rw [if_neg (by simp [hkind]), if_pos ⟨hkind, hbraces'⟩] at hround
      rw [hround]
      exact .inl ⟨rfl, h⟩
  | case2 s heof hclosing => simp at hclosing
  | case3 s heof hclosing hend =>
      obtain ⟨us, rfl⟩ := h.eq_cons heof
      have hkind := h.current_kind_eq
      have heq := h.braces_eq_add
      have hend' : s'.braces = 1 ∧ (s'.current.kind = .semicolon ∨
          s'.peek.kind.endsBefore 1 = true) := by
        cases us with
        | nil =>
            -- The closing brace ends the statement as the end of the source does.
            refine ⟨by omega, .inr ?_⟩
            rw [h.peek_eq']
            change c.stop.kind.endsBefore 1 = true
            rw [hstop]
            rfl
        | cons y us =>
            have hiff := (h.end_iff (.inl (List.cons_ne_nil y us))).mpr hend
            rwa [hbraces, Nat.zero_add] at hiff
      rw [if_neg (by rwa [hkind]), if_neg (by omega), if_pos hend'] at hround
      rw [hround]
      exact .inr ⟨rfl, _, us, h⟩
  | case4 s heof hclosing hend ih =>
      obtain ⟨us, rfl⟩ := h.eq_cons heof
      have hkind := h.current_kind_eq
      have heq := h.braces_eq_add
      have hend' := mt (h.end_iff (.inl (h.ne_nil_of_not_end hother hend))).mp hend
      rw [hbraces, Nat.zero_add] at hend'
      rw [if_neg (by rwa [hkind]), if_neg (by omega), if_neg hend'] at hround
      rw [hround]
      exact ih h.advance (ParseState.resync.eq_def 1 s'.advance)

theorem Mirrors.advance_left (h : c.Mirrors [] s s') : c.Mirrors [] s.advance s' := by
  have hbraces : s.advance.braces = s.braces := by
    have hpeek : s.peek = c.marker := h.sees.peek_eq
    rw [s.braces_advance, hpeek, c.marker_eof]
    rfl
  exact { h with
    sees := h.sees.advance
    agrees := ⟨h.agrees.depth_eq, h.agrees.maxDepth_eq, h.agrees.faults_eq⟩
    braces_eq := by
      rw [hbraces]
      exact h.braces_eq
    sheltered := by
      rw [hbraces]
      exact h.sheltered
    unstrayed := .inr trivial }

theorem Mirrors.unstrayed_next (h : c.Mirrors (x :: ts) s s') (hbraces : c.braces = 1)
    (hstands : s.Stands 0) : Unstrayed 0 ts := by
  have hunstrayed := h.unstrayed.resolve_left (by simp [hbraces])
  rwa [hstands.braces_eq] at hunstrayed

theorem Mirrors.blockStatements_nil (hstop : c.stop.kind = .rightBrace) {steps steps' : Nat}
    (h : c.Mirrors [] s s') (hsteps' : 0 < steps') :
    ∃ u', ParseM.blockStatements inner 1 steps' s'
        = .ok ((s.programStatements inner steps).1.map (·.relocate c.place)) u' ∧
      c.Mirrors [] (s.programStatements inner steps).2 u' := by
  obtain ⟨steps', rfl⟩ := Nat.exists_eq_succ_of_ne_zero (Nat.ne_of_gt hsteps')
  have hbrace := h.current_kind_eq_stop.trans hstop
  rw [programStatements_of_eof h.current_kind_eof, blockStatements_of_brace hbrace]
  exact ⟨s', rfl, h⟩

/-- One round reads the same statement in a block as in a program, and the block goes on like the
program or is over with it. -/
theorem Mirrors.round_block (hinner : inner.Mirrored c) (hstop : c.stop.kind = .rightBrace)
    (hbraces : c.braces = 1) (h : c.Mirrors (x :: ts) s s') (hstarts : s.Starts 0)
    (hunstrayed : Unstrayed 0 (x :: ts)) :
    (∃ u', c.Mirrors [] (programRound inner s).2 u' ∧ (programRound inner s).1 = [] ∧
      ∀ steps, ParseM.blockStatements inner 1 (steps + 1) s' = .ok [] u') ∨
    (∃ us t', c.Mirrors us (programRound inner s).2 t' ∧ us.length ≤ ts.length ∧
      (programRound inner s).2.Starts 0 ∧ Unstrayed 0 us ∧
      ∀ steps, ParseM.blockStatements inner 1 (steps + 1) s'
        = (((programRound inner s).1.map (·.relocate c.place) ++ ·) <$>
            ParseM.blockStatements inner 1 steps) t') := by
  have heof' : s'.current.kind ≠ .eof := by
    rw [h.current_kind_eq]
    exact h.current_ne_eof
  have hbrace' : s'.current.kind ≠ .rightBrace := by
    rw [h.current_kind_eq, h.current_eq]
    exact fun hkind => Nat.lt_irrefl 0 (hunstrayed.1 hkind)
  have hlevel := leveled_statement hinner.leveled hstarts
  have hleads := Passage.leads.statement hinner.leads
  have hpairs := pairs_statement hinner h
  generalize hrun : statement inner s = r at hpairs
  generalize hrun' : statement inner s' = r' at hpairs
  cases hpairs with
  | @ok found t t' hends =>
      have hstands := hlevel.of_ok hrun
      rw [programRound_of_ok hrun]
      rcases hends with ⟨y, us, ht⟩ | hspent
      · have hlength := h.length_le ht (hleads.of_ok hrun)
        refine .inr ⟨us, t'.advance, ht.advance, Nat.le_of_succ_le_succ hlength, hstands.advance,
          ht.unstrayed_next hbraces hstands, fun steps => ?_⟩
        rw [blockStatements_of_ok hbrace' heof' hrun']
        cases found <;> rfl
      · exact absurd hspent.stop_kind (by simp [hstop])
  | @error fault us t t' ht =>
      rw [programRound_of_error hrun]
      rcases (ht.record fault).resync_rightBrace hstop hbraces with
        ⟨hclosed, hsync⟩ | ⟨hopen, y, vs, hsync⟩
      · -- The statement ran into the closing brace. The program has nothing left either.
        exact .inl ⟨_, hsync.advance_left, rfl, fun steps =>
          blockStatements_of_error_of_closed hbrace' heof' hrun' hclosed⟩
      · have hlength := h.length_le hsync ((hleads.of_error hrun).skip fault 0)
        have hinside := (hlevel.of_error hrun).record fault
        have hstands := hinside.stands_resync_zero hsync.current_ne_eof
        refine .inr ⟨vs, _, hsync.advance, Nat.le_of_succ_le_succ hlength, hstands.advance,
          hsync.unstrayed_next hbraces hstands, fun steps => ?_⟩
        rw [blockStatements_of_error_of_open hbrace' heof' hrun' hopen]
        exact congrFun (id_map _).symm _

/-- The statements of a program, and then the closing brace, are read as the statements of a
block. -/
theorem Mirrors.blockStatements (hinner : inner.Mirrored c) (hstop : c.stop.kind = .rightBrace)
    (hbraces : c.braces = 1) {steps steps' : Nat} (h : c.Mirrors ts s s') (hstarts : s.Starts 0)
    (hunstrayed : Unstrayed 0 ts) (hsteps : ts.length ≤ steps) (hsteps' : ts.length < steps') :
    ∃ u', ParseM.blockStatements inner 1 steps' s'
        = .ok ((s.programStatements inner steps).1.map (·.relocate c.place)) u' ∧
      c.Mirrors [] (s.programStatements inner steps).2 u' := by
  induction steps generalizing s s' ts steps' with
  | zero =>
      obtain rfl : ts = [] := List.eq_nil_of_length_eq_zero (Nat.le_zero.mp hsteps)
      exact h.blockStatements_nil hstop hsteps'
  | succ steps ih =>
      cases ts with
      | nil => exact h.blockStatements_nil hstop hsteps'
      | cons x ts =>
          simp only [List.length_cons] at hsteps hsteps'
          obtain ⟨steps', rfl⟩ := Nat.exists_eq_succ_of_ne_zero (by omega : steps' ≠ 0)
          rw [programStatements_succ h.current_ne_eof]
          rcases h.round_block hinner hstop hbraces hstarts hunstrayed with
            ⟨u', hend, hnone, hrun⟩ | ⟨us, t', ht, hlength, hstarts', hunstrayed', hrun⟩
          · rw [programStatements_of_eof hend.current_kind_eof, hnone]
            exact ⟨u', hrun steps', hend⟩
          · obtain ⟨u', hrest, hend⟩ := ih ht hstarts' hunstrayed' (by omega)
              (by omega : us.length < steps')
            refine ⟨u', ?_, hend⟩
            rw [hrun, map_of_ok hrest, List.map_append]

end Copy

/-! ### A function without parameters -/

section Function

variable {inner : Inner} {s u : ParseState} {statements : List Statement} {n : Nat}

theorem functionRest_of_empty (hopening : s.peek.kind = .leftParen)
    (hclosing : s.advance.peek.kind = .rightParen)
    (hbrace : s.advance.advance.peek.kind = .leftBrace) {body : Block}
    (hbody : inner.block s.advance.advance.advance = .ok body u) :
    functionRest inner s = .ok (.function s.current [] body) u := by
  have hbraced : braced inner s.advance.advance = .ok body u := by
    rw [braced, bind_of_ok (expectPeek_of_kind hbrace)]
    exact hbody
  rw [functionRest, bind_of_ok (current_apply s), bind_of_ok (expectPeek_of_kind hopening),
    bind_of_ok (enumeration_parameters.items_of_paren hclosing), bind_of_ok hbraced]
  rfl

theorem nested_of_ok {α : Type} {m : ParseM α} {value : α} (hroom : s.depth < s.maxDepth)
    (hm : m s.enter = .ok value u) : nested m s = .ok value u.leave := by
  rw [nested, if_neg (Nat.not_le.mpr hroom), hm]

theorem blockBody_of_ok
    (h : blockStatements inner s.braces s.advance.remaining s.advance = .ok statements u) :
    blockBody inner s = .ok (.mk s.current statements) u := by
  rw [blockBody, bind_of_ok (get_apply s), bind_of_ok (advance_apply s),
    bind_of_ok (get_apply s.advance), bind_of_ok h]
  rfl

/-- A function without parameters, at the end of a source, is read as its body is. -/
theorem statement_of_function (hkind : s.current.kind = .kwFn)
    (hopening : s.peek.kind = .leftParen) (hclosing : s.advance.peek.kind = .rightParen)
    (hbrace : s.advance.advance.peek.kind = .leftBrace) (hroom : s.depth + 2 ≤ s.maxDepth)
    (hrun : blockStatements (.level n) s.advance.advance.advance.braces
        s.enter.advance.advance.advance.enter.advance.remaining
        s.enter.advance.advance.advance.enter.advance = .ok statements u)
    (hpeek : u.peek.kind = .eof) :
    statement (.level (n + 2)) s = .ok (some (.expression s.current
      (.function s.current [] (.mk s.advance.advance.peek statements)))) u.leave.leave := by
  have hblock : (Inner.level (n + 1)).block s.enter.advance.advance.advance
      = .ok (.mk s.advance.advance.peek statements) u.leave :=
    nested_of_ok (Nat.lt_of_succ_le hroom) (blockBody_of_ok hrun)
  have hfunction := functionRest_of_empty (s := s.enter) hopening hclosing hbrace hblock
  have hcontinues : u.leave.peek.kind.continues .lowest = false := by
    change u.peek.kind.continues .lowest = false
    rw [hpeek]
    rfl
  have hbody : expressionBody (.level (n + 1)) .lowest s.enter
      = .ok (.function s.current [] (.mk s.advance.advance.peek statements)) u.leave := by
    have hrule : StartRule.ofKind? s.enter.current.kind = some .function := by
      change StartRule.ofKind? s.current.kind = _
      rw [hkind]
      rfl
    have hstart : ParseM.start (.level (n + 1)) s.enter
        = .ok (.function s.current [] (.mk s.advance.advance.peek statements)) u.leave := by
      rw [start_of_rule hrule]
      exact hfunction
    rw [expressionBody, bind_of_ok hstart, bind_of_ok (get_apply u.leave)]
    exact continued_of_continues_eq_false hcontinues
  have hexpression : (Inner.level (n + 2)).expression .lowest s
      = .ok (.function s.current [] (.mk s.advance.advance.peek statements)) u.leave.leave :=
    nested_of_ok (by omega) hbody
  have hskip : skipSemicolon u.leave.leave = .ok () u.leave.leave := by
    refine skipSemicolon_of_kind_ne ?_
    change u.peek.kind ≠ _
    simp [hpeek]
  rw [statement_of_other (by simp [hkind]) (by simp [hkind]) (by simp [hkind])]
  refine map_of_ok ?_
  rw [expressionStatement, bind_of_ok (current_apply s), bind_of_ok hexpression,
    bind_of_ok hskip]
  rfl

end Function

/-! ### Sources -/

/-- The source of a function without parameters, with a text between the braces of its body. -/
def enclosed (a : String) : String := "fn() \x7b" ++ a ++ "\x7d"

def functionToken : Token := ⟨.kwFn, "fn", .between .first (endOf "fn")⟩

def bodyToken : Token := .symbolAt .leftBrace '\x7b' (endOf "fn() ")

/-- The spans of a text where it stands in the body. -/
def bodyPlace (a : String) : Span → Span := Span.moved (endOf "fn() \x7b") (firstLine a.toList)

def closingToken (a : String) : Token :=
  .symbolAt .rightBrace '\x7d' (endOf ("fn() \x7b" ++ a))

section Sources

variable {maxDepth : Nat} {a : String} {ts : List Token}

theorem stream_enclosed (a : String) :
    (Lexer.ofSource (enclosed a)).stream
      = Stream'.cons functionToken
          (Stream'.cons (.symbolAt .leftParen '(' (endOf "fn"))
            (Stream'.cons (.symbolAt .rightParen ')' (endOf "fn("))
              (Stream'.cons bodyToken
                (Lexer.stream ⟨enclosed a, a.toList ++ ['\x7d'], endOf "fn() \x7b"⟩)))) := by
  have hchars : (enclosed a).toList
      = 'f' :: 'n' :: '(' :: ')' :: ' ' :: '\x7b' :: (a.toList ++ ['\x7d']) := by
    simp [enclosed]
  have hsource : Lexer.ofSource (enclosed a) = ⟨enclosed a,
      'f' :: 'n' :: '(' :: ')' :: ' ' :: '\x7b' :: (a.toList ++ ['\x7d']), .first⟩ := by
    rw [Lexer.ofSource, hchars]
  rw [hsource]
  iterate 4 rw [Lexer.stream_eq_cons]
  rfl

/-- What the parser of a function does with the text in its body. -/
def bodyCopy (a : String) : Copy :=
  .upTo (bodyPlace a) (.markerAt (endOf a)) (closingToken a)
    (Stream'.const (.markerAt (endOf (enclosed a)))) 2 1
    (Token.kind_markerAt_endOf a) (.inr rfl)

theorem stop_kind_bodyCopy (a : String) : (bodyCopy a).stop.kind = .rightBrace := rfl

theorem stream_body (htokens : tokenize a = ts ++ [.markerAt (endOf a)]) :
    Lexer.stream ⟨enclosed a, a.toList ++ ['\x7d'], endOf "fn() \x7b"⟩
      = ts.map (·.relocate (bodyCopy a).place) ++ₛ
          Stream'.cons (bodyCopy a).stop (bodyCopy a).beyond := by
  have hcopies : Lexer.Copies (endOf "fn() \x7b") a.toList ['\x7d'] (.ofSource a)
      ⟨enclosed a, a.toList ++ ['\x7d'], endOf "fn() \x7b"⟩ :=
    ⟨⟨[], rfl, rfl, rfl⟩, rfl⟩
  have hend : (endOf ("fn() \x7b" ++ a)).after '\x7d' = endOf (enclosed a) := by
    rw [enclosed, endOf_append _ "\x7d"]
    rfl
  rw [hcopies.stream (.brace []) htokens, Lexer.stream_rightBrace, Lexer.stream_nil,
    ← endOf_append, hend]
  rfl

structure AtFunction (a : String) (maxDepth : Nat) (s : ParseState) : Prop where
  stream_eq : s.stream = (Lexer.ofSource (enclosed a)).stream
  depth_eq : s.depth = 0
  maxDepth_eq : s.maxDepth = maxDepth
  faults_eq : s.faults = []
  braces_eq : s.braces = 0

theorem atFunction_start (a : String) (maxDepth : Nat) :
    AtFunction a maxDepth (.start maxDepth (enclosed a)) where
  stream_eq := ParseState.stream_start _ _
  depth_eq := rfl
  maxDepth_eq := rfl
  faults_eq := rfl
  braces_eq := by
    rw [ParseState.braces_start, ← ParseState.head_stream, ParseState.stream_start, stream_enclosed]
    rfl

namespace AtFunction

variable {s : ParseState}

theorem current_eq (h : AtFunction a maxDepth s) : s.current = functionToken := by
  rw [← s.head_stream, h.stream_eq, stream_enclosed]
  rfl

theorem peek_kind (h : AtFunction a maxDepth s) : s.peek.kind = .leftParen := by
  rw [← s.head_tail_stream, h.stream_eq, stream_enclosed]
  rfl

theorem advance_peek_kind (h : AtFunction a maxDepth s) : s.advance.peek.kind = .rightParen := by
  rw [← ParseState.head_tail_stream, ParseState.stream_advance, h.stream_eq, stream_enclosed]
  rfl

theorem advance_advance_peek (h : AtFunction a maxDepth s) :
    s.advance.advance.peek = bodyToken := by
  rw [← ParseState.head_tail_stream, ParseState.stream_advance, ParseState.stream_advance,
    h.stream_eq, stream_enclosed]
  rfl

theorem remaining_ne_zero (h : AtFunction a maxDepth s) : s.remaining ≠ 0 := by
  have hstream : s.stream = [functionToken] ++ₛ s.stream.tail := by
    rw [h.stream_eq, stream_enclosed]
    rfl
  have hlength := ParseState.length_le_remaining hstream (by simp [functionToken])
  exact Nat.ne_of_gt hlength

theorem braces_body (h : AtFunction a maxDepth s) : s.advance.advance.advance.braces = 1 := by
  rw [ParseState.braces_advance, h.advance_advance_peek, ParseState.braces_advance,
    h.advance_peek_kind, ParseState.braces_advance, h.peek_kind, h.braces_eq]
  rfl

/-- In the body, where the text starts, two levels of nesting and one brace are in use. -/
theorem mirrors (h : AtFunction a (maxDepth + 2) s)
    (htokens : tokenize a = ts ++ [.markerAt (endOf a)]) (hmatch : BracesMatch (tokenize a)) :
    (bodyCopy a).Mirrors ts (.start maxDepth a)
      s.enter.advance.advance.advance.enter.advance := by
  have hsees : (ParseState.start maxDepth a).Sees ts _ := ParseState.start_sees htokens
  obtain ⟨hunstrayed, hbraces⟩ := hmatch.unstrayed
  rw [htokens] at hunstrayed hbraces
  rw [bracesAfterAll_append] at hbraces
  refine .of_starts hsees ?_ ?_ ⟨?_, h.maxDepth_eq, h.faults_eq⟩ (ParseState.braces_start _ _) ?_
    (.inr hbraces) (.inr hunstrayed.of_append)
  · simp only [ParseState.stream_advance, ParseState.stream_enter, h.stream_eq, stream_enclosed]
    exact stream_body htokens
  · intro t ht
    exact .reblame_of_ne (hsees.real t ht) (moved_ne_marker htokens ht _ _)
  · change s.depth + 1 + 1 = _
    rw [h.depth_eq]
    rfl
  · rw [ParseState.braces_advance]
    change bracesAfter s.advance.advance.advance.braces _ = _
    rw [h.braces_body]
    rfl

theorem statement (h : AtFunction a (maxDepth + 2) s) (hmatch : BracesMatch (tokenize a)) :
    ∃ u, ParseM.statement (.level (maxDepth + 2)) s
        = .ok (some (.expression functionToken (.function functionToken []
            (.mk bodyToken ((parse maxDepth a).program.statements.map
              (·.relocate (bodyPlace a))))))) u ∧
      u.peek.kind = .eof ∧ u.faults = (parse maxDepth a).faults.map (bodyCopy a).reblame := by
  obtain ⟨ts, htokens⟩ := exists_tokenize_eq a
  have hmirrors := h.mirrors htokens hmatch
  have hunstrayed := hmatch.unstrayed.1
  rw [htokens] at hunstrayed
  obtain ⟨u, hrun, hend⟩ := hmirrors.blockStatements (Inner.mirrored_level _ maxDepth)
    (stop_kind_bodyCopy a) rfl ⟨⟨_, _, hmirrors.sees⟩, ParseState.braces_start _ _⟩
    hunstrayed.of_append hmirrors.sees.length_le_remaining
    (hmirrors.length_lt_remaining (by simp [stop_kind_bodyCopy]))
  have hpeek : u.peek.kind = .eof := by
    rw [← u.head_tail_stream, hend.stream_eq]
    rfl
  have hroom : s.depth + 2 ≤ s.maxDepth := by
    rw [h.depth_eq, h.maxDepth_eq]
    exact Nat.le_add_left _ _
  have hbrace : s.advance.advance.peek.kind = .leftBrace := by
    rw [h.advance_advance_peek]
    rfl
  have hkind : s.current.kind = .kwFn := by
    rw [h.current_eq]
    rfl
  rw [← h.braces_body] at hrun
  have hstatement := statement_of_function hkind h.peek_kind h.advance_peek_kind hbrace hroom hrun
    hpeek
  rw [h.current_eq, h.advance_advance_peek] at hstatement
  exact ⟨u.leave.leave, hstatement, hpeek, hend.agrees.faults_eq⟩

end AtFunction

theorem reblame_bodyCopy (a : String) :
    (bodyCopy a).reblame = fun fault => ((fault.relocate (bodyPlace a)).reblame
      (.markerAt (endOf ("fn() \x7b" ++ a))) (closingToken a)).deepen 2 := by
  rw [endOf_append, ← Token.relocate_markerAt]
  rfl

end Sources

/-- **A body is read like a program.** If the braces of `a` match, then, whatever else is wrong in
`a`, a function with `a` as its body is one statement, and its body has the statements of `a` where
they are now. The faults are those of `a` where they are now, with the closing brace to blame for
the end of `a`, and with two levels more as the limit. -/
theorem parse_enclosed (maxDepth : Nat) (a : String) (hmatch : BracesMatch (tokenize a)) :
    (parse (maxDepth + 2) (enclosed a)).program.statements
        = [.expression functionToken (.function functionToken [] (.mk bodyToken
            ((parse maxDepth a).program.statements.map (·.relocate (bodyPlace a)))))] ∧
      (parse (maxDepth + 2) (enclosed a)).faults
        = (parse maxDepth a).faults.map fun fault => ((fault.relocate (bodyPlace a)).reblame
            (.markerAt (endOf ("fn() \x7b" ++ a))) (closingToken a)).deepen 2 := by
  have hfunction := atFunction_start a (maxDepth + 2)
  obtain ⟨u, hstatement, hpeek, hfaults⟩ := hfunction.statement hmatch
  have hreal : (ParseState.start (maxDepth + 2) (enclosed a)).current.kind ≠ .eof := by
    rw [hfunction.current_eq]
    exact TokenKind.noConfusion
  obtain ⟨k, hsteps⟩ := Nat.exists_eq_succ_of_ne_zero hfunction.remaining_ne_zero
  -- After the function, the source is at its end.
  have hrun : (ParseState.start (maxDepth + 2) (enclosed a)).programStatements
      (.level (maxDepth + 2))
      (ParseState.start (maxDepth + 2) (enclosed a)).remaining = ([.expression functionToken
        (.function functionToken [] (.mk bodyToken ((parse maxDepth a).program.statements.map
          (·.relocate (bodyPlace a)))))], u.advance) := by
    have heof : u.advance.current.kind = .eof := by
      rw [u.current_advance]
      exact hpeek
    rw [hsteps, programStatements_of_ok hreal hstatement, programStatements_of_eof heof]
    rfl
  constructor
  · exact congrArg Prod.fst hrun
  · calc (parse (maxDepth + 2) (enclosed a)).faults = u.faults :=
          congrArg (fun run => run.2.faults) hrun
      _ = (parse maxDepth a).faults.map (bodyCopy a).reblame := hfaults
      _ = _ := by rw [reblame_bodyCopy]

/-- A block with a fault on its closing brace, and a fault at the end, on the second line. -/
theorem parse_enclosed_two_faults :
    BracesMatch (tokenize "if (x) \x7b let y = \x7d;\nz +") ∧
      (parse 11 (enclosed "if (x) \x7b let y = \x7d;\nz +")).program.statements
        = [.expression functionToken (.function functionToken [] (.mk bodyToken
            ((parse 9 "if (x) \x7b let y = \x7d;\nz +").program.statements.map
              (·.relocate (bodyPlace "if (x) \x7b let y = \x7d;\nz +")))))] ∧
      (parse 11 (enclosed "if (x) \x7b let y = \x7d;\nz +")).faults
        = (parse 9 "if (x) \x7b let y = \x7d;\nz +").faults.map fun fault =>
            ((fault.relocate (bodyPlace "if (x) \x7b let y = \x7d;\nz +")).reblame
              (.markerAt (endOf ("fn() \x7b" ++ "if (x) \x7b let y = \x7d;\nz +")))
              (closingToken "if (x) \x7b let y = \x7d;\nz +")).deepen 2 :=
  have hmatch : BracesMatch (tokenize "if (x) \x7b let y = \x7d;\nz +") := by decide +kernel
  ⟨hmatch, parse_enclosed 9 "if (x) \x7b let y = \x7d;\nz +" hmatch⟩

end MonkeySyntax
