import MonkeySyntax.Proofs.FaultOrder
import MonkeySyntax.Proofs.Firewall

/-!
# Going on at a keyword

`let` and `return` begin statements and nothing else, so a keyword outside of all braces is a place
at which the parser comes to itself again, whatever is broken before it: it reaches the keyword
between two statements and reads on from there as if nothing had been before.

There is one way to miss it. A statement that is given up is skipped from the current token on, and
only the token behind that one is looked at for a keyword. Where an expression has to start, the
keyword is the current token by the time the parser finds that it starts none, or that there is no
level of nesting left for one. Skipping then begins with the keyword itself and ends where it would
if nothing else were known of the source: on a semicolon, or before another keyword. Both faults are
blamed on the keyword and on record, so that they tell the two cases apart.
-/

namespace MonkeySyntax

open ParseM

/-- The fault comes of taking the token for the start of an expression. -/
def Fault.Misreads (limit : Nat) (token : Token) (fault : Fault) : Prop :=
  fault = token.startFault ∨ fault = .tooDeep limit token.span

instance (limit : Nat) (token : Token) (fault : Fault) : Decidable (fault.Misreads limit token) :=
  inferInstanceAs (Decidable (_ ∨ _))

theorem Fault.Misreads.span_eq {limit : Nat} {token : Token} {fault : Fault}
    (h : fault.Misreads limit token) : fault.span = token.span := by
  rcases h with rfl | rfl
  · exact token.span_startFault
  · rfl

theorem Token.not_misreads_followFault (limit : Nat) (token other : Token) (expected : TokenKind) :
    ¬ (other.followFault expected).Misreads limit token := by
  unfold Token.followFault Fault.Misreads Token.startFault
  split <;> split <;> simp

/-- A keyword that begins a statement outside of all braces. -/
structure Landmark where
  /-- The levels of nesting that the parser is allowed. -/
  limit : Nat
  /-- The tokens from the keyword on. -/
  stream : Stream' Token
  /-- Where the tokens before the keyword are at an end. -/
  origin : Nat
  kind_eq : stream.head.kind = .kwLet ∨ stream.head.kind = .kwReturn
  origin_le : origin ≤ stream.head.span.start

namespace Landmark

variable {m : Landmark} {s t : ParseState} {x : Token} {ts : List Token} {level : Nat}

def keyword (m : Landmark) : Token := m.stream.head

theorem kind_ne (m : Landmark) {kind : TokenKind} (hlet : kind ≠ .kwLet)
    (hreturn : kind ≠ .kwReturn) : kind ≠ m.keyword.kind := by
  rintro rfl
  exact m.kind_eq.elim hlet hreturn

theorem kind_ne_of_isPlain (m : Landmark) {kind : TokenKind} (h : kind.isPlain = true) :
    kind ≠ m.keyword.kind :=
  m.kind_ne (by rintro rfl; cases h) (by rintro rfl; cases h)

theorem endsBefore_keyword (m : Landmark) (level : Nat) :
    m.keyword.kind.endsBefore level = true := by
  unfold keyword
  rcases m.kind_eq with hkind | hkind <;> rw [hkind] <;> rfl

theorem bracesAfter_keyword (m : Landmark) (braces : Nat) :
    bracesAfter braces m.keyword.kind = braces := by
  unfold keyword
  rcases m.kind_eq with hkind | hkind <;> rw [hkind] <;> rfl

theorem not_misreads_of_lt {fault : Fault} (h : fault.span.start < m.origin) :
    ¬ fault.Misreads m.limit m.keyword := by
  intro hmisreads
  rw [hmisreads.span_eq] at h
  exact Nat.not_lt_of_le m.origin_le h

/-- The tokens `ts` are ahead of the keyword, which was not misread so far. -/
structure Ahead (m : Landmark) (ts : List Token) (s : ParseState) : Prop where
  stream_eq : s.stream = ts ++ₛ m.stream
  real : ∀ t ∈ ts, t.kind ≠ .eof
  before : ∀ t ∈ ts, t.span.start < m.origin
  braces_eq : bracesAfterAll s.braces ts.tail = 0
  maxDepth_eq : s.maxDepth = m.limit
  unread : ∀ fault ∈ s.faults, ¬ fault.Misreads m.limit m.keyword

/-- The parser is on a token before the keyword. -/
def Before (m : Landmark) (s : ParseState) : Prop := ∃ x ts, m.Ahead (x :: ts) s

/-- The parser is on the keyword. -/
def At (m : Landmark) (s : ParseState) : Prop := m.Ahead [] s

def UpTo (m : Landmark) (s : ParseState) : Prop := m.Before s ∨ m.At s

namespace Ahead

theorem upTo (h : m.Ahead ts s) : m.UpTo s := by
  cases ts with
  | nil => exact .inr h
  | cons x ts => exact .inl ⟨x, ts, h⟩

theorem current_eq (h : m.Ahead ts s) : s.current = ts.headD m.keyword := by
  rw [← s.head_stream, h.stream_eq]
  cases ts <;> rfl

theorem peek_eq (h : m.Ahead (x :: ts) s) : s.peek = ts.headD m.keyword := by
  rw [← s.head_tail_stream, h.stream_eq]
  cases ts <;> rfl

theorem advance (h : m.Ahead (x :: ts) s) : m.Ahead ts s.advance where
  stream_eq := by
    rw [s.stream_advance, h.stream_eq]
    rfl
  real t ht := h.real t (List.mem_cons_of_mem x ht)
  before t ht := h.before t (List.mem_cons_of_mem x ht)
  braces_eq := by
    have hbraces : bracesAfterAll s.braces ts = 0 := h.braces_eq
    rw [s.braces_advance, h.peek_eq]
    cases ts with
    | nil => exact (m.bracesAfter_keyword s.braces).trans hbraces
    | cons y ts => exact hbraces
  maxDepth_eq := h.maxDepth_eq
  unread := h.unread

theorem of_starts (hstream : s.stream = ts ++ₛ m.stream) (hreal : ∀ t ∈ ts, t.kind ≠ .eof)
    (hbefore : ∀ t ∈ ts, t.span.start < m.origin)
    (hstarts : s.braces = bracesAfter 0 s.current.kind) (hbraces : bracesAfterAll 0 ts = 0)
    (hmaxDepth : s.maxDepth = m.limit) (hfaults : s.faults = []) : m.Ahead ts s := by
  have hcurrent : s.current = ts.headD m.keyword := by
    rw [← s.head_stream, hstream]
    cases ts <;> rfl
  refine ⟨hstream, hreal, hbefore, ?_, hmaxDepth, by simp [hfaults]⟩
  rw [hstarts, hcurrent]
  cases ts with
  | nil => exact m.bracesAfter_keyword 0
  | cons t ts => exact hbraces

theorem enter (h : m.Ahead ts s) : m.Ahead ts s.enter :=
  ⟨h.stream_eq, h.real, h.before, h.braces_eq, h.maxDepth_eq, h.unread⟩

theorem leave (h : m.Ahead ts s) : m.Ahead ts s.leave :=
  ⟨h.stream_eq, h.real, h.before, h.braces_eq, h.maxDepth_eq, h.unread⟩

theorem record {fault : Fault} (h : m.Ahead ts s) (hfault : ¬ fault.Misreads m.limit m.keyword) :
    m.Ahead ts (s.record fault) := by
  refine ⟨h.stream_eq, h.real, h.before, h.braces_eq, h.maxDepth_eq, fun earlier hmem => ?_⟩
  rcases List.mem_append.mp hmem with hmem | hmem
  · exact h.unread earlier hmem
  · rwa [List.mem_singleton.mp hmem]

end Ahead

namespace Before

theorem enter (h : m.Before s) : m.Before s.enter := by
  obtain ⟨x, ts, h⟩ := h
  exact ⟨x, ts, h.enter⟩

theorem leave (h : m.Before s) : m.Before s.leave := by
  obtain ⟨x, ts, h⟩ := h
  exact ⟨x, ts, h.leave⟩

theorem record {fault : Fault} (h : m.Before s) (hfault : ¬ fault.Misreads m.limit m.keyword) :
    m.Before (s.record fault) := by
  obtain ⟨x, ts, h⟩ := h
  exact ⟨x, ts, h.record hfault⟩

theorem current_ne_eof (h : m.Before s) : s.current.kind ≠ .eof := by
  obtain ⟨x, ts, h⟩ := h
  rw [h.current_eq]
  exact h.real x List.mem_cons_self

theorem current_lt (h : m.Before s) : s.current.span.start < m.origin := by
  obtain ⟨x, ts, h⟩ := h
  rw [h.current_eq]
  exact h.before x List.mem_cons_self

theorem next (h : m.Before s) : m.UpTo s.advance := by
  obtain ⟨x, ts, h⟩ := h
  exact h.advance.upTo

theorem advance (h : m.Before s) (hpeek : s.peek.kind ≠ m.keyword.kind) : m.Before s.advance := by
  refine h.next.resolve_right fun hat => hpeek ?_
  rw [← s.current_advance, hat.current_eq]
  rfl

/-- The keyword is not next where braces are open. -/
theorem advance_of_braces (h : m.Before s) (hbraces : 0 < s.braces) : m.Before s.advance := by
  obtain ⟨x, ts, h⟩ := h
  cases ts with
  | nil => exact absurd h.braces_eq (Nat.ne_of_gt hbraces)
  | cons y ts => exact ⟨y, ts, h.advance⟩

/-- Skipping a statement does not lead past the last token before the keyword. -/
theorem resync (h : m.Before s) (hinside : s.Inside level) : m.Before (s.resync level).2 := by
  fun_induction ParseState.resync level s with
  | case1 s | case2 s | case3 s => exact h
  | case4 s heof hclosing hend ih =>
      refine ih ?_ (hinside.advance hclosing)
      -- The keyword can be next only where no brace is open, and there it ends the skipping.
      by_cases hbraces : s.braces = 0
      · have hlevel : level = 0 := by
          rcases hinside.braces_le with hle | ⟨hkind, hsucc⟩
          · omega
          · exact absurd ⟨hkind, by omega⟩ hclosing
        refine h.advance fun hkind => hend ⟨hbraces.trans hlevel.symm, .inr ?_⟩
        rw [hkind]
        exact m.endsBefore_keyword level
      · exact h.advance_of_braces (Nat.pos_of_ne_zero hbraces)

end Before

theorem UpTo.before (h : m.UpTo s) (hkind : s.current.kind ≠ m.keyword.kind) : m.Before s := by
  refine h.resolve_right fun hat => hkind ?_
  rw [hat.current_eq]
  rfl

theorem At.braces_eq_zero (h : m.At s) : s.braces = 0 := h.braces_eq

theorem At.not_inside (h : m.At s) : ¬ s.Inside (level + 1) := by
  intro hinside
  have hbraces := h.braces_eq_zero
  rcases hinside.braces_le with hle | ⟨hkind, -⟩
  · omega
  · rw [h.current_eq] at hkind
    exact m.kind_ne (by simp) (by simp) hkind.symm

/-- How a statement before the keyword may be given up: before the keyword, or on it and because it
was misread. -/
def Fails (m : Landmark) (fault : Fault) (t : ParseState) : Prop :=
  m.Before t ∧ ¬ fault.Misreads m.limit m.keyword ∨ m.At t ∧ fault.Misreads m.limit m.keyword

theorem Fails.leave {fault : Fault} (h : m.Fails fault t) : m.Fails fault t.leave :=
  h.imp (fun ⟨hbefore, hfault⟩ => ⟨hbefore.leave, hfault⟩) fun ⟨hat, hfault⟩ => ⟨hat.leave, hfault⟩

theorem Fails.enter {fault : Fault} (h : m.Fails fault t) : m.Fails fault t.enter :=
  h.imp (fun ⟨hbefore, hfault⟩ => ⟨hbefore.enter, hfault⟩) fun ⟨hat, hfault⟩ => ⟨hat.enter, hfault⟩

theorem Fails.before_resync {fault : Fault} (h : m.Fails fault t) (hinside : t.Inside (level + 1)) :
    m.Before ((t.record fault).resync (level + 1)).2 := by
  rcases h with ⟨hbefore, hfault⟩ | ⟨hat, -⟩
  · exact (hbefore.record hfault).resync (hinside.record fault)
  · exact absurd hinside hat.not_inside

/-- A fault on the current token misreads the keyword or has nothing to do with it. -/
theorem UpTo.fails {fault : Fault} (h : m.UpTo s) (hspan : fault.span = s.current.span)
    (hfault : m.At s → fault.Misreads m.limit m.keyword) : m.Fails fault s := by
  refine h.imp (fun hbefore => ⟨hbefore, not_misreads_of_lt ?_⟩) fun hat => ⟨hat, hfault hat⟩
  rw [hspan]
  exact hbefore.current_lt

/-- A statement that begins before the keyword ends before it, and it is given up before it or on
it. -/
def conduct (m : Landmark) : Conduct where
  begins _ _ s := m.Before s
  starts _ _ s := m.UpTo s
  stands _ _ s := m.Before s
  ends _ _ s := m.Before s
  fails _ _ fault t := m.Fails fault t
  keyword h _ := h
  semicolon h _ := h
  other h _ _ := .inl h
  finish h := h
  skip h hkind := h.advance (hkind ▸ m.kind_ne (by simp) (by simp))
  advance h _ := h.next
  pass h _ hplain := h.advance (m.kind_ne_of_isPlain hplain)
  mismatch h _ _ := .inl ⟨h, Token.not_misreads_followFault _ _ _ _⟩
  tooDeep {n level s} h _ _ := by
    refine h.fails rfl fun hat => .inr ?_
    rw [hat.maxDepth_eq, hat.current_eq]
    rfl
  enter h hplain := (h.before (m.kind_ne_of_isPlain hplain)).enter
  noStart {n level s} h _ _ := by
    refine (h.fails s.current.span_startFault fun hat => .inl ?_).enter
    rw [hat.current_eq]
    rfl
  tooLarge {n level s} h hkind _ := by
    have hbefore : m.Before s := h.before (m.kind_ne_of_isPlain (by rw [hkind]; rfl))
    exact .inl ⟨hbefore.enter, not_misreads_of_lt hbefore.current_lt⟩
  leave h _ := h.leave
  leaveFails h _ := h.leave
  opening {n level s} h hs hkind := by
    have hbefore : m.Before s := h.before (hkind ▸ m.kind_ne (by simp) (by simp))
    refine hbefore.enter.advance_of_braces ?_
    change 0 < s.braces
    rw [hs.braces_eq, hkind]
    exact Nat.succ_pos level
  closing h _ := h
  unclosed h _ heof := absurd heof h.current_ne_eof
  next h hs := h.advance_of_braces (hs.braces_eq ▸ Nat.succ_pos _)
  recoverClosed h hinside _ := h.before_resync hinside
  recoverOpen {n level fault s t} _ h hinside hopen := by
    have hbefore := h.before_resync hinside
    rcases (hinside.record fault).resync.2 hopen with hstands | ⟨-, heof, -⟩
    · have hpos := Nat.lt_of_lt_of_eq (Nat.succ_pos level) hstands.braces_eq.symm
      exact hbefore.advance_of_braces hpos
    · exact absurd heof hbefore.current_ne_eof

/-! ### The program up to the keyword -/

/-- Where the loop over statements goes on when it has come to the keyword: on the keyword, or, if
the keyword was misread, behind what is skipped from the keyword on. -/
inductive Reached (m : Landmark) : ParseState → Prop
  | keyword {t : ParseState} : m.At t → t.depth = 0 → m.Reached t
  | behind {t : ParseState} {fault : Fault} : m.At t → t.depth = 0 →
      fault.Misreads m.limit m.keyword → m.Reached ((t.record fault).resync 0).2.advance

/-- The parser comes to the keyword, and all statements that it has found by then are before it. -/
theorem UpTo.program {n steps : Nat} (h : m.UpTo s) (hresumes : s.Resumes 0) (hdepth : s.depth = 0)
    (hfuel : Fueled steps s) :
    ∃ (k : Nat) (t : ParseState) (earlier : List Statement), m.Reached t ∧ Fueled k t ∧
      (∀ found ∈ earlier, found.span.start < m.origin) ∧
      s.programStatements (.level n) steps
        = (earlier ++ (t.programStatements (.level n) k).1,
            (t.programStatements (.level n) k).2) := by
  induction steps generalizing s with
  | zero =>
      rcases h with hbefore | hat
      · exact absurd hfuel.eof_of_zero hbefore.current_ne_eof
      · exact ⟨0, s, [], .keyword hat hdepth, hfuel, by simp, rfl⟩
  | succ steps ih =>
      rcases h with hbefore | hat
      swap
      · exact ⟨steps + 1, s, [], .keyword hat hdepth, hfuel, by simp, rfl⟩
      have heof := hbefore.current_ne_eof
      have hstatement :=
        conducted_statement (m.conduct.level n) ⟨hresumes, hbefore⟩ heof fun _ => rfl
      have hkeeps := Passage.depth.statement (Passage.depth.level n)
      cases hrun : statement (.level n) s with
      | ok found t =>
          obtain ⟨hstands, hends⟩ := hstatement.of_ok hrun
          have hle := (Passage.remaining.statement (Passage.remaining.level n)).of_ok hrun
          obtain ⟨k, u, earlier, hreached, hfuel', hearlier, heq⟩ :=
            ih hends.next (.inl hstands.advance) ((hkeeps.of_ok hrun).trans hdepth)
              (hfuel.next heof hle hstands.ends)
          refine ⟨k, u, found.toList ++ earlier, hreached, hfuel', ?_, ?_⟩
          · intro other hmem
            rcases List.mem_append.mp hmem with hmem | hmem
            · rw [Option.mem_toList] at hmem
              subst hmem
              rw [Statement.span, token_of_statement hrun]
              exact hbefore.current_lt
            · exact hearlier other hmem
          · rw [programStatements_of_ok heof hrun, heq, List.append_assoc]
      | error fault t =>
          obtain ⟨hinside, hfails⟩ := hstatement.of_error hrun
          have hrecord := hinside.record fault
          have hdepth' : t.depth = 0 := (hkeeps.of_error hrun).trans hdepth
          have hfuel' := hfuel.next heof (remaining_of_error hrun 0) (hrecord.ends.resync 0)
          rw [programStatements_of_error heof hrun]
          rcases hfails with ⟨hbefore', hfault⟩ | ⟨hat, hfault⟩
          · exact ih ((hbefore'.record hfault).resync hrecord).next
              (hrecord.resumes hrecord.resync_zero_open)
              ((Passage.depth.resync 0 (t.record fault)).trans hdepth') hfuel'
          · exact ⟨steps, _, [], .behind hat hdepth' hfault, hfuel', by simp, rfl⟩

end Landmark

/-! ### A keyword on the next line -/

section Sources

variable {maxDepth : Nat} {a b : String} {keyword : Token} {us : List Token}

/-- Where a place in `b` is if `b` stands on the line behind `a`. -/
def onNextLine (a b : String) : Span → Span :=
  Span.moved (endOf (a ++ "\n")) (firstLine b.toList)

/-- What is read of a source behind the place where skipping ends that begins on its first token.
That is not always the end of the first statement. -/
def skipFirst (maxDepth : Nat) (source : String) : Program :=
  ((ParseState.start maxDepth source).resync 0).2.advance.program.1

example : (skipFirst 9 "let y = 5 z; w").text = "w" := by decide +kernel

theorem exists_tokenize_eq_cons (hfirst : (tokenize b).head? = some keyword)
    (hkeyword : keyword.kind = .kwLet ∨ keyword.kind = .kwReturn) :
    ∃ us, tokenize b = keyword :: us ++ [.markerAt (endOf b)] := by
  obtain ⟨us, htokens⟩ := exists_tokenize_eq b
  rw [htokens] at hfirst
  cases us with
  | nil =>
      cases hfirst
      simp [Token.kind_markerAt_endOf] at hkeyword
  | cons t us =>
      cases hfirst
      exact ⟨us, htokens⟩

theorem head_tokens_behind (hfirst : (tokenize b).head? = some keyword)
    (hkeyword : keyword.kind = .kwLet ∨ keyword.kind = .kwReturn) (source : String)
    (origin : Position) :
    (Lexer.stream ⟨source, b.toList, origin⟩).head
      = keyword.relocate (Span.moved origin (firstLine b.toList)) := by
  obtain ⟨us, htokens⟩ := exists_tokenize_eq_cons hfirst hkeyword
  rw [Copy.stream_behind htokens source origin []]
  rfl

/-- The first token of `b`, on the line behind `a`. -/
def nextLine (maxDepth : Nat) (a b : String) (hfirst : (tokenize b).head? = some keyword)
    (hkeyword : keyword.kind = .kwLet ∨ keyword.kind = .kwReturn) : Landmark where
  limit := maxDepth
  stream := Lexer.stream ⟨a ++ "\n" ++ b, b.toList, endOf (a ++ "\n")⟩
  origin := (endOf (a ++ "\n")).offset
  kind_eq := by
    rw [head_tokens_behind hfirst hkeyword]
    exact hkeyword
  origin_le := by
    rw [head_tokens_behind hfirst hkeyword]
    exact Nat.le_add_right _ _

theorem keyword_nextLine (hfirst : (tokenize b).head? = some keyword)
    (hkeyword : keyword.kind = .kwLet ∨ keyword.kind = .kwReturn) :
    (nextLine maxDepth a b hfirst hkeyword).keyword = keyword.relocate (onNextLine a b) :=
  head_tokens_behind hfirst hkeyword _ _

variable {hfirst : (tokenize b).head? = some keyword}
  {hkeyword : keyword.kind = .kwLet ∨ keyword.kind = .kwReturn}

theorem start_lt_of_mem_tokenize (htokens : tokenize a = us ++ [.markerAt (endOf a)]) {t : Token}
    (ht : t ∈ us) : t.span.start < (endOf a).offset := by
  have hpairwise := pairwise_start_tokenize a
  rw [htokens] at hpairwise
  exact (List.pairwise_append.mp hpairwise).2.2 t ht _ (List.mem_singleton_self _)

theorem nextLine_upTo_start (hbraces : bracesAfterAll 0 (tokenize a) = 0) :
    (nextLine maxDepth a b hfirst hkeyword).UpTo (.start maxDepth (a ++ "\n" ++ b)) := by
  obtain ⟨ts, htokens⟩ := exists_tokenize_eq a
  have hcopies : Lexer.Copies .first a.toList ('\n' :: b.toList) (.ofSource a)
      (.ofSource (a ++ "\n" ++ b)) := by
    refine ⟨⟨[], rfl, rfl, rfl⟩, ?_⟩
    change (a ++ "\n" ++ b).toList = a.toList ++ '\n' :: b.toList
    simp
  have hstream : (ParseState.start maxDepth (a ++ "\n" ++ b)).stream
      = ts ++ₛ (nextLine maxDepth a b hfirst hkeyword).stream := by
    have horigin : Position.after (endOf a) '\n' = endOf (a ++ "\n") := by simp [endOf]
    have hid : ts.map (·.relocate id) = ts := List.map_id ts
    calc (ParseState.start maxDepth (a ++ "\n" ++ b)).stream
        = (Lexer.ofSource (a ++ "\n" ++ b)).stream := ParseState.stream_start _ _
      _ = ts.map (·.relocate (Span.moved .first (firstLine a.toList))) ++ₛ
            Lexer.stream ⟨a ++ "\n" ++ b, '\n' :: b.toList, endOf a⟩ :=
          hcopies.stream (.newline _) htokens
      _ = ts ++ₛ Lexer.stream ⟨a ++ "\n" ++ b, b.toList, endOf (a ++ "\n")⟩ := by
          rw [Span.moved_first, hid, Lexer.stream_newline, horigin]
  have hlt : (endOf a).offset < (endOf (a ++ "\n")).offset := by
    rw [endOf_append, Position.offset_afterAll]
    exact Nat.lt_add_of_pos_right (byteLength_pos (by simp))
  rw [htokens, bracesAfterAll_append] at hbraces
  have hahead : (nextLine maxDepth a b hfirst hkeyword).Ahead ts
      (.start maxDepth (a ++ "\n" ++ b)) := by
    apply Landmark.Ahead.of_starts hstream
    · exact (Lexer.stream_of_tokens htokens).2.1
    · intro t ht
      exact Nat.lt_trans (start_lt_of_mem_tokenize htokens ht) hlt
    · exact ParseState.braces_start _ _
    · exact hbraces
    · rfl
    · rfl
  exact hahead.upTo

/-- A statement may begin with a keyword even if that has been blamed. -/
theorem clear_record_of_keyword (hfirst : (tokenize b).head? = some keyword)
    (hkeyword : keyword.kind = .kwLet ∨ keyword.kind = .kwReturn) {fault : Fault}
    (hfault : fault.span = keyword.span) :
    ((ParseState.start maxDepth b).record fault).Clear (.markerAt (endOf b)) 0 := by
  obtain ⟨us, htokens⟩ := exists_tokenize_eq_cons hfirst hkeyword
  have hcurrent : (ParseState.start maxDepth b).current = keyword :=
    (ParseState.start_sees htokens).current_eq
  have hordered := ParseState.ordered_start maxDepth b
  refine ⟨⟨⟨hordered.before, hordered.eq_marker⟩, List.pairwise_singleton _ _⟩, ?_, .inr ?_⟩
  · intro earlier hmem
    rw [List.mem_singleton.mp hmem, hfault, ← hcurrent]
    exact hordered.current_before
  · change (ParseState.start maxDepth b).current.kind.endsBefore 0 = true
    rw [hcurrent]
    rcases hkeyword with hkind | hkind <;> rw [hkind] <;> rfl

/-- A source that begins with a keyword has all its faults behind it. -/
theorem keyword_lt_of_mem_faults (hfirst : (tokenize b).head? = some keyword)
    (hkeyword : keyword.kind = .kwLet ∨ keyword.kind = .kwReturn) {fault : Fault}
    (hfault : fault ∈ (parse maxDepth b).faults) : keyword.span.start < fault.span.start := by
  obtain ⟨us, htokens⟩ := exists_tokenize_eq_cons hfirst hkeyword
  -- With a fault on record that is blamed on the keyword, the parser does the same, and what it
  -- finds comes behind that fault.
  let blamed : Fault := .tooDeep maxDepth keyword.span
  let s : ParseState := (ParseState.start maxDepth b).record blamed
  have hstream : s.stream = Lexer.stream ⟨b, b.toList, .first⟩ := ParseState.stream_start maxDepth b
  have hbraces : s.braces = bracesAfter 0 s.current.kind := ParseState.braces_start maxDepth b
  have hmirrors : (Copy.behind .first b [blamed]).Mirrors (keyword :: us) (.start maxDepth b) s :=
    .behind htokens hstream hbraces rfl rfl
  have hfaults : (s.programStatements (.level maxDepth) s.remaining).2.faults
      = [blamed] ++ (parse maxDepth b).faults.map (Fault.relocate (Span.moved .first _)) :=
    (hmirrors.program_of_eof (Inner.mirrored_level _ maxDepth) rfl rfl
      hmirrors.sees.length_le_remaining hmirrors.length_le_remaining).2.faults_eq
  have hid : (parse maxDepth b).faults.map (Fault.relocate id) = (parse maxDepth b).faults :=
    List.map_id'' Fault.relocate_id _
  rw [Span.moved_first, hid] at hfaults
  have hstarts : s.Starts 0 := ⟨(ParseState.starts_start maxDepth b).ends.congr rfl, hbraces⟩
  have horder :=
    ((clear_record_of_keyword hfirst hkeyword rfl).program (.inl hstarts) maxDepth
      s.remaining).tidy.inOrder
  rw [hfaults] at horder
  rcases (List.pairwise_cons.mp horder).1 fault hfault with hlt | ⟨hspan, -⟩
  · exact hlt
  · have hlt := start_lt_of_mem_tokenize htokens List.mem_cons_self
    have heq : keyword.span.start = (endOf b).offset := congrArg Span.start hspan
    omega

/-! ### The program behind the keyword -/

theorem Fueled.length_le {c : Copy} {s t : ParseState} {k : Nat} (h : Fueled k t)
    (hmirrors : c.Mirrors us s t) : us.length ≤ k := by
  rcases h with hle | heof
  · exact Nat.le_trans hmirrors.length_le_remaining hle
  · cases us with
    | nil => exact Nat.zero_le k
    | cons x us =>
        rw [hmirrors.current_kind_eq] at heof
        exact absurd heof hmirrors.current_ne_eof

/-- On the keyword, the parser is in the state in which it starts on `b`. -/
theorem mirrors_nextLine {t : ParseState} (htokens : tokenize b = us ++ [.markerAt (endOf b)])
    (hstream : t.stream = (nextLine maxDepth a b hfirst hkeyword).stream) (hbraces : t.braces = 0)
    (hdepth : t.depth = 0) (hmaxDepth : t.maxDepth = maxDepth) :
    (Copy.behind (endOf (a ++ "\n")) b t.faults).Mirrors us (.start maxDepth b) t := by
  refine .behind htokens hstream ?_ hdepth hmaxDepth
  have hcurrent : t.current = (nextLine maxDepth a b hfirst hkeyword).keyword := by
    rw [← t.head_stream, hstream]
    rfl
  rw [hcurrent, Landmark.bracesAfter_keyword, hbraces]

/-- From the keyword on, the parser reads what it reads of `b` alone, and does not misread the
keyword. -/
theorem program_of_at {t : ParseState} {k : Nat}
    (h : (nextLine maxDepth a b hfirst hkeyword).At t) (hdepth : t.depth = 0) (hfuel : Fueled k t) :
    (t.programStatements (.level maxDepth) k).1
        = (parse maxDepth b).program.statements.map (·.relocate (onNextLine a b)) ∧
      ∀ fault ∈ (t.programStatements (.level maxDepth) k).2.faults,
        ¬ fault.Misreads maxDepth (keyword.relocate (onNextLine a b)) := by
  obtain ⟨us, htokens⟩ := exists_tokenize_eq b
  have hmirrors := mirrors_nextLine htokens h.stream_eq h.braces_eq_zero hdepth h.maxDepth_eq
  obtain ⟨hread, hagrees⟩ := hmirrors.program_of_eof (Inner.mirrored_level _ maxDepth) rfl rfl
    hmirrors.sees.length_le_remaining (hfuel.length_le hmirrors)
  refine ⟨hread, ?_⟩
  intro fault hmem hmisreads
  rw [hagrees.faults_eq] at hmem
  rcases List.mem_append.mp hmem with hmem | hmem
  · rw [← keyword_nextLine hfirst hkeyword] at hmisreads
    exact h.unread fault hmem hmisreads
  · obtain ⟨other, hother, rfl⟩ := List.mem_map.mp hmem
    have hlt : keyword.span.start < other.span.start :=
      keyword_lt_of_mem_faults hfirst hkeyword hother
    have hspan : onNextLine a b other.span = onNextLine a b keyword.span :=
      (other.span_relocate (onNextLine a b)).symm.trans hmisreads.span_eq
    have hstart : (endOf (a ++ "\n")).offset + other.span.start
        = (endOf (a ++ "\n")).offset + keyword.span.start := congrArg Span.start hspan
    omega

theorem Copy.Mirrors.skip {c : Copy} {s s' : ParseState} (h : c.Mirrors us s s')
    (hstop : c.stop.kind = .eof) (hbraces : c.braces = 0) :
    ∃ vs, c.Mirrors vs (s.resync 0).2.advance (s'.resync 0).2.advance := by
  obtain ⟨vs, hsync⟩ := h.resync_eof hstop hbraces
  cases vs with
  | nil => exact ⟨[], hsync.advance_nil hstop⟩
  | cons x vs => exact ⟨vs, hsync.advance⟩

theorem statements_skipFirst (maxDepth : Nat) (source : String) :
    (skipFirst maxDepth source).statements
      = (((ParseState.start maxDepth source).resync 0).2.advance.programStatements (.level maxDepth)
          ((ParseState.start maxDepth source).resync 0).2.advance.remaining).1 := by
  have hinner :
      ((ParseState.start maxDepth source).resync 0).2.advance.inner = .level maxDepth := by
    have hdepth := Passage.depth.resync 0 (ParseState.start maxDepth source)
    have hmaxDepth := Passage.maxDepth.resync 0 (ParseState.start maxDepth source)
    rw [ParseState.inner, ParseState.headroom, ParseState.depth_advance,
      ParseState.maxDepth_advance, hdepth, hmaxDepth]
    rfl
  rw [← hinner]
  rfl

/-- Behind what was skipped from the keyword on, the parser reads what it reads of `b` alone if it
skips from the first token on. -/
theorem program_of_misreads {t : ParseState} {fault : Fault} {k : Nat}
    (h : (nextLine maxDepth a b hfirst hkeyword).At t) (hdepth : t.depth = 0)
    (hfuel : Fueled k ((t.record fault).resync 0).2.advance) :
    (((t.record fault).resync 0).2.advance.programStatements (.level maxDepth) k).1
        = (skipFirst maxDepth b).statements.map (·.relocate (onNextLine a b)) ∧
      fault ∈ (((t.record fault).resync 0).2.advance.programStatements
        (.level maxDepth) k).2.faults := by
  obtain ⟨us, htokens⟩ := exists_tokenize_eq b
  have hstream : (t.record fault).stream = (nextLine maxDepth a b hfirst hkeyword).stream :=
    h.stream_eq
  have hbraces : (t.record fault).braces = 0 := h.braces_eq_zero
  have hmirrors := mirrors_nextLine htokens hstream hbraces hdepth h.maxDepth_eq
  obtain ⟨vs, hskip⟩ := hmirrors.skip rfl rfl
  obtain ⟨hread, hagrees⟩ := hskip.program_of_eof (Inner.mirrored_level _ maxDepth) rfl rfl
    hskip.sees.length_le_remaining (hfuel.length_le hskip)
  constructor
  · rw [statements_skipFirst]
    exact hread
  · rw [hagrees.faults_eq]
    exact List.mem_append_left _ (List.mem_append_right _ (List.mem_singleton_self fault))

theorem offset_le_of_mem_map {statements : List Statement} {found : Statement}
    (h : found ∈ statements.map (·.relocate (onNextLine a b))) :
    (endOf (a ++ "\n")).offset ≤ found.span.start := by
  obtain ⟨other, -, rfl⟩ := List.mem_map.mp h
  rw [Statement.span_relocate]
  exact Nat.le_add_right _ _

end Sources

/-- **Recovery goes on at a following keyword unless that was misread.** If the braces of `a` are
closed at its end and `b` begins with `let` or `return`, then the statements that begin in `b`, on
the line behind `a`, are those of `b` alone where they are now. If a fault on record misreads the
keyword, `b` is skipped from its first token on, as a broken statement would be, and they are those
of what is left of it. -/
theorem parse_append_newline (maxDepth : Nat) (a b : String) (keyword : Token)
    (hbraces : bracesAfterAll 0 (tokenize a) = 0) (hfirst : (tokenize b).head? = some keyword)
    (hkeyword : keyword.kind = .kwLet ∨ keyword.kind = .kwReturn) :
    (parse maxDepth (a ++ "\n" ++ b)).program.statements.filter
        (fun found => (endOf (a ++ "\n")).offset ≤ found.span.start)
      = (if ∃ fault ∈ (parse maxDepth (a ++ "\n" ++ b)).faults,
            fault.Misreads maxDepth (keyword.relocate (onNextLine a b))
          then skipFirst maxDepth b
          else (parse maxDepth b).program).statements.map (·.relocate (onNextLine a b)) := by
  have hupTo : (nextLine maxDepth a b hfirst hkeyword).UpTo (.start maxDepth (a ++ "\n" ++ b)) :=
    nextLine_upTo_start hbraces
  obtain ⟨k, t, earlier, hreached, hfuel, hearlier, hrun⟩ :=
    hupTo.program (.inl (ParseState.starts_start _ _)) rfl (.inl (Nat.le_refl _))
  have hstatements : (parse maxDepth (a ++ "\n" ++ b)).program.statements
      = earlier ++ (t.programStatements (.level maxDepth) k).1 := congrArg Prod.fst hrun
  have hfaults : (parse maxDepth (a ++ "\n" ++ b)).faults
      = (t.programStatements (.level maxDepth) k).2.faults :=
    congrArg (fun run => run.2.faults) hrun
  have hnone :
      earlier.filter (fun found => (endOf (a ++ "\n")).offset ≤ found.span.start) = [] := by
    rw [List.filter_eq_nil_iff]
    intro found hfound
    have hlt : found.span.start < (endOf (a ++ "\n")).offset := hearlier found hfound
    simpa using hlt
  have hall : ∀ statements : List Statement,
      (statements.map (·.relocate (onNextLine a b))).filter
          (fun found => (endOf (a ++ "\n")).offset ≤ found.span.start)
        = statements.map (·.relocate (onNextLine a b)) := by
    intro statements
    rw [List.filter_eq_self]
    intro found hfound
    simpa using offset_le_of_mem_map hfound
  rw [hstatements, hfaults, List.filter_append, hnone, List.nil_append]
  cases hreached with
  | keyword hat hdepth =>
      obtain ⟨hread, hclean⟩ := program_of_at hat hdepth hfuel
      rw [hread, hall, if_neg]
      rintro ⟨fault, hmem, hmisreads⟩
      exact hclean fault hmem hmisreads
  | @behind t fault hat hdepth hmisreads =>
      obtain ⟨hread, hmem⟩ := program_of_misreads hat hdepth hfuel
      rw [keyword_nextLine] at hmisreads
      rw [hread, hall, if_pos ⟨fault, hmem, hmisreads⟩]

/-- Behind a name the keyword is still ahead when the fault is found; behind an equals sign it is
not, and the statement that it begins is lost. -/
theorem parse_append_newline_let :
    (bracesAfterAll 0 (tokenize "let x") = 0 ∧ bracesAfterAll 0 (tokenize "let x =") = 0 ∧
        (tokenize "let y = 5; y").head? = some ⟨.kwLet, "let", ⟨0, 3, 1, 1⟩⟩) ∧
      (parse 9 ("let x" ++ "\n" ++ "let y = 5; y")).program.statements.filter
          (fun found => (endOf ("let x" ++ "\n")).offset ≤ found.span.start)
        = (parse 9 "let y = 5; y").program.statements.map
            (·.relocate (onNextLine "let x" "let y = 5; y")) ∧
      (parse 9 ("let x =" ++ "\n" ++ "let y = 5; y")).program.statements.filter
          (fun found => (endOf ("let x =" ++ "\n")).offset ≤ found.span.start)
        = (skipFirst 9 "let y = 5; y").statements.map
            (·.relocate (onNextLine "let x =" "let y = 5; y")) := by
  have hname : bracesAfterAll 0 (tokenize "let x") = 0 := by decide +kernel
  have hequals : bracesAfterAll 0 (tokenize "let x =") = 0 := by decide +kernel
  have hfirst : (tokenize "let y = 5; y").head? = some ⟨.kwLet, "let", ⟨0, 3, 1, 1⟩⟩ := by
    decide +kernel
  refine ⟨⟨hname, hequals, hfirst⟩, ?_, ?_⟩
  · rw [parse_append_newline 9 "let x" "let y = 5; y" _ hname hfirst (.inl rfl),
      if_neg (by decide +kernel)]
  · rw [parse_append_newline 9 "let x =" "let y = 5; y" _ hequals hfirst (.inl rfl),
      if_pos (by decide +kernel)]

/-- Not every keyword is a place where the parser goes on: the statement in the second line of
`let x =` and `let y = 5;` is lost. -/
theorem keyword_lost :
    ¬ ∀ (maxDepth : Nat) (a b : String) (keyword : Token),
      bracesAfterAll 0 (tokenize a) = 0 → (tokenize b).head? = some keyword →
      keyword.kind = .kwLet ∨ keyword.kind = .kwReturn →
      (parse maxDepth (a ++ "\n" ++ b)).program.statements.filter
          (fun found => (endOf (a ++ "\n")).offset ≤ found.span.start)
        = (parse maxDepth b).program.statements.map (·.relocate (onNextLine a b)) := by
  intro hall
  have hlost := hall 9 "let x =" "let y = 5;" ⟨.kwLet, "let", ⟨0, 3, 1, 1⟩⟩ (by decide +kernel)
    (by decide +kernel) (.inl rfl)
  have hlength := congrArg List.length hlost
  revert hlength
  decide +kernel

end MonkeySyntax
