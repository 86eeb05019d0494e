import MonkeySyntax.Proofs.Conduct
import MonkeySyntax.Proofs.Tiling

/-!
# Faults come in the order of the source

Faults are found at different depths, some on the current token and some on the next one, and the
parser may go on at the very token that it has just blamed. Still the faults on record are in the
order of the source, and no token is blamed twice; only the end of the source may be.

Where an expression starts, everything on record is blamed on earlier tokens. On the last token of a
phrase it is blamed on that token at the latest, so that both the next token and what comes after it
may still be blamed. The one token at which a statement may begin although it has been blamed is one
that ends the statement before it, and such a token is no place for a fault.
-/

namespace MonkeySyntax

open ParseM

/-- What is at `span` comes before the token, or both are the end of the source. -/
def Span.Before (span : Span) (token : Token) : Prop :=
  span.start < token.span.start ∨ span = token.span ∧ token.kind = .eof

theorem Span.Before.trans {span : Span} {t u : Token} (h : span.Before t)
    (htu : t.span.Before u) : span.Before u := by
  rcases h with hlt | ⟨rfl, -⟩
  · rcases htu with hlt' | ⟨heq, -⟩
    · exact .inl (Nat.lt_trans hlt hlt')
    · exact .inl (heq ▸ hlt)
  · exact htu

theorem Token.span_startFault (token : Token) : token.startFault.span = token.span := by
  unfold startFault
  split <;> rfl

/-- Tokens start one behind the other. -/
theorem pairwise_start_tokenize (source : String) :
    (tokenize source).Pairwise fun a b => a.span.start < b.span.start := by
  obtain ⟨ts, htokens⟩ := exists_tokenize_eq source
  have htiles : Tiles .first source.toList (tokenize source) := (Lexer.ofSource source).tiles_tokens
  have hpairwise := htiles.pairwise
  rw [htokens] at hpairwise ⊢
  obtain ⟨hts, -, hbefore⟩ := List.pairwise_append.mp hpairwise
  have hlt := Lexer.span_lt_of_tokens htokens
  refine List.pairwise_append.mpr ⟨?_, List.pairwise_singleton _ _, fun a ha b hb => ?_⟩
  · exact hts.imp_of_mem fun ha _ hle => Nat.lt_of_lt_of_le (hlt _ ha) hle
  · exact Nat.lt_of_lt_of_le (hlt a ha) (hbefore a ha b hb)

/-- The first fault is before the second one, or both are at the end marker. -/
def Fault.InOrder (marker : Token) (first second : Fault) : Prop :=
  first.span.start < second.span.start ∨ first.span = marker.span ∧ second.span = marker.span

namespace ParseState

/-- The tokens ahead are in the order of the source, with one end marker. -/
structure Ordered (marker : Token) (s : ParseState) : Prop where
  before : ∀ k, (s.stream.get k).span.Before (s.stream.get (k + 1))
  eq_marker : ∀ k, (s.stream.get k).kind = .eof → s.stream.get k = marker

/-- All faults on record are blamed on something before the token. -/
def Past (token : Token) (s : ParseState) : Prop := ∀ fault ∈ s.faults, fault.span.Before token

/-- The faults on record are in order, and so are the tokens ahead. -/
structure Tidy (marker : Token) (s : ParseState) : Prop where
  ordered : s.Ordered marker
  inOrder : s.faults.Pairwise (Fault.InOrder marker)

variable {marker : Token} {s t : ParseState} {level : Nat}

theorem before_of_pairwise {ts : List Token} (hlast : marker.kind = .eof)
    (h : (ts ++ [marker]).Pairwise fun a b => a.span.start < b.span.start) (k : Nat) :
    ((ts ++ₛ Stream'.const marker).get k).span.Before
      ((ts ++ₛ Stream'.const marker).get (k + 1)) := by
  induction ts generalizing k with
  | nil => exact .inr ⟨rfl, hlast⟩
  | cons t ts ih =>
      rw [List.cons_append, List.pairwise_cons] at h
      obtain ⟨hfirst, hrest⟩ := h
      cases k with
      | zero =>
          refine .inl ?_
          cases ts with
          | nil => exact hfirst marker (by simp)
          | cons u ts => exact hfirst u (by simp)
      | succ k => exact ih hrest k

theorem eq_marker_of_forall {ts : List Token} (h : ∀ t ∈ ts, t.kind ≠ .eof) (k : Nat)
    (heof : ((ts ++ₛ Stream'.const marker).get k).kind = .eof) :
    (ts ++ₛ Stream'.const marker).get k = marker := by
  induction ts generalizing k with
  | nil => rfl
  | cons t ts ih =>
      rw [List.forall_mem_cons] at h
      cases k with
      | zero => exact absurd heof h.1
      | succ k => exact ih h.2 k heof

theorem ordered_start (maxDepth : Nat) (source : String) :
    (start maxDepth source).Ordered (.markerAt (endOf source)) := by
  obtain ⟨ts, htokens⟩ := exists_tokenize_eq source
  obtain ⟨hstream, hreal, hlast⟩ := Lexer.stream_of_tokens htokens
  have hstarts := pairwise_start_tokenize source
  rw [htokens] at hstarts
  constructor <;> rw [stream_start, hstream]
  · exact before_of_pairwise hlast hstarts
  · exact eq_marker_of_forall hreal

theorem Ordered.advance (h : s.Ordered marker) : s.advance.Ordered marker := by
  constructor <;> intro k <;> rw [s.stream_advance]
  · exact h.before (k + 1)
  · exact h.eq_marker (k + 1)

theorem Ordered.current_before (h : s.Ordered marker) : s.current.span.Before s.peek :=
  h.before 0

theorem Ordered.peek_eq (h : s.Ordered marker) (hends : s.Ends) (heof : s.current.kind = .eof) :
    s.peek = s.current := by
  have hcurrent : s.current = marker := h.eq_marker 0 heof
  have hpeek : s.peek = marker := h.eq_marker 1 (hends.peek_eof heof)
  rw [hcurrent, hpeek]

theorem Past.peek (h : s.Past s.current) (hs : s.Tidy marker) : s.Past s.peek :=
  fun fault hfault => (h fault hfault).trans hs.ordered.current_before

theorem Tidy.advance (h : s.Tidy marker) : s.advance.Tidy marker :=
  ⟨h.ordered.advance, h.inOrder⟩

theorem Tidy.enter (h : s.Tidy marker) : s.enter.Tidy marker :=
  ⟨⟨h.ordered.before, h.ordered.eq_marker⟩, h.inOrder⟩

theorem Tidy.leave (h : s.Tidy marker) : s.leave.Tidy marker :=
  ⟨⟨h.ordered.before, h.ordered.eq_marker⟩, h.inOrder⟩

theorem Past.advance (h : s.Past s.peek) (hs : s.Tidy marker) : s.advance.Past s.advance.peek :=
  Past.peek h hs.advance

theorem Past.record {token : Token} {fault : Fault} (h : s.Past token)
    (hfault : fault.span.Before token) : (s.record fault).Past token := by
  intro earlier hmem
  rcases List.mem_append.mp hmem with hmem | hmem
  · exact h earlier hmem
  · rwa [List.mem_singleton.mp hmem]

/-- A fault that is blamed on a token behind everything on record goes on record in order. -/
theorem Tidy.record (h : s.Tidy marker) {k : Nat} {fault : Fault} (hpast : s.Past (s.stream.get k))
    (hfault : fault.span = (s.stream.get k).span) : (s.record fault).Tidy marker := by
  refine ⟨⟨h.ordered.before, h.ordered.eq_marker⟩, ?_⟩
  refine List.pairwise_append.mpr ⟨h.inOrder, List.pairwise_singleton _ _, ?_⟩
  intro earlier hmem later hlater
  rw [List.mem_singleton.mp hlater]
  rcases hpast earlier hmem with hlt | ⟨heq, heof⟩
  · exact .inl (hfault ▸ hlt)
  · rw [h.ordered.eq_marker k heof] at heq hfault
    exact .inr ⟨heq, hfault⟩

theorem Tidy.resync (h : s.Tidy marker) (level : Nat) : (s.resync level).2.Tidy marker := by
  fun_induction ParseState.resync level s with
  | case1 s | case2 s | case3 s => exact h
  | case4 s _ _ _ ih => exact ih h.advance

theorem Past.resync (h : s.Past s.peek) (hs : s.Tidy marker) (level : Nat) :
    (s.resync level).2.Past (s.resync level).2.peek := by
  fun_induction ParseState.resync level s with
  | case1 s | case2 s | case3 s => exact h
  | case4 s _ _ _ ih => exact ih (h.advance hs) hs.advance

/-- The fault is blamed on the current token or on the next one, and nothing on record is. -/
def Blames (level : Nat) (fault : Fault) (t : ParseState) : Prop :=
  fault.span = t.current.span ∧ t.Past t.current ∨
    fault.span = t.peek.span ∧ t.Past t.peek ∧ t.Stands level ∧ t.current.kind ≠ .semicolon

theorem Blames.tidy_record {fault : Fault} (h : t.Blames level fault) (ht : t.Tidy marker) :
    (t.record fault).Tidy marker := by
  rcases h with ⟨hspan, hpast⟩ | ⟨hspan, hpast, -⟩
  · exact ht.record (k := 0) hpast hspan
  · exact ht.record (k := 1) hpast hspan

/-- Skipping the statement leads behind everything that was blamed, or right before a blamed token
that ends the statement. -/
theorem Blames.resync {fault : Fault} (h : t.Blames level fault) (ht : t.Tidy marker) :
    ((t.record fault).resync level).2.Past ((t.record fault).resync level).2.peek ∨
      ((t.record fault).resync level).1 = false ∧
        ((t.record fault).resync level).2.peek.kind.endsBefore level = true ∧
        ((t.record fault).resync level).2.advance.Past
          ((t.record fault).resync level).2.advance.peek := by
  have hrecord := h.tidy_record ht
  have hsettled : fault.span.Before t.peek → t.Past t.peek →
      ((t.record fault).resync level).2.Past ((t.record fault).resync level).2.peek := by
    intro hbefore hpast
    exact Past.resync (s := t.record fault) (hpast.record hbefore) hrecord level
  rcases h with ⟨hspan, hpast⟩ | ⟨hspan, hpast, hstands, hkind⟩
  · exact .inl (hsettled (hspan ▸ ht.ordered.current_before) (hpast.peek ht))
  by_cases heof : t.peek.kind = .eof
  · exact .inl (hsettled (.inr ⟨hspan, heof⟩) hpast)
  -- The next token was blamed, so the one after it is the first that may be blamed again.
  have hlate : (t.record fault).advance.Past (t.record fault).advance.peek := by
    refine Past.record (s := t.advance) (hpast.advance ht) ?_
    rw [hspan]
    exact ht.advance.ordered.current_before
  have hreal : (t.record fault).current.kind ≠ .eof :=
    fun hend => heof (hstands.ends.peek_eof hend)
  have hopen : ¬ ((t.record fault).current.kind = .rightBrace ∧ (t.record fault).braces < level) :=
    fun hclosing => Nat.ne_of_lt hclosing.2 hstands.braces_eq
  rw [ParseState.resync, if_neg hreal, if_neg hopen]
  split
  · rename_i hstop
    exact .inr ⟨rfl, hstop.2.resolve_left hkind, hlate⟩
  · exact .inl (hlate.resync hrecord.advance level)

/-- Where a statement of a list at `level` may begin: everything on record is blamed on an earlier
token, or on this one if it ends the statement before. -/
structure Clear (marker : Token) (level : Nat) (s : ParseState) : Prop where
  tidy : s.Tidy marker
  past_peek : s.Past s.peek
  past_current : s.Past s.current ∨ s.current.kind.endsBefore level = true

theorem clear_start (maxDepth : Nat) (source : String) :
    (start maxDepth source).Clear (.markerAt (endOf source)) 0 := by
  have hfaults : (start maxDepth source).faults = [] := rfl
  refine ⟨⟨ordered_start maxDepth source, ?_⟩, ?_, .inl ?_⟩
  · rw [hfaults]
    exact .nil
  · simp [Past, hfaults]
  · simp [Past, hfaults]

theorem Tidy.clear (h : s.Tidy marker) (hpast : s.Past s.peek) : s.advance.Clear marker level :=
  ⟨h.advance, hpast.advance h, .inl hpast⟩

theorem Blames.clear {fault : Fault} (h : t.Blames level fault) (ht : t.Tidy marker) :
    ((t.record fault).resync level).2.advance.Clear marker level := by
  have htidy := (h.tidy_record ht).resync level
  rcases h.resync ht with hpast | ⟨-, hends, hlate⟩
  · exact htidy.clear hpast
  · exact ⟨htidy.advance, hlate, .inr hends⟩

end ParseState

/-- The faults on record are in order, and what may be blamed next is behind them. -/
def inSourceOrder (marker : Token) : Conduct where
  begins _ level s := s.Clear marker level
  starts _ _ s := s.Tidy marker ∧ s.Past s.current
  stands _ _ s := s.Tidy marker ∧ s.Past s.peek ∧ s.current.kind ≠ .semicolon
  ends _ _ s := s.Tidy marker ∧ s.Past s.peek
  fails _ level fault t := t.Tidy marker ∧ t.Blames level fault
  keyword h hkind := ⟨h.tidy, h.past_peek, by rcases hkind with hkind | hkind <;> simp [hkind]⟩
  semicolon h _ := ⟨h.tidy, h.past_peek⟩
  other h hother _ := ⟨h.tidy, h.past_current.resolve_right (by simp [hother])⟩
  finish h := ⟨h.1, h.2.1⟩
  skip h _ := ⟨h.1.advance, h.2.1.advance h.1⟩
  advance h _ := ⟨h.1.advance, h.2.1⟩
  pass {n level s} h _ hplain := by
    refine ⟨h.1.advance, h.2.1.advance h.1, fun hkind => ?_⟩
    rw [s.current_advance] at hkind
    simp [hkind, TokenKind.isPlain] at hplain
  mismatch {n level s kind} h hs _ := by
    refine ⟨h.1, .inr ⟨?_, h.2.1, hs, h.2.2⟩⟩
    unfold ParseState.peekFault
    split <;> rfl
  tooDeep h _ _ := ⟨h.1, .inl ⟨rfl, h.2⟩⟩
  enter {n level s} h hplain := by
    refine ⟨h.1.enter, h.2.peek h.1, fun hkind => ?_⟩
    change s.current.kind = .semicolon at hkind
    simp [hkind, TokenKind.isPlain] at hplain
  noStart {n level s} h _ _ := ⟨h.1.enter, .inl ⟨s.current.span_startFault, h.2⟩⟩
  tooLarge h _ _ := ⟨h.1.enter, .inl ⟨rfl, h.2⟩⟩
  leave h _ := ⟨h.1.leave, h.2⟩
  leaveFails {n level fault t} h _ := by
    refine ⟨h.1.leave, h.2.imp_right fun ⟨hspan, hpast, hstands, hkind⟩ => ?_⟩
    exact ⟨hspan, hpast, ⟨hstands.ends.congr t.stream_leave, hstands.braces_eq⟩, hkind⟩
  opening h _ _ := h.1.enter.clear (h.2.peek h.1)
  closing h hkind := ⟨h.tidy, h.past_peek, by simp [hkind]⟩
  unclosed h hresumes heof := by
    refine ⟨h.tidy, .inl ⟨rfl, ?_⟩⟩
    rw [← h.tidy.ordered.peek_eq hresumes.inside.ends heof]
    exact h.past_peek
  next h _ := h.1.clear h.2
  recoverClosed {n level fault t} h hinside hclosed := by
    obtain ⟨-, hkind, -⟩ := (hinside.record fault).resync.1 hclosed
    refine ⟨(h.2.tidy_record h.1).resync _, ?_, by simp [hkind]⟩
    refine (h.2.resync h.1).resolve_right fun hlate => ?_
    simp [hclosed] at hlate
  recoverOpen _ h _ _ := h.2.clear h.1

theorem ParseState.Clear.program {marker : Token} {s : ParseState} (h : s.Clear marker 0)
    (hresumes : s.Resumes 0) (n steps : Nat) :
    (s.programStatements (.level n) steps).2.Clear marker 0 := by
  have hend := (inSourceOrder marker).program (n := n) (fun ht => ht.here.1.clear ht.here.2)
    (fun _ ht => ht.here.2.clear ht.here.1) steps ⟨hresumes, h⟩
  exact hend.here

/-- **Faults are reported in the order of the source.** Whatever a source holds, its faults start
one behind the other, and two of them are at the same place only if that is the end of the
source. -/
theorem faults_in_source_order (maxDepth : Nat) (source : String) :
    (parse maxDepth source).faults.Pairwise (fun f g => f.span.start ≤ g.span.start) ∧
      (parse maxDepth source).faults.Pairwise
        (fun f g => f.span = g.span → f.span = (Token.markerAt (endOf source)).span) := by
  have hend := (ParseState.clear_start maxDepth source).program
    (.inl (ParseState.starts_start maxDepth source)) maxDepth
    (ParseState.start maxDepth source).remaining
  have horder : (parse maxDepth source).faults.Pairwise
      (Fault.InOrder (.markerAt (endOf source))) := hend.tidy.inOrder
  refine ⟨horder.imp fun h => ?_, horder.imp fun h heq => ?_⟩
  · rcases h with hlt | ⟨hf, hg⟩
    · exact Nat.le_of_lt hlt
    · rw [hf, hg]
  · rcases h with hlt | ⟨hf, -⟩
    · rw [heq] at hlt
      exact absurd hlt (Nat.lt_irrefl _)
    · exact hf

end MonkeySyntax
