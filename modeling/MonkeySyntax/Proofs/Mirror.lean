import MonkeySyntax.Proofs.Braces
import MonkeySyntax.Proofs.Relocation

/-!
# Two parsers on the same tokens

Two parsers run side by side. For the first, the source ends after certain tokens; for the second,
the same tokens, at other places, are followed by a token that ends statements just as well, the
*stop*: a semicolon, a closing brace or again the end of the source. As long as they are on these
tokens, the two do the same, whether the tokens are well formed or not: whatever one reads or gives
up, the other reads or gives up, and where the first blames the end of its source, the second blames
the stop.

What has to be excluded is that the second parser meets its stop inside of braces, where the first
one would go on looking for the closing brace. So the braces are required to be closed at the end,
except when the stop is itself the end of the source.
-/

namespace MonkeySyntax

open ParseM

/-! ### Braces of a list of tokens -/

/-- The number of open braces after the tokens. -/
def bracesAfterAll (braces : Nat) (ts : List Token) : Nat :=
  ts.foldl (fun braces t => bracesAfter braces t.kind) braces

theorem bracesAfterAll_append (braces : Nat) (ts us : List Token) :
    bracesAfterAll braces (ts ++ us) = bracesAfterAll (bracesAfterAll braces ts) us :=
  List.foldl_append

/-- Every closing brace among the tokens closes an open one. -/
def Unstrayed (braces : Nat) : List Token → Prop
  | [] => True
  | t :: ts => (t.kind = .rightBrace → 0 < braces) ∧ Unstrayed (bracesAfter braces t.kind) ts

theorem bracesAfter_add {braces more : Nat} {kind : TokenKind}
    (h : more = 0 ∨ (kind = .rightBrace → 0 < braces)) :
    bracesAfter (braces + more) kind = bracesAfter braces kind + more := by
  rcases h with rfl | h
  · rfl
  · cases kind <;> simp_all [bracesAfter] <;> omega

/-! ### Copies -/

def Token.followFault (token : Token) (expected : TokenKind) : Fault :=
  if token.kind = .eof then .unexpectedEnd expected token.span
  else .unexpectedToken expected token.kind token.literal token.span

theorem ParseState.peekFault_eq (s : ParseState) (expected : TokenKind) :
    s.peekFault expected = s.peek.followFault expected := rfl

/-- Faults that blame `t` become the same faults with the blame on `u`, where `depth` more levels
of nesting are in use. -/
structure Blames (reblame : Fault → Fault) (depth : Nat) (t u : Token) : Prop where
  follow : ∀ expected, reblame (t.followFault expected) = u.followFault expected
  start : reblame t.startFault = u.startFault
  deep : ∀ limit, reblame (.tooDeep limit t.span) = .tooDeep (limit + depth) u.span
  large : t.kind = .integer →
    reblame (.integerTooLarge t.literal t.span) = .integerTooLarge u.literal u.span

namespace Blames

theorem relocate (place : Span → Span) (t : Token) :
    Blames (Fault.relocate place) 0 t (t.relocate place) where
  follow expected := by
    unfold Token.followFault
    split <;> simp_all [Fault.relocate, Token.relocate]
  start := by
    unfold Token.startFault
    split <;> simp_all [Fault.relocate, Token.relocate]
  deep _ := rfl
  large _ := rfl

variable {place : Span → Span} {t marker stop : Token} {depth : Nat}

theorem reblame_of_ne (hreal : t.kind ≠ .eof) (hspan : place t.span ≠ place marker.span) :
    Blames (fun fault => ((fault.relocate place).reblame (marker.relocate place) stop).deepen depth)
      depth t (t.relocate place) where
  follow expected := by
    simp [Token.followFault, Token.relocate, hreal, Fault.relocate, Fault.reblame, Fault.span,
      hspan, Fault.deepen]
  start := by
    unfold Token.startFault
    split <;> simp_all [Token.relocate, Fault.relocate, Fault.reblame, Fault.span, Fault.deepen]
  deep limit := by
    simp [Token.relocate, Fault.relocate, Fault.reblame, Fault.span, hspan, Fault.deepen]
  large _ := by
    simp [Token.relocate, Fault.relocate, Fault.reblame, Fault.span, hspan, Fault.deepen]

theorem reblame_marker (hmarker : marker.kind = .eof) (heof : stop.kind ≠ .eof)
    (hillegal : stop.kind ≠ .illegal) :
    Blames (fun fault => ((fault.relocate place).reblame (marker.relocate place) stop).deepen depth)
      depth marker stop where
  follow expected := by
    simp [Token.followFault, hmarker, heof, Token.relocate, Fault.relocate, Fault.reblame,
      Fault.span, Fault.blameOn, Fault.deepen]
  start := by
    simp [Token.startFault, hmarker, hillegal, Token.relocate, Fault.relocate, Fault.reblame,
      Fault.span, Fault.blameOn, Fault.deepen]
  deep limit := by
    simp [Token.relocate, Fault.relocate, Fault.reblame, Fault.span, Fault.blameOn, Fault.deepen]
  large hkind := by simp [hmarker] at hkind

end Blames

/-- How the second parser differs from the first. -/
structure Copy where
  /-- Where the second parser has what the first has at a place. -/
  place : Span → Span
  reblame : Fault → Fault
  /-- The end marker of the first parser. -/
  marker : Token
  /-- The token that the second parser has instead of it. -/
  stop : Token
  /-- The tokens that the second parser has after the stop. -/
  beyond : Stream' Token
  /-- The levels of nesting that the second parser has entered before. -/
  depth : Nat
  /-- The braces that the second parser has passed before. -/
  braces : Nat
  /-- The faults that the second parser has recorded before. -/
  earlier : List Fault
  marker_eof : marker.kind = .eof
  stop_stops : stop.kind.Stops
  stop_blames : Blames reblame depth marker stop
  beyond_eq : stop.kind = .eof → beyond = Stream'.const stop

namespace Copy

/-- A copy that is followed by a semicolon or a closing brace. -/
def upTo (place : Span → Span) (marker stop : Token) (beyond : Stream' Token) (depth braces : Nat)
    (hmarker : marker.kind = .eof) (hstop : stop.kind = .semicolon ∨ stop.kind = .rightBrace) :
    Copy where
  place := place
  reblame fault := ((fault.relocate place).reblame (marker.relocate place) stop).deepen depth
  marker := marker
  stop := stop
  beyond := beyond
  depth := depth
  braces := braces
  earlier := []
  marker_eof := hmarker
  stop_stops := hstop.imp_right .inl
  stop_blames := by
    refine .reblame_marker hmarker ?_ ?_ <;> rcases hstop with h | h <;> simp [h]
  beyond_eq h := by
    rcases hstop with hstop | hstop <;> simp [hstop] at h

/-- A copy at the end of the source, behind what gave the faults `earlier`. -/
def toEnd (place : Span → Span) (marker : Token) (earlier : List Fault)
    (hmarker : marker.kind = .eof) : Copy where
  place := place
  reblame := Fault.relocate place
  marker := marker
  stop := marker.relocate place
  beyond := Stream'.const (marker.relocate place)
  depth := 0
  braces := 0
  earlier := earlier
  marker_eof := hmarker
  stop_stops := .inr (.inr hmarker)
  stop_blames := .relocate place marker
  beyond_eq _ := rfl

variable {c : Copy} {s s' t t' : ParseState} {x : Token} {ts us : List Token}

/-- The second parser has the same depth and faults as the first, and what it had before. -/
structure Agrees (c : Copy) (s s' : ParseState) : Prop where
  depth_eq : s'.depth = s.depth + c.depth
  maxDepth_eq : s'.maxDepth = s.maxDepth + c.depth
  faults_eq : s'.faults = c.earlier ++ s.faults.map c.reblame

/-- The open braces of the second parser, on the first of `ts` or on the stop. -/
def bracesAt (c : Copy) (braces : Nat) : List Token → Nat
  | [] => bracesAfter (braces + c.braces) c.stop.kind
  | _ :: _ => braces + c.braces

/-- Both parsers have `ts` ahead of them, the first of these being the current token. -/
structure Mirrors (c : Copy) (ts : List Token) (s s' : ParseState) : Prop where
  sees : s.Sees ts c.marker
  stream_eq : s'.stream = ts.map (·.relocate c.place) ++ₛ Stream'.cons c.stop c.beyond
  blames : ∀ t ∈ ts, Blames c.reblame c.depth t (t.relocate c.place)
  agrees : c.Agrees s s'
  braces_eq : s'.braces = c.bracesAt s.braces ts
  sheltered : c.stop.kind = .eof ∨ bracesAfterAll s.braces ts.tail = 0
  unstrayed : c.braces = 0 ∨ Unstrayed s.braces ts.tail

def image (c : Copy) (ts : List Token) : Token := (ts.map (·.relocate c.place)).headD c.stop

theorem Agrees.advance (h : c.Agrees s s') : c.Agrees s.advance s'.advance :=
  ⟨h.depth_eq, h.maxDepth_eq, h.faults_eq⟩

theorem Agrees.record (h : c.Agrees s s') (fault : Fault) :
    c.Agrees (s.record fault) (s'.record (c.reblame fault)) := by
  refine ⟨h.depth_eq, h.maxDepth_eq, ?_⟩
  simp [ParseState.record, h.faults_eq]

namespace Mirrors

theorem current_eq (h : c.Mirrors ts s s') : s.current = ts.headD c.marker := h.sees.current_eq

theorem current_eq' (h : c.Mirrors ts s s') : s'.current = c.image ts := by
  rw [← s'.head_stream, h.stream_eq]
  cases ts <;> rfl

theorem peek_eq (h : c.Mirrors (x :: ts) s s') : s.peek = ts.headD c.marker := h.sees.peek_eq

theorem peek_eof (h : c.Mirrors [x] s s') : s.peek.kind = .eof := by
  rw [h.peek_eq]
  exact c.marker_eof

theorem peek_eq' (h : c.Mirrors (x :: ts) s s') : s'.peek = c.image ts := by
  rw [← s'.head_tail_stream, h.stream_eq]
  cases ts <;> rfl

theorem current_relocate (h : c.Mirrors (x :: ts) s s') :
    s'.current = s.current.relocate c.place := by
  rw [h.current_eq, h.current_eq']
  rfl

theorem current_kind_eq (h : c.Mirrors (x :: ts) s s') : s'.current.kind = s.current.kind := by
  rw [h.current_relocate, Token.kind_relocate]

theorem current_ne_eof (h : c.Mirrors (x :: ts) s s') : s.current.kind ≠ .eof := by
  rw [h.current_eq]
  exact h.sees.real x (by simp)

theorem braces_eq_add (h : c.Mirrors (x :: ts) s s') : s'.braces = s.braces + c.braces :=
  h.braces_eq

theorem current_kind_eof (h : c.Mirrors [] s s') : s.current.kind = .eof :=
  h.sees.current_eof_iff.mpr rfl

theorem current_kind_eq_stop (h : c.Mirrors [] s s') : s'.current.kind = c.stop.kind := by
  rw [h.current_eq']
  rfl

theorem blames_head (h : c.Mirrors ts s s') :
    Blames c.reblame c.depth (ts.headD c.marker) (c.image ts) := by
  cases ts with
  | nil => exact c.stop_blames
  | cons t ts => exact h.blames t (by simp)

theorem blames_next (h : c.Mirrors (x :: ts) s s') :
    Blames c.reblame c.depth (ts.headD c.marker) (c.image ts) := by
  cases ts with
  | nil => exact c.stop_blames
  | cons t ts => exact h.blames t (by simp)

theorem eq_cons (h : c.Mirrors ts s s') (hreal : s.current.kind ≠ .eof) :
    ∃ us, ts = s.current :: us := by
  cases ts with
  | nil => exact absurd (h.sees.current_eof_iff.mpr rfl) hreal
  | cons t us => exact ⟨us, by rw [h.current_eq]; rfl⟩

theorem advance (h : c.Mirrors (x :: ts) s s') : c.Mirrors ts s.advance s'.advance where
  sees := h.sees.advance
  stream_eq := by
    rw [ParseState.stream_advance, h.stream_eq]
    rfl
  blames t ht := h.blames t (by simp [ht])
  agrees := h.agrees.advance
  braces_eq := by
    have hunstrayed := h.unstrayed
    rw [s'.braces_advance, s.braces_advance, h.braces_eq_add, h.peek_eq, h.peek_eq']
    cases ts with
    | nil =>
        rw [List.headD_nil, c.marker_eof]
        rfl
    | cons t ts => exact bracesAfter_add (hunstrayed.imp_right And.left)
  sheltered := by
    refine h.sheltered.imp_right fun hsheltered => ?_
    rw [s.braces_advance, h.peek_eq]
    cases ts with
    | nil =>
        rw [List.headD_nil, c.marker_eof]
        exact hsheltered
    | cons t ts => exact hsheltered
  unstrayed := by
    refine h.unstrayed.imp_right fun hunstrayed => ?_
    rw [s.braces_advance, h.peek_eq]
    cases ts with
    | nil => trivial
    | cons t ts => exact hunstrayed.2

theorem of_starts (hsees : s.Sees ts c.marker)
    (hstream : s'.stream = ts.map (·.relocate c.place) ++ₛ Stream'.cons c.stop c.beyond)
    (hblames : ∀ t ∈ ts, Blames c.reblame c.depth t (t.relocate c.place))
    (hagrees : c.Agrees s s') (hbraces : s.braces = bracesAfter 0 s.current.kind)
    (hbraces' : s'.braces = bracesAfter c.braces s'.current.kind)
    (hsheltered : c.stop.kind = .eof ∨ bracesAfterAll 0 ts = 0)
    (hunstrayed : c.braces = 0 ∨ Unstrayed 0 ts) : c.Mirrors ts s s' := by
  have hcurrent' : s'.current = c.image ts := by
    rw [← s'.head_stream, hstream]
    cases ts <;> rfl
  rw [hsees.current_eq] at hbraces
  rw [hcurrent'] at hbraces'
  refine ⟨hsees, hstream, hblames, hagrees, ?_, ?_, ?_⟩
  · rw [hbraces, hbraces']
    cases ts with
    | nil =>
        rw [List.headD_nil, c.marker_eof]
        exact congrArg (bracesAfter · c.stop.kind) (Nat.zero_add _).symm
    | cons t ts =>
        have hadd := bracesAfter_add (hunstrayed.imp_right And.left)
        rw [Nat.zero_add] at hadd
        exact hadd
  · refine hsheltered.imp_right fun hsheltered => ?_
    rw [hbraces]
    cases ts with
    | nil =>
        rw [List.headD_nil, c.marker_eof]
        rfl
    | cons t ts => exact hsheltered
  · refine hunstrayed.imp_right fun hunstrayed => ?_
    rw [hbraces]
    cases ts with
    | nil => trivial
    | cons t ts => exact hunstrayed.2

theorem advance_nil (h : c.Mirrors [] s s') (hstop : c.stop.kind = .eof) :
    c.Mirrors [] s.advance s'.advance where
  sees := h.sees.advance
  stream_eq := by
    rw [ParseState.stream_advance, h.stream_eq, c.beyond_eq hstop]
    exact Stream'.const_eq c.stop
  blames t ht := by simp at ht
  agrees := h.agrees.advance
  braces_eq := by
    have hpeek : s'.peek = c.stop := by
      rw [← s'.head_tail_stream, h.stream_eq, c.beyond_eq hstop]
      rfl
    have hpeek' : s.peek = c.marker := h.sees.peek_eq
    have hbraces : s'.braces = bracesAfter (s.braces + c.braces) c.stop.kind := h.braces_eq
    rw [s'.braces_advance, s.braces_advance, hbraces, hpeek, hpeek', c.marker_eof, hstop]
    change _ = bracesAfter (s.braces + c.braces) c.stop.kind
    rw [hstop]
    rfl
  sheltered := .inl hstop
  unstrayed := .inr trivial

theorem record (h : c.Mirrors ts s s') (fault : Fault) :
    c.Mirrors ts (s.record fault) (s'.record (c.reblame fault)) :=
  { h with
    sees := h.sees.congr (s.stream_record fault)
    agrees := h.agrees.record fault }

/-- Whatever does not tell the kinds that end a statement from each other is the same for the two
parsers. -/
theorem image_congr {α : Type} {f : TokenKind → α} (hf : ∀ kind, kind.Stops → f kind = f .eof)
    (ts : List Token) : f (c.image ts).kind = f (ts.headD c.marker).kind := by
  cases ts with
  | nil =>
      rw [List.headD_nil, c.marker_eof]
      exact hf _ c.stop_stops
  | cons t ts => rfl

theorem peek_kind_congr {α : Type} {f : TokenKind → α} (h : c.Mirrors (x :: ts) s s')
    (hf : ∀ kind, kind.Stops → f kind = f .eof) : f s'.peek.kind = f s.peek.kind := by
  rw [h.peek_eq, h.peek_eq']
  exact image_congr hf ts

theorem current_kind_congr {α : Type} {f : TokenKind → α} (h : c.Mirrors ts s s')
    (hf : ∀ kind, kind.Stops → f kind = f .eof) : f s'.current.kind = f s.current.kind := by
  rw [h.current_eq, h.current_eq']
  exact image_congr hf ts

theorem peek_kind_iff {kind : TokenKind} (h : c.Mirrors (x :: ts) s s') (hkind : ¬ kind.Stops) :
    s'.peek.kind = kind ↔ s.peek.kind = kind := by
  have hf : ∀ stop : TokenKind, stop.Stops → (stop = kind) = (TokenKind.eof = kind) := by
    intro stop hstop
    have hne : stop ≠ kind := by
      rintro rfl
      exact hkind hstop
    have hne' : TokenKind.eof ≠ kind := by
      rintro rfl
      exact hkind (.inr (.inr rfl))
    simp [hne, hne']
  exact Iff.of_eq (h.peek_kind_congr hf)

end Mirrors

/-! ### Outcomes -/

/-- Both parsers succeed, with `f` between what they read, or both give up for the same fault. -/
inductive Pairs {α β : Type} (c : Copy) (f : α → β) (Q : ParseState → ParseState → Prop) :
    EStateM.Result Fault ParseState α → EStateM.Result Fault ParseState β → Prop where
  | ok {a : α} {t t' : ParseState} (h : Q t t') : Pairs c f Q (.ok a t) (.ok (f a) t')
  | error {fault : Fault} {ts : List Token} {t t' : ParseState} (h : c.Mirrors ts t t') :
      Pairs c f Q (.error fault t) (.error (c.reblame fault) t')

/-- Both parsers are on the same token, which is not the end. -/
def Meets (c : Copy) (t t' : ParseState) : Prop := ∃ x ts, c.Mirrors (x :: ts) t t'

namespace Pairs

variable {α β γ δ : Type} {f : α → β} {g : γ → δ} {Q R : ParseState → ParseState → Prop}
  {m : ParseM α} {m' : ParseM β} {k : α → ParseM γ} {k' : β → ParseM δ}

theorem bind (hm : c.Pairs f Q (m s) (m' s'))
    (hk : ∀ a t t', m s = .ok a t → Q t t' → c.Pairs g R (k a t) (k' (f a) t')) :
    c.Pairs g R ((m >>= k) s) ((m' >>= k') s') := by
  generalize hr : m s = r at hm
  generalize hr' : m' s' = r' at hm
  cases hm with
  | ok h =>
      rw [bind_of_ok hr, bind_of_ok hr']
      exact hk _ _ _ hr h
  | error h =>
      rw [bind_of_error hr, bind_of_error hr']
      exact .error h

theorem map {p : α → γ} {p' : β → δ} (hm : c.Pairs f Q (m s) (m' s'))
    (hp : ∀ a, p' (f a) = g (p a)) : c.Pairs g Q ((p <$> m) s) ((p' <$> m') s') := by
  rw [map_apply, map_apply]
  generalize m s = r at hm
  generalize m' s' = r' at hm
  cases hm with
  | ok h =>
      simp only [hp]
      exact .ok h
  | error h => exact .error h

theorem pure {a : α} {b : β} (hb : b = f a) (h : Q s s') :
    c.Pairs f Q ((Pure.pure a : ParseM α) s) ((Pure.pure b : ParseM β) s') := by
  subst hb
  exact .ok h

theorem expectPeek {kind : TokenKind} (h : c.Mirrors (x :: ts) s s') (hkind : ¬ kind.Stops) :
    c.Pairs id (fun t t' => ∃ us, c.Mirrors (t.current :: us) t t' ∧ t.current.kind = kind)
      (ParseM.expectPeek kind s) (ParseM.expectPeek kind s') := by
  by_cases hpeek : s.peek.kind = kind
  · rw [expectPeek_of_kind hpeek, expectPeek_of_kind ((h.peek_kind_iff hkind).mpr hpeek)]
    have hreal : s.advance.current.kind ≠ .eof := by
      rw [s.current_advance, hpeek]
      rintro rfl
      exact hkind (.inr (.inr rfl))
    obtain ⟨us, rfl⟩ := h.advance.eq_cons hreal
    exact .ok ⟨us, h.advance, hpeek⟩
  · have hpeek' : s'.peek.kind ≠ kind := mt (h.peek_kind_iff hkind).mp hpeek
    have hfault : c.reblame (s.peekFault kind) = s'.peekFault kind := by
      rw [s.peekFault_eq, s'.peekFault_eq, h.peek_eq, h.peek_eq']
      exact h.blames_next.follow kind
    unfold ParseM.expectPeek
    rw [if_neg hpeek, if_neg hpeek', ← hfault]
    exact .error h

end Pairs

end Copy

/-! ### How far a parser is -/

theorem ParseState.Sees.unique {s : ParseState} {ts us : List Token} {last : Token}
    (hts : s.Sees ts last) (hus : s.Sees us last) : ts = us := by
  induction ts generalizing s us with
  | nil => exact (hus.current_eof_iff.mp (hts.current_eof_iff.mpr rfl)).symm
  | cons t ts ih =>
      cases us with
      | nil => exact hts.current_eof_iff.mp (hus.current_eof_iff.mpr rfl)
      | cons u us =>
          have hhead : t = u := hts.current_eq.symm.trans hus.current_eq
          have htail : ts = us := ih hts.advance hus.advance
          rw [hhead, htail]

/-- What is ahead of `t` is the rest of what is ahead of `s`. -/
def ParseState.Leads (s t : ParseState) : Prop :=
  ∀ ts last, s.Sees ts last → ∃ us, us <:+ ts ∧ t.Sees us last

theorem Passage.leads : Passage ParseState.Leads where
  refl s ts last h := ⟨ts, List.suffix_refl ts, h⟩
  trans hst htu ts last h := by
    obtain ⟨us, hus, ht⟩ := hst ts last h
    obtain ⟨vs, hvs, hu⟩ := htu us last ht
    exact ⟨vs, hvs.trans hus, hu⟩
  advance s ts last h := ⟨ts.tail, List.tail_suffix ts, h.advance⟩
  record s fault ts last h := ⟨ts, List.suffix_refl ts, h.congr (s.stream_record fault)⟩
  nested {s t} _ hst ts last h := by
    obtain ⟨us, hus, ht⟩ := hst ts last (h.congr s.stream_enter)
    exact ⟨us, hus, ht.congr t.stream_leave⟩

theorem ParseState.Leads.skip {s t : ParseState} (h : s.Leads t) (fault : Fault) (level : Nat) :
    s.Leads ((t.record fault).resync level).2 :=
  Passage.leads.trans h (Passage.leads.skip t fault level)

/-- Readers come back to the depth they started at. -/
theorem Passage.depth : Passage fun s t => t.depth = s.depth where
  refl _ := rfl
  trans hst htu := htu.trans hst
  advance _ := rfl
  record _ _ := rfl
  nested _ h := Nat.sub_eq_of_eq_add h

theorem Passage.maxDepth : Passage fun s t => t.maxDepth = s.maxDepth where
  refl _ := rfl
  trans hst htu := htu.trans hst
  advance _ := rfl
  record _ _ := rfl
  nested _ h := h

namespace Copy

variable {c : Copy} {s s' t t' : ParseState} {x : Token} {ts us : List Token}

theorem Mirrors.length_le (hs : c.Mirrors ts s s') (ht : c.Mirrors us t t') (h : s.Leads t) :
    us.length ≤ ts.length := by
  obtain ⟨vs, hvs, hsees⟩ := h ts c.marker hs.sees
  rw [ht.sees.unique hsees]
  exact hvs.length_le

theorem Mirrors.length_le_remaining (h : c.Mirrors ts s s') : ts.length ≤ s'.remaining := by
  have hreal : ∀ t ∈ ts.map (·.relocate c.place), t.kind ≠ .eof := by
    simpa using h.sees.real
  simpa using ParseState.length_le_remaining h.stream_eq hreal

theorem Mirrors.length_lt_remaining (h : c.Mirrors ts s s') (hstop : c.stop.kind ≠ .eof) :
    ts.length < s'.remaining := by
  have hstream : s'.stream = (ts.map (·.relocate c.place) ++ [c.stop]) ++ₛ c.beyond := by
    rw [Stream'.append_append_stream]
    exact h.stream_eq
  have hreal : ∀ t ∈ ts.map (·.relocate c.place) ++ [c.stop], t.kind ≠ .eof := by
    simp only [List.forall_mem_append, List.forall_mem_map, List.forall_mem_singleton,
      Token.kind_relocate]
    exact ⟨h.sees.real, hstop⟩
  have hlength := ParseState.length_le_remaining hstream hreal
  simp only [List.length_append, List.length_map, List.length_singleton] at hlength
  exact hlength

end Copy

end MonkeySyntax
