import MonkeySyntax.Proofs.Conduct
import MonkeySyntax.Proofs.Mirror
import MonkeySyntax.Proofs.Tiling
import MonkeySyntax.Report.Render

/-!
# Faults tell the truth

A fault names a place and says something about what is there. Faults are found at six places in the
parser, about the current token or the next one, and are handed out through many levels before they
are recorded. What they say is still so: the place is that of a token of the source, and the token
is of the kind, has the literal and is wrong in the way that the fault says.

As all tokens are inside of the source, so are the places that a report has to point at, and a
writer of reports that fails on other places only never fails.
-/

namespace MonkeySyntax

open ParseM

/-- The fault is blamed on the token, and what it says of the token is so. -/
def Fault.TrueOf (maxDepth : Nat) (token : Token) (fault : Fault) : Prop :=
  fault.span = token.span ∧
    match fault with
    | .unexpectedToken expected found literal _ =>
      found = token.kind ∧ literal = token.literal ∧ found ≠ expected ∧ found ≠ .eof
    | .unexpectedEnd _ _ => token.kind = .eof
    | .noStart kind literal _ =>
      kind = token.kind ∧ literal = token.literal ∧ token.kind ≠ .illegal ∧
        StartRule.ofKind? token.kind = none
    | .illegalCharacter literal _ => token.kind = .illegal ∧ literal = token.literal
    | .integerTooLarge literal _ =>
      token.kind = .integer ∧ literal = token.literal ∧ 2 ^ 63 ≤ decimalValue literal
    | .tooDeep limit _ => limit = maxDepth

theorem Token.trueOf_followFault (maxDepth : Nat) (token : Token) {expected : TokenKind}
    (h : token.kind ≠ expected) : (token.followFault expected).TrueOf maxDepth token := by
  unfold followFault
  split
  · rename_i heof
    exact ⟨rfl, heof⟩
  · rename_i hreal
    exact ⟨rfl, rfl, rfl, h, hreal⟩

theorem Token.trueOf_startFault (maxDepth : Nat) (token : Token)
    (h : StartRule.ofKind? token.kind = none) : token.startFault.TrueOf maxDepth token := by
  unfold startFault
  split
  · rename_i hillegal
    exact ⟨rfl, hillegal, rfl⟩
  · rename_i hlegal
    exact ⟨rfl, rfl, rfl, hlegal, h⟩

theorem Token.trueOf_integerTooLarge (maxDepth : Nat) {token : Token}
    (hkind : token.kind = .integer) (h : maxInteger < decimalValue token.literal) :
    (Fault.integerTooLarge token.literal token.span).TrueOf maxDepth token := by
  refine ⟨rfl, hkind, rfl, ?_⟩
  exact Nat.le_of_pred_lt h

/-- The fault is true of some token of the source. -/
def Fault.TrueIn (maxDepth : Nat) (source : String) (fault : Fault) : Prop :=
  ∃ token ∈ tokenize source, fault.TrueOf maxDepth token

/-! ### What the parser is on, and what it has on record -/

/-- There are only tokens of the source ahead, and only true faults on record. -/
structure ParseState.Truthful (maxDepth : Nat) (source : String) (s : ParseState) : Prop where
  ahead : ∀ k, s.stream.get k ∈ tokenize source
  maxDepth_eq : s.maxDepth = maxDepth
  onRecord : ∀ fault ∈ s.faults, fault.TrueIn maxDepth source

theorem get_stream_mem_tokenize (source : String) (k : Nat) :
    (Lexer.ofSource source).stream.get k ∈ tokenize source := by
  obtain ⟨ts, last, htokens⟩ := exists_tokenize_eq_append source
  obtain ⟨hstream, -, -⟩ := Lexer.stream_of_tokens htokens
  rw [hstream, htokens]
  clear hstream htokens
  induction ts generalizing k with
  | nil => exact List.mem_singleton_self last
  | cons t ts ih =>
      cases k with
      | zero => exact List.mem_cons_self
      | succ k => exact List.mem_cons_of_mem t (ih k)

namespace ParseState.Truthful

variable {maxDepth : Nat} {source : String} {s : ParseState} {fault : Fault}

theorem start (maxDepth : Nat) (source : String) :
    (ParseState.start maxDepth source).Truthful maxDepth source where
  ahead k := by
    rw [stream_start]
    exact get_stream_mem_tokenize source k
  maxDepth_eq := rfl
  onRecord := by
    have hfaults : (ParseState.start maxDepth source).faults = [] := rfl
    simp [hfaults]

theorem advance (h : s.Truthful maxDepth source) : s.advance.Truthful maxDepth source := by
  refine ⟨fun k => ?_, h.maxDepth_eq, h.onRecord⟩
  rw [s.stream_advance]
  exact h.ahead (k + 1)

theorem enter (h : s.Truthful maxDepth source) : s.enter.Truthful maxDepth source :=
  ⟨h.ahead, h.maxDepth_eq, h.onRecord⟩

theorem leave (h : s.Truthful maxDepth source) : s.leave.Truthful maxDepth source :=
  ⟨h.ahead, h.maxDepth_eq, h.onRecord⟩

theorem record (h : s.Truthful maxDepth source) (hfault : fault.TrueIn maxDepth source) :
    (s.record fault).Truthful maxDepth source := by
  refine ⟨h.ahead, h.maxDepth_eq, List.forall_mem_append.mpr ⟨h.onRecord, ?_⟩⟩
  rwa [List.forall_mem_singleton]

theorem resync (h : s.Truthful maxDepth source) (level : Nat) :
    (s.resync level).2.Truthful maxDepth source := by
  fun_induction ParseState.resync level s with
  | case1 s | case2 s | case3 s => exact h
  | case4 s _ _ _ ih => exact ih h.advance

theorem of_current (h : s.Truthful maxDepth source) (hfault : fault.TrueOf maxDepth s.current) :
    fault.TrueIn maxDepth source :=
  ⟨s.current, h.ahead 0, hfault⟩

theorem of_peek (h : s.Truthful maxDepth source) (hfault : fault.TrueOf maxDepth s.peek) :
    fault.TrueIn maxDepth source :=
  ⟨s.peek, h.ahead 1, hfault⟩

end ParseState.Truthful

/-- Every fault that is found is true when it is found. -/
def truthfulness (maxDepth : Nat) (source : String) : Conduct where
  begins _ _ s := s.Truthful maxDepth source
  starts _ _ s := s.Truthful maxDepth source
  stands _ _ s := s.Truthful maxDepth source
  ends _ _ s := s.Truthful maxDepth source
  fails _ _ fault t := t.Truthful maxDepth source ∧ fault.TrueIn maxDepth source
  keyword h _ := h
  semicolon h _ := h
  other h _ _ := h
  finish h := h
  skip h _ := h.advance
  advance h _ := h.advance
  pass h _ _ := h.advance
  mismatch h _ hkind := ⟨h, h.of_peek (Token.trueOf_followFault maxDepth _ hkind)⟩
  tooDeep h _ _ := ⟨h, h.of_current ⟨rfl, h.maxDepth_eq⟩⟩
  enter h _ := h.enter
  noStart h _ hrule := ⟨h.enter, h.of_current (Token.trueOf_startFault maxDepth _ hrule)⟩
  tooLarge h hkind hlarge :=
    ⟨h.enter, h.of_current (Token.trueOf_integerTooLarge maxDepth hkind hlarge)⟩
  leave h _ := h.leave
  leaveFails h _ := ⟨h.1.leave, h.2⟩
  opening h _ _ := h.enter.advance
  closing h _ := h
  unclosed h _ heof := ⟨h, h.of_current ⟨rfl, heof⟩⟩
  next h _ := h.advance
  recoverClosed h _ _ := (h.1.record h.2).resync _
  recoverOpen _ h _ _ := ((h.1.record h.2).resync _).advance

theorem trueIn_of_mem_faults {maxDepth : Nat} {source : String} :
    ∀ fault ∈ (parse maxDepth source).faults, fault.TrueIn maxDepth source := by
  have hend := (truthfulness maxDepth source).program (n := maxDepth) (fun ht => ht.here.advance)
    (fun _ ht => ((ht.here.1.record ht.here.2).resync 0).advance)
    (ParseState.start maxDepth source).remaining
    ⟨.inl (ParseState.starts_start maxDepth source), .start maxDepth source⟩
  exact hend.here.onRecord

/-! ### Places in the source, and reports on them -/

theorem slice?_of_mem_tokenize {source : String} :
    ∀ t ∈ tokenize source, t.span.slice? source = some t.literal :=
  (Lexer.ofSource source).tiles_tokens.slice (.first source)

/-- The range of the label is in the source, and its ends are between characters. -/
def Label.Inside (source : String) (label : Label) : Prop :=
  (bytesBetween? source.toList label.start label.stop).isSome

theorem Fault.TrueIn.inside {maxDepth : Nat} {source : String} {fault : Fault}
    (h : fault.TrueIn maxDepth source) : fault.diagnostic.label.Inside source := by
  obtain ⟨token, hmem, hspan, -⟩ := h
  have hslice := slice?_of_mem_tokenize token hmem
  obtain ⟨chars, hchars, -⟩ := Option.map_eq_some_iff.mp hslice
  refine Option.isSome_iff_exists.mpr ⟨chars, ?_⟩
  simp only [Fault.diagnostic, hspan]
  exact hchars

/-- Writes a diagnostic as reports show it, but only if its label is in the source. -/
def Diagnostic.writtenInside (name source : String) (diagnostic : Diagnostic) : Option String :=
  (bytesBetween? source.toList diagnostic.label.start diagnostic.label.stop).map fun _ =>
    inkText false (diagnostic.inks name source)

theorem mapM_eq_some_map {α β : Type} {f : α → Option β} {g : α → β} {items : List α}
    (h : ∀ a ∈ items, f a = some (g a)) : items.mapM f = some (items.map g) := by
  induction items with
  | nil => rfl
  | cons a items ih =>
      rw [List.forall_mem_cons] at h
      rw [List.mapM_cons, h.1, ih h.2]
      rfl

theorem inkText_flatMap {α : Type} (colour : Bool) (inks : α → List Ink) (items : List α) :
    inkText colour (items.flatMap inks)
      = String.join (items.map fun item => inkText colour (inks item)) := by
  induction items with
  | nil => rfl
  | cons item items ih =>
      rw [List.map_cons, String.join_cons, ← ih, List.flatMap_cons]
      simp [inkText]

/-- The report in plain text is the one of a writer that fails outside the source. -/
theorem report_eq_reportBy (maxDepth : Nat) (name source : String) :
    report false name source (parse maxDepth source).faults
      = reportBy (Diagnostic.writtenInside name source) (parse maxDepth source).faults := by
  have hwrite : ∀ fault ∈ (parse maxDepth source).faults,
      fault.diagnostic.writtenInside name source
        = some (inkText false (fault.diagnostic.inks name source)) := by
    intro fault hmem
    obtain ⟨chars, hchars⟩ := Option.isSome_iff_exists.mp (trueIn_of_mem_faults fault hmem).inside
    rw [Diagnostic.writtenInside, hchars]
    rfl
  rw [reportBy, mapM_eq_some_map hwrite, report, reportInks, inkText_flatMap]

/-- **Every fault tells the truth about a token of the source.** It is at the place of a token of
the source, whose text is there, and says what kind of token it is, what its literal is, and what is
wrong with it, and nothing else. So a writer of diagnostics that writes those whose labels are in
the source writes them all, and the report is what it writes. -/
theorem faults_tell_the_truth (maxDepth : Nat) (source : String) :
    (∀ fault ∈ (parse maxDepth source).faults, ∃ token ∈ tokenize source,
      fault.TrueOf maxDepth token ∧ fault.span.slice? source = some token.literal) ∧
      ∀ write? : Diagnostic → Option String,
        (∀ diagnostic, diagnostic.label.Inside source → (write? diagnostic).isSome) →
        ∃ pieces, ((parse maxDepth source).faults.mapM fun fault => write? fault.diagnostic)
            = some pieces ∧
          reportBy write? (parse maxDepth source).faults = String.join pieces := by
  constructor
  · intro fault hmem
    obtain ⟨token, htoken, htrue⟩ := trueIn_of_mem_faults fault hmem
    refine ⟨token, htoken, htrue, ?_⟩
    rw [htrue.1]
    exact slice?_of_mem_tokenize token htoken
  · intro write? hwrite
    have hpieces : ∀ fault ∈ (parse maxDepth source).faults,
        write? fault.diagnostic = some ((write? fault.diagnostic).getD "") := by
      intro fault hmem
      obtain ⟨piece, hpiece⟩ :=
        Option.isSome_iff_exists.mp (hwrite _ (trueIn_of_mem_faults fault hmem).inside)
      rw [hpiece]
      rfl
    exact ⟨_, mapM_eq_some_map hpieces, by rw [reportBy, mapM_eq_some_map hpieces]⟩

/-- A large integer, a letter of two bytes and a missing parenthesis. -/
theorem faults_tell_the_truth_of_three :
    (parse 2 "9223372036854775808; é; (1").faults
        = [.integerTooLarge "9223372036854775808" ⟨0, 19, 1, 1⟩,
          .illegalCharacter "é" ⟨21, 23, 1, 22⟩, .unexpectedEnd .rightParen ⟨27, 27, 1, 27⟩] ∧
      (∃ token ∈ tokenize "9223372036854775808; é; (1",
        (Fault.illegalCharacter "é" ⟨21, 23, 1, 22⟩).TrueOf 2 token ∧
          (Span.mk 21 23 1 22).slice? "9223372036854775808; é; (1" = some token.literal) ∧
      (∀ diagnostic : Diagnostic, diagnostic.label.Inside "9223372036854775808; é; (1" →
        (diagnostic.writtenInside "a" "9223372036854775808; é; (1").isSome) ∧
      ∃ pieces, reportBy (Diagnostic.writtenInside "a" "9223372036854775808; é; (1")
        (parse 2 "9223372036854775808; é; (1").faults = String.join pieces := by
  have hwrite : ∀ diagnostic : Diagnostic, diagnostic.label.Inside "9223372036854775808; é; (1" →
      (diagnostic.writtenInside "a" "9223372036854775808; é; (1").isSome := fun diagnostic h =>
    Option.isSome_map.trans h
  obtain ⟨htrue, hreport⟩ := faults_tell_the_truth 2 "9223372036854775808; é; (1"
  obtain ⟨pieces, -, hpieces⟩ := hreport _ hwrite
  exact ⟨by decide +kernel, htrue _ (by decide +kernel), hwrite, pieces, hpieces⟩

end MonkeySyntax
