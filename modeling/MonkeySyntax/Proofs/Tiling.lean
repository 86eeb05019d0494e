import Mathlib.Data.List.Chain
import Mathlib.Data.List.TakeWhile
import MonkeySyntax.Proofs.Joining

/-!
# Tokens tile their source

Nothing of a source is lost in its tokens. Every token is where its span says, blanks and only
blanks stand before, between and behind the tokens, and both together are the source again.

The places are counted by the lexer as it goes, while the literals are cut off what is left of the
source. That the two agree is what `Tiles` says of a stretch of the source.
-/

namespace MonkeySyntax

/-! ### Bytes of a text -/

theorem byteLength_toList (source : String) : byteLength source.toList = source.utf8ByteSize := by
  have hencode : ∀ cs : List Char, byteLength cs = cs.utf8Encode.size := by
    intro cs
    induction cs with
    | nil => rfl
    | cons c cs ih =>
        rw [List.utf8Encode_cons, ByteArray.size_append, ← ih, List.utf8Encode_singleton]
        simp
  rw [hencode, ← String.toByteArray_ofList, String.ofList_toList, String.size_toByteArray]

theorem splitBytes_append (before rest : List Char) :
    splitBytes (before ++ rest) (byteLength before) = some (before, rest) := by
  induction before with
  | nil => cases rest <;> rfl
  | cons c before ih =>
      have hpos := c.utf8Size_pos
      obtain ⟨n, hn⟩ : ∃ n, byteLength (c :: before) = n + 1 :=
        Nat.exists_eq_succ_of_ne_zero (by simp; omega)
      have hleft : n + 1 - c.utf8Size = byteLength before := by
        rw [← hn, byteLength_cons]
        omega
      rw [hn, List.cons_append, splitBytes, if_pos (by rw [← hn, byteLength_cons]; omega), hleft,
        ih]
      rfl

/-- At the place `position` of the source, which is between two characters, `rest` is left. -/
def Leaves (source : String) (position : Position) (rest : List Char) : Prop :=
  ∃ before, splitBytes source.toList position.offset = some (before, rest)

namespace Leaves

variable {source : String} {position : Position} {passed rest : List Char}

theorem first (source : String) : Leaves source .first source.toList :=
  ⟨[], by simp [Position.first, splitBytes]⟩

theorem pass (h : Leaves source position (passed ++ rest)) :
    Leaves source (position.afterAll passed) rest := by
  obtain ⟨before, hsplit⟩ := h
  refine ⟨before ++ passed, ?_⟩
  rw [Position.offset_afterAll, ← byteLength_of_splitBytes hsplit, ← byteLength_append,
    ← append_eq_of_splitBytes hsplit, ← List.append_assoc, splitBytes_append]

theorem bytesBetween?_eq (h : Leaves source position (passed ++ rest)) :
    bytesBetween? source.toList position.offset (position.afterAll passed).offset
      = some passed := by
  obtain ⟨before, hsplit⟩ := h
  unfold bytesBetween?
  rw [Position.offset_afterAll, if_pos (Nat.le_add_right _ _), Nat.add_sub_cancel_left, hsplit]
  simp only [Option.bind_eq_bind, Option.bind_some, splitBytes_append]
  rfl

end Leaves

/-! ### One step of the lexer -/

/-- A text is all blanks, or has blanks and then something else. -/
theorem blank_or_exists_gap (cs : List Char) : (∀ c ∈ cs, isBlank c = true) ∨
    ∃ gap c rest, cs = gap ++ c :: rest ∧ (∀ d ∈ gap, isBlank d = true) ∧ isBlank c = false := by
  have hsplit : cs.takeWhile isBlank ++ cs.dropWhile isBlank = cs := List.takeWhile_append_dropWhile
  cases hdrop : cs.dropWhile isBlank with
  | nil => exact .inl (List.dropWhile_eq_nil_iff.mp hdrop)
  | cons c rest =>
      have hhead := List.head?_dropWhile_not isBlank cs
      rw [hdrop] at hhead hsplit
      exact .inr ⟨_, c, rest, hsplit.symm, fun d hd => List.mem_takeWhile_imp hd, hhead⟩

namespace Lexer

variable {lexer : Lexer}

theorem next_of_blank (h : ∀ c ∈ lexer.rest, isBlank c = true) :
    lexer.next = (Token.markerAt (lexer.position.afterAll lexer.rest),
      ⟨lexer.source, [], lexer.position.afterAll lexer.rest⟩) := by
  have hskip : lexer.skipBlanks = ⟨lexer.source, [], lexer.position.afterAll lexer.rest⟩ := by
    rw [skipBlanks, List.dropWhile_eq_nil_iff.mpr h, List.takeWhile_eq_self_iff.mpr h]
  rw [next, hskip]
  rfl

theorem next_of_gap {gap cs : List Char} {c : Char} (hrest : lexer.rest = gap ++ c :: cs)
    (hgap : ∀ d ∈ gap, isBlank d = true) (hc : isBlank c = false) :
    lexer.next = (⟨(Lexeme.scan c cs).kind, String.ofList (Lexeme.scan c cs).chars,
        .between (lexer.position.afterAll gap)
          ((lexer.position.afterAll gap).afterAll (Lexeme.scan c cs).chars)⟩,
      ⟨lexer.source, (Lexeme.scan c cs).rest,
        (lexer.position.afterAll gap).afterAll (Lexeme.scan c cs).chars⟩) := by
  have hskip : lexer.skipBlanks = ⟨lexer.source, c :: cs, lexer.position.afterAll gap⟩ := by
    rw [skipBlanks, hrest, List.dropWhile_append_of_pos hgap, List.takeWhile_append_of_pos hgap,
      List.dropWhile_cons_of_neg (by simp [hc]), List.takeWhile_cons_of_neg (by simp [hc]),
      List.append_nil]
  rw [next, hskip, read_of_rest_eq_cons rfl]

theorem tokens_of_eof (h : lexer.next.1.kind = .eof) : lexer.tokens = [lexer.next.1] := by
  rw [tokens, if_pos h]

theorem tokens_of_ne_eof (h : lexer.next.1.kind ≠ .eof) :
    lexer.tokens = lexer.next.1 :: lexer.next.2.tokens := by
  rw [tokens, if_neg h]

/-- The characters that a step passes are those by which the place moves. -/
theorem exists_passed (lexer : Lexer) : ∃ passed, lexer.rest = passed ++ lexer.next.2.rest ∧
    lexer.next.2.position = lexer.position.afterAll passed := by
  rcases blank_or_exists_gap lexer.rest with hblank | ⟨gap, c, cs, hrest, hgap, hc⟩
  · rw [next_of_blank hblank]
    exact ⟨lexer.rest, (List.append_nil _).symm, rfl⟩
  · rw [next_of_gap hrest hgap hc]
    refine ⟨gap ++ (Lexeme.scan c cs).chars, ?_, (Position.afterAll_append _ _ _).symm⟩
    rw [hrest, List.append_assoc, Lexeme.scan_chars_append_rest]

end Lexer

/-! ### Tilings -/

/-- The tokens tile the characters from `position` on: blanks apart, each is where it says, and the
end marker is right behind the last character. -/
inductive Tiles : Position → List Char → List Token → Prop where
  | marker {position : Position} {gap : List Char} (hgap : ∀ c ∈ gap, isBlank c = true) :
      Tiles position gap [.markerAt (position.afterAll gap)]
  | token {position : Position} {gap lexeme rest : List Char} {kind : TokenKind} {ts : List Token}
      (hgap : ∀ c ∈ gap, isBlank c = true)
      (hrest : Tiles ((position.afterAll gap).afterAll lexeme) rest ts) :
      Tiles position (gap ++ (lexeme ++ rest))
        (⟨kind, String.ofList lexeme, .between (position.afterAll gap)
          ((position.afterAll gap).afterAll lexeme)⟩ :: ts)

theorem Lexer.tiles_tokens (lexer : Lexer) : Tiles lexer.position lexer.rest lexer.tokens := by
  fun_induction Lexer.tokens lexer with
  | case1 lexer heof =>
      rcases blank_or_exists_gap lexer.rest with hblank | ⟨gap, c, cs, hrest, hgap, hc⟩
      · rw [next_of_blank hblank]
        exact .marker hblank
      · rw [next_of_gap hrest hgap hc] at heof
        exact absurd heof (Lexeme.scan_kind_ne_eof c cs)
  | case2 lexer hreal ih =>
      rcases blank_or_exists_gap lexer.rest with hblank | ⟨gap, c, cs, hrest, hgap, hc⟩
      · rw [next_of_blank hblank] at hreal
        exact absurd rfl hreal
      · rw [next_of_gap hrest hgap hc] at ih ⊢
        rw [hrest, ← Lexeme.scan_chars_append_rest c cs]
        exact .token hgap ih

/-- The text that tokens stand for, from byte `offset` of their source on: what was skipped before
each of them, and its literal. -/
def rebuild (source : String) : Nat → List Token → Option (List Char)
  | _, [] => some []
  | offset, t :: ts => do
    let gap ← bytesBetween? source.toList offset t.span.start
    let rest ← rebuild source t.span.stop ts
    return gap ++ (t.literal.toList ++ rest)

/-- From byte `start` to byte `stop` the source has blanks only. -/
def BlankBetween (source : String) (start stop : Nat) : Prop :=
  ∃ gap, bytesBetween? source.toList start stop = some gap ∧ ∀ c ∈ gap, c ∈ [' ', '\t', '\n', '\r']

theorem isBlank_iff {c : Char} : isBlank c = true ↔ c ∈ [' ', '\t', '\n', '\r'] := by
  simp [isBlank, or_assoc]

namespace Tiles

variable {position : Position} {cs before : List Char} {ts : List Token} {source : String}

theorem start_le (h : Tiles position cs ts) : ∀ t ∈ ts, position.offset ≤ t.span.start := by
  induction h with
  | marker hgap =>
      simp only [List.forall_mem_singleton, Token.markerAt, Token.fixed, Span.between,
        Position.offset_afterAll]
      omega
  | token hgap _ ih =>
      simp only [List.forall_mem_cons, Span.between, Position.offset_afterAll] at ih ⊢
      refine ⟨by omega, fun t ht => ?_⟩
      have hle := ih t ht
      omega

theorem pairwise (h : Tiles position cs ts) :
    ts.Pairwise fun a b => a.span.stop ≤ b.span.start := by
  induction h with
  | marker => exact List.pairwise_singleton _ _
  | token hgap hrest ih => exact .cons hrest.start_le ih

theorem slice (h : Tiles position cs ts) (hsource : Leaves source position cs) :
    ∀ t ∈ ts, t.span.slice? source = some t.literal := by
  induction h with
  | @marker position gap hgap =>
      rw [← List.append_nil gap] at hsource
      have hempty : Leaves source (position.afterAll gap) ([] ++ []) := hsource.pass
      rw [List.forall_mem_singleton]
      exact congrArg (Option.map String.ofList) hempty.bytesBetween?_eq
  | token hgap _ ih =>
      refine List.forall_mem_cons.mpr ⟨?_, ih hsource.pass.pass⟩
      exact congrArg (Option.map String.ofList) hsource.pass.bytesBetween?_eq

/-- Behind whatever ends at `position`, blanks and tokens take turns. -/
theorem isChain (h : Tiles position cs ts) (hsource : Leaves source position cs) {span : Span}
    (hspan : span.stop = position.offset) :
    (span :: ts.map (·.span)).IsChain fun a b => BlankBetween source a.stop b.start := by
  induction h generalizing span with
  | @marker position gap hgap =>
      rw [← List.append_nil gap] at hsource
      refine .cons_cons ⟨gap, ?_, fun c hc => isBlank_iff.mp (hgap c hc)⟩ (.singleton _)
      rw [hspan]
      exact hsource.bytesBetween?_eq
  | @token position gap lexeme rest kind ts hgap _ ih =>
      refine .cons_cons ⟨gap, ?_, fun c hc => isBlank_iff.mp (hgap c hc)⟩
        (ih hsource.pass.pass rfl)
      rw [hspan]
      exact hsource.bytesBetween?_eq

theorem rebuild (h : Tiles position cs ts) (hsource : Leaves source position cs) :
    MonkeySyntax.rebuild source position.offset ts = some cs := by
  induction h with
  | @marker position gap hgap =>
      rw [← List.append_nil gap] at hsource
      have hgap := hsource.bytesBetween?_eq
      simp only [MonkeySyntax.rebuild, Token.markerAt, Token.fixed, Span.between, hgap]
      simp [TokenKind.spelling?]
  | token hgap _ ih =>
      have hgap := hsource.bytesBetween?_eq
      simp only [MonkeySyntax.rebuild, Span.between, hgap, ih hsource.pass.pass]
      simp

end Tiles

namespace Lexer

theorem leaves_next {source : String} {lexer : Lexer}
    (h : Leaves source lexer.position lexer.rest) :
    Leaves source lexer.next.2.position lexer.next.2.rest := by
  obtain ⟨passed, hrest, hposition⟩ := exists_passed lexer
  rw [hrest] at h
  rw [hposition]
  exact h.pass

theorem leaves_take {source : String} {lexer : Lexer} (h : Leaves source lexer.position lexer.rest)
    (n : Nat) : Leaves source (lexer.take n).2.position (lexer.take n).2.rest := by
  induction n generalizing lexer with
  | zero => exact h
  | succ n ih => exact ih (leaves_next h)

end Lexer

theorem offset_endOf (source : String) : (endOf source).offset = source.utf8ByteSize := by
  rw [endOf, Position.offset_afterAll, byteLength_toList]
  exact Nat.zero_add _

/-- **Lexing is lossless.** The tokens of a source are followed by one end marker, which is empty
and at the end of the source. Every other token has a span of its own, in order and inside of the
source, whose ends are between characters, and the text of the span is the literal. Before, between
and behind the tokens are blanks only, so that the gaps and the literals together are the source.
Wherever the lexer is, as often as it is asked, it is between two characters of the source. -/
theorem tokenize_lossless (source : String) :
    ∃ ts last, tokenize source = ts ++ [last] ∧
      ((∀ t ∈ ts, t.kind ≠ .eof) ∧ last.kind = .eof ∧ last.literal = "" ∧
        last.span.start = source.utf8ByteSize ∧ last.span.stop = source.utf8ByteSize) ∧
      (∀ t ∈ ts, t.span.start < t.span.stop ∧ t.span.stop ≤ source.utf8ByteSize ∧
        t.span.slice? source = some t.literal) ∧
      (ts.Pairwise fun a b => a.span.stop ≤ b.span.start) ∧
      ((Span.zero :: (tokenize source).map (·.span)).IsChain fun a b =>
        BlankBetween source a.stop b.start) ∧
      rebuild source 0 (tokenize source) = some source.toList ∧
      ∀ n, Leaves source ((Lexer.ofSource source).take n).2.position
        ((Lexer.ofSource source).take n).2.rest := by
  obtain ⟨ts, htokens⟩ := exists_tokenize_eq source
  have htiles : Tiles .first source.toList (tokenize source) := (Lexer.ofSource source).tiles_tokens
  have hleaves : Leaves source .first source.toList := .first source
  obtain ⟨-, hreal, -⟩ := Lexer.stream_of_tokens htokens
  have hends := offset_endOf source
  have hpairwise := htiles.pairwise
  have hslice := htiles.slice hleaves
  rw [htokens, List.pairwise_append] at hpairwise
  rw [htokens, List.forall_mem_append] at hslice
  obtain ⟨hordered, -, hlast⟩ := hpairwise
  refine ⟨ts, _, htokens, ⟨hreal, rfl, rfl, hends, hends⟩, ?_, hordered,
    htiles.isChain hleaves rfl, htiles.rebuild hleaves, Lexer.leaves_take hleaves⟩
  intro t ht
  refine ⟨Lexer.span_lt_of_tokens htokens t ht, ?_, hslice.1 t ht⟩
  calc t.span.stop ≤ (endOf source).offset := hlast t ht _ (List.mem_singleton_self _)
    _ = source.utf8ByteSize := hends

end MonkeySyntax
