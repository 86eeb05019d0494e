import Mathlib.Data.List.TakeWhile
import MonkeySyntax.Proofs.Relocation
import MonkeySyntax.Proofs.Stream

/-!
# Tokens of a text inside a longer one

No lexeme goes on over a semicolon, a brace or the end of a line. So when a text is followed by one
of these, or by nothing, the longer text has the tokens of the text, each at its new place, and then
the tokens of what follows.
-/

namespace MonkeySyntax

/-- The place right after a source. -/
def endOf (source : String) : Position := Position.first.afterAll source.toList

/-- The end marker of a source that ends at `position`. -/
def Token.markerAt (position : Position) : Token := .fixed .eof (.between position position)

theorem Token.kind_markerAt_endOf (source : String) :
    (Token.markerAt (endOf source)).kind = .eof := rfl

/-- The token of a kind that is written as the one character `c`. -/
def Token.symbolAt (kind : TokenKind) (c : Char) (position : Position) : Token :=
  ⟨kind, String.ofList [c], .between position (position.after c)⟩

/-- No lexeme goes on into `tail`: neither words, nor numbers, nor operators. -/
structure Apart (tail : List Char) : Prop where
  word : ∀ c ∈ tail.head?, isWordChar c = false
  digit : ∀ c ∈ tail.head?, c.isDigit = false
  equals : ∀ c ∈ tail.head?, c ≠ '='

theorem Apart.nil : Apart [] := by
  constructor <;> simp

theorem Apart.semicolon (rest : List Char) : Apart (';' :: rest) := by
  constructor <;> simp
  decide

theorem Apart.brace (rest : List Char) : Apart ('\x7d' :: rest) := by
  constructor <;> simp
  decide

theorem Apart.newline (rest : List Char) : Apart ('\n' :: rest) := by
  constructor <;> simp
  decide

section Scanning

variable {p : Char → Bool} {tail : List Char}

theorem takeWhile_append_of_head (h : ∀ c ∈ tail.head?, p c = false) (cs : List Char) :
    (cs ++ tail).takeWhile p = cs.takeWhile p := by
  induction cs with
  | nil =>
      cases tail with
      | nil => rfl
      | cons c tail => simp [h c (by simp)]
  | cons c cs ih =>
      cases hc : p c <;> simp [hc, ih]

theorem dropWhile_append_of_head (h : ∀ c ∈ tail.head?, p c = false) (cs : List Char) :
    (cs ++ tail).dropWhile p = cs.dropWhile p ++ tail := by
  induction cs with
  | nil =>
      cases tail with
      | nil => rfl
      | cons c tail => simp [h c (by simp)]
  | cons c cs ih =>
      cases hc : p c <;> simp [hc, ih]

theorem takeWhile_append_of_dropWhile_ne_nil {cs : List Char} (h : cs.dropWhile p ≠ []) :
    (cs ++ tail).takeWhile p = cs.takeWhile p := by
  induction cs with
  | nil => exact absurd rfl h
  | cons c cs ih =>
      cases hc : p c with
      | false => simp [hc]
      | true =>
          rw [List.dropWhile_cons_of_pos hc] at h
          simp [hc, ih h]

end Scanning

namespace Lexeme

variable {tail : List Char}

theorem symbol_append (htail : Apart tail) (c : Char) (cs : List Char) :
    symbol c (cs ++ tail)
      = ⟨(symbol c cs).kind, (symbol c cs).chars, (symbol c cs).rest ++ tail⟩ := by
  have hequals := htail.equals
  unfold symbol
  cases TokenKind.withEquals? c with
  | none => rfl
  | some kind =>
      cases cs with
      | nil =>
          cases tail with
          | nil => rfl
          | cons d tail =>
              have hd : d ≠ '=' := hequals d (by simp)
              simp [hd]
      | cons d cs =>
          by_cases hd : d = '='
          · subst hd
            rfl
          · simp [hd]

theorem scan_append (htail : Apart tail) (c : Char) (cs : List Char) :
    scan c (cs ++ tail) = ⟨(scan c cs).kind, (scan c cs).chars, (scan c cs).rest ++ tail⟩ := by
  unfold scan
  split
  · rw [takeWhile_append_of_head htail.word, dropWhile_append_of_head htail.word]
  split
  · rw [takeWhile_append_of_head htail.digit, dropWhile_append_of_head htail.digit]
  · exact symbol_append htail c cs

end Lexeme

namespace Lexer

theorem read_of_rest_eq_cons {lexer : Lexer} {c : Char} {cs : List Char}
    (h : lexer.rest = c :: cs) :
    lexer.read = (⟨(Lexeme.scan c cs).kind, String.ofList (Lexeme.scan c cs).chars,
      .between lexer.position (lexer.position.afterAll (Lexeme.scan c cs).chars)⟩,
      ⟨lexer.source, (Lexeme.scan c cs).rest,
        lexer.position.afterAll (Lexeme.scan c cs).chars⟩) := by
  rw [read, h, ← Lexeme.literal_scan]

/-- Of the same `text`, alone and at `origin` in front of `tail`, the same part is left. -/
structure Copies (origin : Position) (text tail : List Char) (lexer copy : Lexer) : Prop where
  position : ∃ before, before ++ lexer.rest = text ∧
    lexer.position = Position.first.afterAll before ∧ copy.position = origin.afterAll before
  rest_eq : copy.rest = lexer.rest ++ tail

namespace Copies

variable {origin : Position} {text tail : List Char} {lexer copy : Lexer}

theorem skipBlanks (h : Copies origin text tail lexer copy) (hne : lexer.skipBlanks.rest ≠ []) :
    Copies origin text tail lexer.skipBlanks copy.skipBlanks := by
  obtain ⟨⟨before, htext, hposition, hcopy⟩, hrest⟩ := h
  have hdrop : lexer.rest.dropWhile isBlank ≠ [] := hne
  refine ⟨⟨before ++ lexer.rest.takeWhile isBlank, ?_, ?_, ?_⟩, ?_⟩
  · rw [List.append_assoc]
    simpa [Lexer.skipBlanks] using htext
  · rw [Position.afterAll_append, ← hposition]
    rfl
  · rw [Position.afterAll_append, ← hcopy]
    simp only [Lexer.skipBlanks, hrest, takeWhile_append_of_dropWhile_ne_nil hdrop]
  · simp only [Lexer.skipBlanks, hrest, List.dropWhile_append, List.isEmpty_iff, hdrop, ↓reduceIte]

theorem read (h : Copies origin text tail lexer copy) (htail : Apart tail)
    (hne : lexer.rest ≠ []) :
    copy.read.1 = lexer.read.1.relocate (Span.moved origin (firstLine text)) ∧
      Copies origin text tail lexer.read.2 copy.read.2 := by
  obtain ⟨⟨before, htext, hposition, hcopy⟩, hrest⟩ := h
  obtain ⟨c, cs, hcs⟩ := List.exists_cons_of_ne_nil hne
  rw [hcs, List.cons_append] at hrest
  have happend := Lexeme.scan_chars_append_rest c cs
  rw [read_of_rest_eq_cons hcs, read_of_rest_eq_cons hrest, Lexeme.scan_append htail]
  constructor
  · simp only [Token.relocate, Token.mk.injEq, true_and]
    rw [hposition, hcopy, ← htext]
    exact (Span.moved_between origin before _ _).symm
  · refine ⟨⟨before ++ (Lexeme.scan c cs).chars, ?_, ?_, ?_⟩, rfl⟩
    · rw [List.append_assoc, happend, ← hcs, htext]
    · rw [Position.afterAll_append, ← hposition]
    · rw [Position.afterAll_append, ← hcopy]

theorem next (h : Copies origin text tail lexer copy) (htail : Apart tail)
    (hreal : lexer.next.1.kind ≠ .eof) :
    copy.next.1 = lexer.next.1.relocate (Span.moved origin (firstLine text)) ∧
      Copies origin text tail lexer.next.2 copy.next.2 := by
  have hne : lexer.skipBlanks.rest ≠ [] := fun hrest => hreal (read_kind_eq_eof_iff.mpr hrest)
  exact (h.skipBlanks hne).read htail hne

theorem next_of_eof (h : Copies origin text tail lexer copy) (heof : lexer.next.1.kind = .eof) :
    copy.next = Lexer.next ⟨copy.source, tail, origin.afterAll text⟩ := by
  have hnil : lexer.rest.dropWhile isBlank = [] := read_kind_eq_eof_iff.mp heof
  have hblank : ∀ c ∈ lexer.rest, isBlank c = true := List.dropWhile_eq_nil_iff.mp hnil
  obtain ⟨⟨before, htext, -, hposition⟩, hrest⟩ := h
  subst htext
  unfold Lexer.next
  congr 1
  simp only [Lexer.skipBlanks, hrest, List.dropWhile_append_of_pos hblank,
    List.takeWhile_append_of_pos hblank, hposition, Position.afterAll_append]

end Copies

theorem stream_congr {lexer lexer' : Lexer} (h : lexer.next = lexer'.next) :
    lexer.stream = lexer'.stream := by
  rw [stream_eq_cons, h, ← stream_eq_cons]

/-- The tokens of a text at `origin`, and then those of what follows it. -/
theorem Copies.stream {origin : Position} {text tail : List Char} {lexer copy : Lexer}
    {ts : List Token} {last : Token} (h : Copies origin text tail lexer copy)
    (htail : Apart tail) (htokens : lexer.tokens = ts ++ [last]) :
    copy.stream = ts.map (·.relocate (Span.moved origin (firstLine text))) ++ₛ
      Lexer.stream ⟨copy.source, tail, origin.afterAll text⟩ := by
  induction ts generalizing lexer copy with
  | nil =>
      have heof : lexer.next.1.kind = .eof := by
        rw [tokens] at htokens
        split at htokens
        · assumption
        · simp [tokens_ne_nil] at htokens
      exact stream_congr (h.next_of_eof heof)
  | cons t ts ih =>
      rw [tokens] at htokens
      split at htokens
      · simp at htokens
      · rename_i hreal
        obtain ⟨rfl, hts⟩ := List.cons.inj htokens
        obtain ⟨htoken, hnext⟩ := h.next htail hreal
        have hsource : copy.next.2.source = copy.source := source_next copy
        rw [stream_eq_cons, htoken, ih hnext hts, hsource, List.map_cons,
          Stream'.cons_append_stream]

/-! ### The end of a text, and what may follow it -/

theorem stream_nil (source : String) (position : Position) :
    Lexer.stream ⟨source, [], position⟩ = Stream'.const (Token.markerAt position) :=
  stream_of_eof rfl

theorem Copies.self (source : String) :
    Copies .first source.toList [] (.ofSource source) (.ofSource source) :=
  ⟨⟨[], rfl, rfl, rfl⟩, (List.append_nil _).symm⟩

theorem last_of_tokens {source : String} {ts : List Token} {last : Token}
    (h : tokenize source = ts ++ [last]) :
    last = Token.markerAt (endOf source) := by
  have hstream := (Copies.self source).stream .nil h
  rw [Span.moved_first, (stream_of_tokens h).1, stream_nil] at hstream
  have hlength : (ts.map (·.relocate id)).length = ts.length := List.length_map _
  have hdrop := congrArg (Stream'.drop ts.length) hstream
  rw [Stream'.drop_append_stream, ← hlength, Stream'.drop_append_stream] at hdrop
  exact congrArg Stream'.head hdrop

theorem next_span_lt {lexer : Lexer} (h : lexer.next.1.kind ≠ .eof) :
    lexer.next.1.span.start < lexer.next.1.span.stop := by
  obtain ⟨c, cs, hcs⟩ := List.exists_cons_of_ne_nil fun hnil => h (read_kind_eq_eof_iff.mpr hnil)
  have hpos := byteLength_pos (Lexeme.scan_chars_ne_nil c cs)
  unfold next
  rw [read_of_rest_eq_cons hcs]
  simp only [Span.between, Position.offset_afterAll]
  omega

theorem span_lt_of_tokens {lexer : Lexer} {ts : List Token} {last : Token}
    (h : lexer.tokens = ts ++ [last]) : ∀ t ∈ ts, t.span.start < t.span.stop := by
  induction ts generalizing lexer with
  | nil => simp
  | cons t ts ih =>
      rw [tokens] at h
      split at h
      · simp at h
      · rename_i hreal
        obtain ⟨rfl, hts⟩ := List.cons.inj h
        simp only [List.forall_mem_cons]
        exact ⟨next_span_lt hreal, ih hts⟩

theorem stream_semicolon (source : String) (rest : List Char) (position : Position) :
    Lexer.stream ⟨source, ';' :: rest, position⟩
      = Stream'.cons (Token.symbolAt .semicolon ';' position)
          (Lexer.stream ⟨source, rest, position.after ';'⟩) := by
  rw [stream_eq_cons]
  rfl

theorem stream_newline (source : String) (rest : List Char) (position : Position) :
    Lexer.stream ⟨source, '\n' :: rest, position⟩
      = Lexer.stream ⟨source, rest, position.after '\n'⟩ :=
  stream_congr rfl

theorem stream_rightBrace (source : String) (rest : List Char) (position : Position) :
    Lexer.stream ⟨source, '\x7d' :: rest, position⟩
      = Stream'.cons (Token.symbolAt .rightBrace '\x7d' position)
          (Lexer.stream ⟨source, rest, position.after '\x7d'⟩) := by
  rw [stream_eq_cons]
  rfl

end Lexer

theorem exists_tokenize_eq (source : String) :
    ∃ ts, tokenize source = ts ++ [Token.markerAt (endOf source)] := by
  obtain ⟨ts, last, h⟩ := exists_tokenize_eq_append source
  rw [← Lexer.last_of_tokens h]
  exact ⟨ts, h⟩

/-- No token is at the place of the end marker, wherever the text stands. -/
theorem moved_ne_marker {source : String} {ts : List Token}
    (h : tokenize source = ts ++ [Token.markerAt (endOf source)]) {t : Token} (ht : t ∈ ts)
    (origin : Position) (n : Nat) :
    t.span.moved origin n ≠ (Token.markerAt (endOf source)).span.moved origin n := by
  intro heq
  have hlt := Lexer.span_lt_of_tokens h t ht
  have hstart : origin.offset + t.span.start = origin.offset + (endOf source).offset :=
    congrArg Span.start heq
  have hstop : origin.offset + t.span.stop = origin.offset + (endOf source).offset :=
    congrArg Span.stop heq
  omega

theorem endOf_append (a b : String) : endOf (a ++ b) = (endOf a).afterAll b.toList := by
  simp [endOf, Position.afterAll_append]

/-- A text that stands at `origin` ends where its end marker is moved to. -/
theorem Token.relocate_markerAt (origin : Position) (source : String) :
    (Token.markerAt (endOf source)).relocate (Span.moved origin (firstLine source.toList))
      = Token.markerAt (origin.afterAll source.toList) := by
  have hmoved := Span.moved_between origin source.toList [] []
  rw [List.append_nil] at hmoved
  exact congrArg (Token.fixed .eof) hmoved

theorem ParseState.braces_start (maxDepth : Nat) (source : String) :
    (start maxDepth source).braces = bracesAfter 0 (start maxDepth source).current.kind := rfl

end MonkeySyntax
