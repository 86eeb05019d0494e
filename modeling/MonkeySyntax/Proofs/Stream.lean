import Mathlib.Data.Stream.Init
import MonkeySyntax.Parsing.State

/-!
# The stream of tokens ahead

A lexer can be asked for ever, so what it has to give is an infinite stream: the tokens of the
source, then the end marker again and again. A parser state is a window on the front of such a
stream, and `advance` is its tail. Everything a parser can learn about the source is in the stream,
so statements about parsing are statements about streams and never about characters.
-/

namespace MonkeySyntax

namespace Lexer

/-- All tokens from here on, the end marker repeated at the end. -/
def stream (lexer : Lexer) : Stream' Token := Stream'.corec (·.next.1) (·.next.2) lexer

theorem stream_eq_cons (lexer : Lexer) :
    lexer.stream = Stream'.cons lexer.next.1 lexer.next.2.stream :=
  Stream'.corec_eq _ _ _

theorem skipBlanks_of_rest_eq_nil {lexer : Lexer} (h : lexer.rest = []) :
    lexer.skipBlanks = lexer := by
  cases lexer
  simp_all [skipBlanks]

theorem next_next_of_eof {lexer : Lexer} (h : lexer.next.1.kind = .eof) :
    lexer.next.2.next = lexer.next := by
  have hrest : lexer.skipBlanks.rest = [] := read_kind_eq_eof_iff.mp h
  have hread : lexer.skipBlanks.read.2 = lexer.skipBlanks := by
    unfold read
    split
    · rfl
    · simp_all
  unfold next
  rw [hread, skipBlanks_of_rest_eq_nil hrest]

theorem stream_of_eof {lexer : Lexer} (h : lexer.next.1.kind = .eof) :
    lexer.stream = Stream'.const lexer.next.1 := by
  have hfixed : ∀ n, (Stream'.iterate (fun lexer : Lexer => lexer.next.2) lexer.next.2).get n
      = lexer.next.2 := by
    intro n
    induction n with
    | zero => rfl
    | succ n ih =>
        rw [Stream'.get_succ_iterate', ih, next_next_of_eof h]
  rw [stream_eq_cons]
  apply Stream'.ext
  intro n
  cases n with
  | zero => rfl
  | succ n =>
      rw [Stream'.get_succ_cons, Stream'.get_const, stream, Stream'.corec_def, Stream'.get_map,
        hfixed, next_next_of_eof h]

/-- The tokens of a lexer are its stream, cut after the first end marker. -/
theorem stream_of_tokens {lexer : Lexer} {ts : List Token} {last : Token}
    (h : lexer.tokens = ts ++ [last]) :
    lexer.stream = ts ++ₛ Stream'.const last ∧ (∀ t ∈ ts, t.kind ≠ .eof) ∧ last.kind = .eof := by
  induction ts generalizing lexer with
  | nil =>
      rw [tokens] at h
      split at h
      · rename_i heof
        obtain rfl : lexer.next.1 = last := by simpa using h
        exact ⟨stream_of_eof heof, by simp, heof⟩
      · rw [tokens] at h
        split at h <;> simp at h
  | cons t ts ih =>
      rw [tokens] at h
      split at h
      · simp at h
      · rename_i hreal
        obtain ⟨rfl, htail⟩ := List.cons.inj h
        obtain ⟨hstream, hts, hlast⟩ := ih htail
        refine ⟨?_, ?_, hlast⟩
        · rw [stream_eq_cons, hstream, Stream'.cons_append_stream]
        · intro t ht
          rcases List.mem_cons.mp ht with rfl | ht
          · exact hreal
          · exact hts t ht

theorem tokens_ne_nil (lexer : Lexer) : lexer.tokens ≠ [] := by
  rw [tokens]
  split <;> simp

theorem length_le_of_stream {lexer : Lexer} {ts : List Token} {rest : Stream' Token}
    (h : lexer.stream = ts ++ₛ rest) (hts : ∀ t ∈ ts, t.kind ≠ .eof) :
    ts.length ≤ lexer.rest.length := by
  induction ts generalizing lexer with
  | nil => simp
  | cons t ts ih =>
      rw [stream_eq_cons, Stream'.cons_append_stream] at h
      obtain ⟨rfl, htail⟩ := Stream'.cons_injective2 h
      have hlt := next_rest_length_lt (hts lexer.next.1 (by simp))
      have hle := ih htail fun t ht => hts t (by simp [ht])
      simp only [List.length_cons]
      omega

end Lexer

namespace ParseState

/-- The tokens from the current one on. -/
def stream (s : ParseState) : Stream' Token :=
  Stream'.cons s.current (Stream'.cons s.peek s.lexer.stream)

theorem head_stream (s : ParseState) : s.stream.head = s.current := rfl

theorem head_tail_stream (s : ParseState) : s.stream.tail.head = s.peek := rfl

@[simp]
theorem stream_advance (s : ParseState) : s.advance.stream = s.stream.tail := by
  unfold stream
  rw [Stream'.tail_cons, Lexer.stream_eq_cons s.lexer]
  rfl

@[simp]
theorem stream_record (s : ParseState) (fault : Fault) : (s.record fault).stream = s.stream := rfl

@[simp]
theorem stream_enter (s : ParseState) : s.enter.stream = s.stream := rfl

@[simp]
theorem stream_leave (s : ParseState) : s.leave.stream = s.stream := rfl

/-- The fuel of the parser's loops is enough for every token still ahead. -/
theorem length_le_remaining {s : ParseState} {ts : List Token} {rest : Stream' Token}
    (h : s.stream = ts ++ₛ rest) (hts : ∀ t ∈ ts, t.kind ≠ .eof) : ts.length ≤ s.remaining := by
  unfold stream at h
  unfold remaining
  match ts with
  | [] => simp
  | [t] =>
      rw [Stream'.cons_append_stream] at h
      obtain ⟨rfl, -⟩ := Stream'.cons_injective2 h
      simp [TokenKind.weight_of_ne (hts s.current (by simp))]
  | t :: u :: ts =>
      rw [Stream'.cons_append_stream, Stream'.cons_append_stream] at h
      obtain ⟨rfl, htail⟩ := Stream'.cons_injective2 h
      obtain ⟨rfl, hrest⟩ := Stream'.cons_injective2 htail
      have hle := Lexer.length_le_of_stream hrest fun t ht => hts t (by simp [ht])
      rw [TokenKind.weight_of_ne (hts s.current (by simp)),
        TokenKind.weight_of_ne (hts s.peek (by simp))]
      simp only [List.length_cons]
      omega

theorem length_le_remaining_of_tail {s : ParseState} {ts : List Token} {rest : Stream' Token}
    (h : s.stream.tail = ts ++ₛ rest) (hts : ∀ t ∈ ts, t.kind ≠ .eof) :
    ts.length ≤ s.remaining := by
  unfold stream at h
  unfold remaining
  match ts with
  | [] => simp
  | t :: ts =>
      rw [Stream'.tail_cons, Stream'.cons_append_stream] at h
      obtain ⟨rfl, hrest⟩ := Stream'.cons_injective2 h
      have hle := Lexer.length_le_of_stream hrest fun t ht => hts t (by simp [ht])
      rw [TokenKind.weight_of_ne (hts s.peek (by simp))]
      simp only [List.length_cons]
      omega

theorem stream_start (maxDepth : Nat) (source : String) :
    (start maxDepth source).stream = (Lexer.ofSource source).stream := by
  simp only [start, stream_advance]
  rfl

/-- What is ahead of a state in full: the tokens `ts`, none of them an end marker, and then the end
marker `last` for ever. -/
structure Sees (s : ParseState) (ts : List Token) (last : Token) : Prop where
  stream_eq : s.stream = ts ++ₛ Stream'.const last
  real : ∀ t ∈ ts, t.kind ≠ .eof
  last_eof : last.kind = .eof

namespace Sees

variable {s : ParseState} {t : Token} {ts : List Token} {last : Token}

theorem current_eq (h : s.Sees ts last) : s.current = ts.headD last := by
  rw [← s.head_stream, h.stream_eq]
  cases ts <;> rfl

theorem peek_eq (h : s.Sees ts last) : s.peek = ts.tail.headD last := by
  rw [← s.head_tail_stream, h.stream_eq]
  match ts with
  | [] | [_] | _ :: _ :: _ => rfl

theorem current_eof_iff (h : s.Sees ts last) : s.current.kind = .eof ↔ ts = [] := by
  rw [h.current_eq]
  cases ts with
  | nil => simp [h.last_eof]
  | cons t ts => simpa using h.real t (by simp)

theorem advance (h : s.Sees ts last) : s.advance.Sees ts.tail last := by
  refine ⟨?_, fun t ht => h.real t (List.mem_of_mem_tail ht), h.last_eof⟩
  rw [stream_advance, h.stream_eq]
  cases ts <;> rfl

theorem congr {u : ParseState} (h : s.Sees ts last) (hu : u.stream = s.stream) :
    u.Sees ts last :=
  ⟨hu.trans h.stream_eq, h.real, h.last_eof⟩

theorem length_le_remaining (h : s.Sees ts last) : ts.length ≤ s.remaining :=
  ParseState.length_le_remaining h.stream_eq h.real

end Sees

theorem start_sees {maxDepth : Nat} {source : String} {ts : List Token} {last : Token}
    (h : tokenize source = ts ++ [last]) : (start maxDepth source).Sees ts last := by
  obtain ⟨hstream, hreal, hlast⟩ := Lexer.stream_of_tokens h
  exact ⟨(stream_start maxDepth source).trans hstream, hreal, hlast⟩

end ParseState

theorem exists_tokenize_eq_append (source : String) :
    ∃ ts last, tokenize source = ts ++ [last] :=
  ⟨_, _, (List.dropLast_concat_getLast (Lexer.tokens_ne_nil _)).symm⟩

end MonkeySyntax
