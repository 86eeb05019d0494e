import Mathlib.Algebra.Group.Nat.Defs
import Mathlib.Data.List.DropRight
import MonkeySyntax.Proofs.Tiling

/-!
# Lines and columns

A place carries a line and a column that are counted on the way to it, one character at a time, in
words of 32 bits. They are what they would be if they were counted anew in the text before the
place: one more than its line feeds, and one more than the characters behind the last of them.
Since neither number exceeds the characters before the place by more than one, a text of fewer
characters than the greatest word has no place at which a counter overflows.
-/

namespace MonkeySyntax

/-- The characters behind the last line feed, or all of them if there is none. -/
def lastLine (before : List Char) : List Char := before.rtakeWhile (· ≠ '\n')

theorem lastLine_concat_newline (before : List Char) : lastLine (before ++ ['\n']) = [] :=
  List.rtakeWhile_concat_neg _ _ _ (by simp)

theorem lastLine_concat {c : Char} (hc : c ≠ '\n') (before : List Char) :
    lastLine (before ++ [c]) = lastLine before ++ [c] :=
  List.rtakeWhile_concat_pos _ _ _ (by simpa using hc)

theorem length_lastLine_le (before : List Char) : (lastLine before).length ≤ before.length :=
  (List.rtakeWhile_suffix _ before).length_le

namespace Position

/-- The line and the column are those behind the characters `before`. -/
structure Counts (before : List Char) (p : Position) : Prop where
  line_eq : p.line.toNat = 1 + before.count '\n'
  column_eq : p.column.toNat = 1 + (lastLine before).length

/-- Both counters can go up by one. -/
structure HasRoom (p : Position) : Prop where
  line : p.line.toNat + 1 < UInt32.size
  column : p.column.toNat + 1 < UInt32.size

theorem Counts.hasRoom {before : List Char} {p : Position} (h : p.Counts before)
    (hlength : before.length + 1 < UInt32.size - 1) : p.HasRoom := by
  have hline : before.count '\n' ≤ before.length := List.count_le_length
  have hcolumn := length_lastLine_le before
  constructor
  · rw [h.line_eq]
    omega
  · rw [h.column_eq]
    omega

theorem HasRoom.toNat_add_one {n : UInt32} (h : n.toNat + 1 < UInt32.size) :
    (n + 1).toNat = n.toNat + 1 := by
  rw [UInt32.toNat_add]
  exact Nat.mod_eq_of_lt h

/-- Reading one character keeps the counters in step with the text, unless they overflow. -/
theorem Counts.after {before : List Char} {p : Position} (h : p.Counts before) (hroom : p.HasRoom)
    (c : Char) : (p.after c).Counts (before ++ [c]) := by
  by_cases hc : c = '\n'
  · subst hc
    constructor
    · simp only [Position.after, ↓reduceIte]
      rw [HasRoom.toNat_add_one hroom.line, h.line_eq, List.count_append, List.count_singleton_self,
        Nat.add_assoc]
    · rw [lastLine_concat_newline]
      rfl
  · constructor
    · simp only [Position.after, hc, ↓reduceIte]
      rw [h.line_eq, List.count_append, List.count_singleton]
      simp [hc]
    · simp only [Position.after, hc, ↓reduceIte]
      rw [HasRoom.toNat_add_one hroom.column, h.column_eq, lastLine_concat hc, List.length_append,
        List.length_singleton, Nat.add_assoc]

theorem counts_afterAll (before : List Char) (h : before.length < UInt32.size - 1) :
    (Position.first.afterAll before).Counts before := by
  induction before using List.reverseRecOn with
  | nil => exact ⟨rfl, rfl⟩
  | append_singleton before c ih =>
      rw [List.length_append, List.length_singleton] at h
      have hbefore := ih (Nat.lt_of_succ_lt h)
      rw [afterAll_append]
      exact hbefore.after (hbefore.hasRoom h) c

end Position

/-- The line and the column of the span are those of the character that it starts at, or of the end
of the source. -/
def Span.Located (source : String) (span : Span) : Prop :=
  ∃ before rest, splitBytes source.toList span.start = some (before, rest) ∧
    span.line.toNat = 1 + before.count '\n' ∧ span.column.toNat = 1 + (lastLine before).length

theorem Span.located_between {source : String} (hlength : source.length < UInt32.size - 1)
    {before rest : List Char} (hsource : before ++ rest = source.toList) (stop : Position) :
    (Span.between (Position.first.afterAll before) stop).Located source := by
  have hle : before.length ≤ source.length := by
    rw [← String.length_toList, ← hsource, List.length_append]
    exact Nat.le_add_right _ _
  have hcounts := Position.counts_afterAll before (Nat.lt_of_le_of_lt hle hlength)
  have hoffset : (Position.first.afterAll before).offset = byteLength before := by
    rw [Position.offset_afterAll]
    exact Nat.zero_add _
  refine ⟨before, rest, ?_, hcounts.line_eq, hcounts.column_eq⟩
  simp only [Span.between, hoffset]
  rw [← hsource, splitBytes_append]

namespace Lexer

/-- The lexer is behind the characters `before` of the source. -/
structure Behind (source : String) (before : List Char) (lexer : Lexer) : Prop where
  source_eq : before ++ lexer.rest = source.toList
  position_eq : lexer.position = Position.first.afterAll before

variable {source : String} {before : List Char} {lexer : Lexer}

theorem Behind.next (h : lexer.Behind source before) :
    ∃ passed, lexer.next.2.Behind source (before ++ passed) := by
  obtain ⟨passed, hrest, hposition⟩ := exists_passed lexer
  refine ⟨passed, ?_, ?_⟩
  · rw [List.append_assoc, ← hrest, h.source_eq]
  · rw [hposition, h.position_eq, Position.afterAll_append]

/-- The next token, or the end marker, starts behind the blanks that are skipped. -/
theorem Behind.exists_start (h : lexer.Behind source before) :
    ∃ gap rest stop, (before ++ gap) ++ rest = source.toList ∧
      lexer.next.1.span = .between (Position.first.afterAll (before ++ gap)) stop := by
  rcases blank_or_exists_gap lexer.rest with hblank | ⟨gap, c, cs, hrest, hgap, hc⟩
  · rw [next_of_blank hblank, h.position_eq, ← Position.afterAll_append]
    refine ⟨lexer.rest, [], _, ?_, rfl⟩
    rw [List.append_nil, h.source_eq]
  · rw [next_of_gap hrest hgap hc, h.position_eq, ← Position.afterAll_append]
    refine ⟨gap, c :: cs, _, ?_, rfl⟩
    rw [List.append_assoc, ← hrest, h.source_eq]

theorem Behind.located_next (h : lexer.Behind source before)
    (hlength : source.length < UInt32.size - 1) : lexer.next.1.span.Located source := by
  obtain ⟨gap, rest, stop, hsource, hspan⟩ := h.exists_start
  rw [hspan]
  exact Span.located_between hlength hsource stop

theorem Behind.located_take (h : lexer.Behind source before)
    (hlength : source.length < UInt32.size - 1) (n : Nat) :
    (∀ t ∈ (lexer.take n).1, t.span.Located source) ∧
      ∃ passed, (lexer.take n).2.Behind source (before ++ passed) := by
  induction n generalizing lexer before with
  | zero => exact ⟨by simp [take], [], by rwa [List.append_nil]⟩
  | succ n ih =>
      obtain ⟨passed, hnext⟩ := h.next
      obtain ⟨hrest, more, hbehind⟩ := ih hnext
      refine ⟨List.forall_mem_cons.mpr ⟨h.located_next hlength, hrest⟩, passed ++ more, ?_⟩
      rwa [← List.append_assoc]

theorem Behind.located_tokens (h : lexer.Behind source before)
    (hlength : source.length < UInt32.size - 1) : ∀ t ∈ lexer.tokens, t.span.Located source := by
  fun_induction Lexer.tokens lexer generalizing before with
  | case1 lexer =>
      rw [List.forall_mem_singleton]
      exact h.located_next hlength
  | case2 lexer _ ih =>
      obtain ⟨passed, hnext⟩ := h.next
      exact List.forall_mem_cons.mpr ⟨h.located_next hlength, ih hnext⟩

end Lexer

/-- **Lines and columns agree with offsets.** In a source of fewer than `2 ^ 32 - 1` characters,
every token, and the end marker as often as it is asked for, has the line and the column that the
text before its first byte gives it. The counters of the lexer agree with the text wherever it
stops, and no character is read while one of them is at its greatest value. -/
theorem coordinates_agree_with_offsets (source : String) (h : source.length < 2 ^ 32 - 1) :
    (∀ t ∈ tokenize source, t.span.Located source) ∧
      (∀ n, (∀ t ∈ ((Lexer.ofSource source).take n).1, t.span.Located source) ∧
        ∃ before, before ++ ((Lexer.ofSource source).take n).2.rest = source.toList ∧
          ((Lexer.ofSource source).take n).2.position = Position.first.afterAll before ∧
          ((Lexer.ofSource source).take n).2.position.Counts before) ∧
      ∀ before c rest, before ++ c :: rest = source.toList →
        (Position.first.afterAll before).HasRoom := by
  have hstart : (Lexer.ofSource source).Behind source [] := ⟨rfl, rfl⟩
  refine ⟨hstart.located_tokens h, fun n => ?_, fun before c rest hsource => ?_⟩
  · obtain ⟨htokens, before, hbehind⟩ := hstart.located_take h n
    refine ⟨htokens, before, hbehind.source_eq, hbehind.position_eq, ?_⟩
    have hlength := congrArg List.length hbehind.source_eq
    rw [List.length_append, String.length_toList] at hlength
    rw [hbehind.position_eq]
    refine Position.counts_afterAll before (Nat.lt_of_le_of_lt ?_ h)
    exact Nat.le_of_add_right_le (Nat.le_of_eq hlength)
  · have hlength := congrArg List.length hsource
    rw [List.length_append, List.length_cons, String.length_toList] at hlength
    have hbefore : before.length + 1 < UInt32.size - 1 := Nat.lt_of_le_of_lt (by omega) h
    exact (Position.counts_afterAll before (Nat.lt_of_succ_lt hbefore)).hasRoom hbefore

/-- The end marker, asked for twice, behind letters of two bytes and a trailing line feed. -/
theorem coordinates_agree_with_offsets_of_markers :
    "é\r\n\tß\n".length < 2 ^ 32 - 1 ∧
      ((Lexer.ofSource "é\r\n\tß\n").take 4).1.map (·.span)
        = [⟨0, 2, 1, 1⟩, ⟨5, 7, 2, 2⟩, ⟨8, 8, 3, 1⟩, ⟨8, 8, 3, 1⟩] ∧
      (Span.mk 5 7 2 2).Located "é\r\n\tß\n" ∧ (Span.mk 8 8 3 1).Located "é\r\n\tß\n" := by
  have hlength : "é\r\n\tß\n".length < 2 ^ 32 - 1 := by decide
  obtain ⟨-, htake, -⟩ := coordinates_agree_with_offsets "é\r\n\tß\n" hlength
  have htokens := (htake 4).1
  refine ⟨hlength, by decide +kernel, ?_, ?_⟩
  · exact htokens ⟨.illegal, "ß", ⟨5, 7, 2, 2⟩⟩ (by decide +kernel)
  · exact htokens ⟨.eof, "", ⟨8, 8, 3, 1⟩⟩ (by decide +kernel)

end MonkeySyntax
