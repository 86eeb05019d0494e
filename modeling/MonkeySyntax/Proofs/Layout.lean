import MonkeySyntax.Proofs.Canonical
import MonkeySyntax.Proofs.FaultOrder
import MonkeySyntax.Proofs.Firewall

/-!
# Layout does not matter

White space decides where tokens are, and the parser copies these places into every tree and every
fault. It never looks at them. Sources with the same tokens at other places give the same program
and the same faults at other places, and each fault blames the token in one source that it blames in
the other.

The two parsers run in lockstep up to a translation of places, which can be any function that takes
the places of the tokens of one source to those of the other. That the blame is always on some token
comes from the freedom in this choice: a source can be compared with itself under a function that
moves every place except those of its tokens, and that leaves its faults where they are.
-/

namespace MonkeySyntax

variable {maxDepth : Nat} {a b source : String}

/-- Tokens that are the same up to a translation of places give the same program and the same faults
up to it. -/
theorem parse_of_tokenize_eq_map (maxDepth : Nat) {place : Span → Span}
    (h : tokenize b = (tokenize a).map (·.relocate place)) :
    (parse maxDepth b).program.statements
        = (parse maxDepth a).program.statements.map (·.relocate place) ∧
      (parse maxDepth b).faults = (parse maxDepth a).faults.map (Fault.relocate place) := by
  obtain ⟨ts, last, htokens⟩ := exists_tokenize_eq_append a
  obtain ⟨-, -, hlast⟩ := Lexer.stream_of_tokens htokens
  rw [htokens, List.map_append] at h
  have hsees : (ParseState.start maxDepth a).Sees ts last := ParseState.start_sees htokens
  have hsees' : (ParseState.start maxDepth b).Sees _ (last.relocate place) :=
    ParseState.start_sees h
  have hmirrors : (Copy.toEnd place last [] hlast).Mirrors ts (.start maxDepth a)
      (.start maxDepth b) := by
    refine .of_starts hsees ?_ (fun t _ => .relocate place t) ⟨rfl, rfl, rfl⟩
      (ParseState.braces_start _ _) (ParseState.braces_start _ _) (.inl hlast) (.inl rfl)
    rw [hsees'.stream_eq, Stream'.const_eq]
    rfl
  have hsteps' : ts.length ≤ (ParseState.start maxDepth b).remaining := by
    simpa using hsees'.length_le_remaining
  obtain ⟨hstatements, hagrees⟩ := hmirrors.program_of_eof (Inner.mirrored_level _ maxDepth) rfl
    hlast hsees.length_le_remaining hsteps'
  exact ⟨hstatements, hagrees.faults_eq⟩

/-! ### The tokens that faults blame -/

def spans (source : String) : List Span := (tokenize source).map Token.span

theorem nodup_spans (source : String) : (spans source).Nodup := by
  refine List.pairwise_map.mpr ((pairwise_start_tokenize source).imp ?_)
  intro t u hlt heq
  exact absurd (congrArg Span.start heq) (Nat.ne_of_lt hlt)

/-- Moves every place but those in the list. -/
def Span.movedUnless (fixed : List Span) (span : Span) : Span :=
  if span ∈ fixed then span else { span with start := span.start + 1 }

theorem Span.movedUnless_eq_self_iff {fixed : List Span} {span : Span} :
    span.movedUnless fixed = span ↔ span ∈ fixed := by
  unfold movedUnless
  split
  · simp_all
  · have hmoved : { span with start := span.start + 1 } ≠ span := by
      intro heq
      have hstart := congrArg Span.start heq
      simp at hstart
    simp_all

/-- The blame is always on a token. -/
theorem span_mem_spans {fault : Fault} (h : fault ∈ (parse maxDepth source).faults) :
    fault.span ∈ spans source := by
  -- The source is compared with itself, where all places but those of its tokens are moved.
  have htokens : (tokenize source).map (·.relocate (Span.movedUnless (spans source)))
      = (tokenize source).map id := by
    apply List.map_congr_left
    intro t ht
    have hspan : t.span ∈ spans source := List.mem_map_of_mem ht
    rw [Token.relocate, Span.movedUnless_eq_self_iff.mpr hspan, id]
  rw [List.map_id] at htokens
  obtain ⟨-, hfaults⟩ := parse_of_tokenize_eq_map maxDepth htokens.symm
  have hid := hfaults.symm.trans (List.map_id _).symm
  have hfault : fault.relocate (Span.movedUnless (spans source)) = fault :=
    List.map_inj_left.mp hid fault h
  apply Span.movedUnless_eq_self_iff.mp
  calc fault.span.movedUnless (spans source)
      = (fault.relocate (Span.movedUnless (spans source))).span := (Fault.span_relocate _ _).symm
    _ = fault.span := by rw [hfault]

/-! ### Two sources -/

/-- The place in `b` of the token whose place in `a` is given. -/
def Span.matching (a b : String) (span : Span) : Span :=
  (spans b).getD ((spans a).idxOf span) .zero

theorem Span.matching_of_getElem? {k : Nat} {span span' : Span} (h : (spans a)[k]? = some span)
    (h' : (spans b)[k]? = some span') : span.matching a b = span' := by
  obtain ⟨hk, rfl⟩ := List.getElem?_eq_some_iff.mp h
  rw [matching, (nodup_spans a).idxOf_getElem k hk, List.getD_eq_getElem?_getD, h',
    Option.getD_some]

/-- Tokens with the same content differ by their places alone. -/
theorem tokenize_eq_map_matching
    (h : (tokenize a).map Token.content = (tokenize b).map Token.content) :
    tokenize b = (tokenize a).map (·.relocate (Span.matching a b)) := by
  have hlength : (tokenize a).length = (tokenize b).length := by
    simpa using congrArg List.length h
  apply List.ext_getElem
  · simp [hlength]
  · intro k hk hk'
    have hka : k < (tokenize a).length := hlength ▸ hk
    have hcontent : (tokenize a)[k].content = (tokenize b)[k].content := by
      have hget := congrArg (·[k]?) h
      simpa [hk, hka] using hget
    obtain ⟨hkind, hliteral⟩ := Prod.mk.inj hcontent
    have hspan : (tokenize a)[k].span.matching a b = (tokenize b)[k].span := by
      apply Span.matching_of_getElem? (k := k)
      · simp [spans, hka]
      · simp [spans, hk]
    rw [List.getElem_map, Token.relocate, hspan, hkind, hliteral]

/-- The fault blames the token with index `k`. -/
def Fault.BlamesAt (source : String) (k : Nat) (fault : Fault) : Prop :=
  (spans source)[k]? = some fault.span

theorem Fault.BlamesAt.unique {fault : Fault} {k i : Nat} (hk : fault.BlamesAt source k)
    (hi : fault.BlamesAt source i) : i = k := by
  obtain ⟨hlt, -⟩ := List.getElem?_eq_some_iff.mp hi
  exact (List.getElem?_inj hlt (nodup_spans source)).mp (hi.trans hk.symm)

theorem exists_blamesAt (h : (tokenize a).map Token.content = (tokenize b).map Token.content)
    {fault : Fault} (hfault : fault ∈ (parse maxDepth a).faults) :
    ∃ k, fault.BlamesAt a k ∧ (fault.relocate (Span.matching a b)).BlamesAt b k := by
  obtain ⟨k, hk⟩ := List.getElem?_of_mem (span_mem_spans hfault)
  have hlength : (spans a).length = (spans b).length := by
    simpa [spans] using congrArg List.length h
  obtain ⟨hlt, -⟩ := List.getElem?_eq_some_iff.mp hk
  have hk' : (spans b)[k]? = some (spans b)[k] := List.getElem?_eq_getElem (hlength ▸ hlt)
  refine ⟨k, hk, ?_⟩
  rw [Fault.BlamesAt, Fault.span_relocate, Span.matching_of_getElem? hk hk', hk']

def Program.relocate (place : Span → Span) (program : Program) : Program :=
  ⟨relocateStatements place program.statements⟩

theorem Program.relocate_erased_relocate (place : Span → Span) (program : Program) :
    (program.relocate place).relocate Span.erased = program.relocate Span.erased :=
  congrArg Program.mk (relocateStatements_relocateStatements place Span.erased program.statements)

theorem Program.text_relocate (place : Span → Span) (program : Program) :
    (program.relocate place).text = program.text :=
  statementsText_relocate place program.statements

/-- **Layout does not matter.** Where two sources have the same tokens up to places, they have the
same program up to places, so the same text, and the same faults up to places. Faults that
correspond to each other blame the tokens of the same index, each in its own source. -/
theorem parse_layout_independent (maxDepth : Nat) (a b : String)
    (h : (tokenize a).map Token.content = (tokenize b).map Token.content) :
    (parse maxDepth a).program.relocate Span.erased
        = (parse maxDepth b).program.relocate Span.erased ∧
      (parse maxDepth a).program.text = (parse maxDepth b).program.text ∧
      (parse maxDepth a).faults.map (Fault.relocate Span.erased)
        = (parse maxDepth b).faults.map (Fault.relocate Span.erased) ∧
      List.Forall₂ (fun f g => ∃ k, (∀ i, f.BlamesAt a i ↔ i = k) ∧ ∀ i, g.BlamesAt b i ↔ i = k)
        (parse maxDepth a).faults (parse maxDepth b).faults := by
  obtain ⟨hstatements, hfaults⟩ := parse_of_tokenize_eq_map maxDepth (tokenize_eq_map_matching h)
  have hprogram : (parse maxDepth b).program
      = (parse maxDepth a).program.relocate (Span.matching a b) := by
    rw [Program.relocate, relocateStatements_eq_map, ← hstatements]
  rw [hprogram, hfaults]
  refine ⟨?_, ?_, ?_, ?_⟩
  · exact (Program.relocate_erased_relocate _ _).symm
  · exact (Program.text_relocate _ _).symm
  · rw [List.map_map]
    apply List.map_congr_left
    intro fault _
    exact (Fault.relocate_relocate (Span.matching a b) Span.erased fault).symm
  · rw [List.forall₂_map_right_iff, List.forall₂_same]
    intro fault hfault
    obtain ⟨k, hk, hk'⟩ := exists_blamesAt h hfault
    refine ⟨k, fun i => ⟨hk.unique, ?_⟩, fun i => ⟨hk'.unique, ?_⟩⟩
    · rintro rfl
      exact hk
    · rintro rfl
      exact hk'

/-- A statement with a fault and a call with another one, in one line and in four. -/
theorem parse_layout_independent_of_lines :
    (tokenize "let x = ; f(1 2) + 3").map Token.content
        = (tokenize "let x\n=;\n\tf( 1\n2)+3 ").map Token.content ∧
      (parse 9 "let x = ; f(1 2) + 3").faults.length = 2 ∧
      List.Forall₂
        (fun f g => ∃ k, (∀ i, f.BlamesAt "let x = ; f(1 2) + 3" i ↔ i = k) ∧
          ∀ i, g.BlamesAt "let x\n=;\n\tf( 1\n2)+3 " i ↔ i = k)
        (parse 9 "let x = ; f(1 2) + 3").faults (parse 9 "let x\n=;\n\tf( 1\n2)+3 ").faults :=
  have hcontent : (tokenize "let x = ; f(1 2) + 3").map Token.content
      = (tokenize "let x\n=;\n\tf( 1\n2)+3 ").map Token.content := by decide +kernel
  ⟨hcontent, by decide +kernel, (parse_layout_independent 9 _ _ hcontent).2.2.2⟩

end MonkeySyntax
