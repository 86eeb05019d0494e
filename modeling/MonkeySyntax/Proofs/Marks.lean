import MonkeySyntax.Proofs.Likeness
import MonkeySyntax.Proofs.Veracity

/-!
# Every call that is made can be marked

Whether a block is read from a state, or a statement attempted, is told by tampering with that call.
It takes no ingenuity to find out: a mark is enough, a fault put on record at the call that no
source has. A parser under a probe that marks a call does what any other one does that is tampered
with there and nowhere else, until it comes to the call. From then on the mark is on record, and
faults are never taken off it. So if tampering with the call makes a difference to the result, the
mark is there at the end.
-/

namespace MonkeySyntax

open ParseM

/-- What is tampered with on both sides. -/
theorem alike_tampered {l : Likeness} {α : Type} {m m' : ParseM α}
    {change change' : ParseState → Ending α → Ending α} (hm : Alike l m m')
    (hchange : ∀ s r, l.Agree (change s r) (change' s r))
    (hkeeps : ∀ s r, l.keeps r.state (change' s r).state) :
    Alike l (fun s => change s (m s)) (fun s => change' s (m' s)) := by
  constructor
  · exact fun s => l.passage.trans (hm.keeps s) (hkeeps s (m' s))
  · intro s hs
    rcases hm.same s hs with hsame | hshown
    · rw [hsame]
      exact hchange s (m' s)
    · exact .inr (l.shown_of_keeps hshown (hkeeps s (m' s)))

namespace Probe

/-- `marking` does what `probe` does or else puts the mark on record, and takes nothing off it. -/
structure Marks (marking probe : Probe) : Prop where
  block : ∀ s r, (Likeness.noted default).Agree (probe.block s r) (marking.block s r)
  statement : ∀ level s r,
    (Likeness.noted default).Agree (probe.statement level s r) (marking.statement level s r)
  keeps_block : ∀ s r, (Likeness.noted default).keeps r.state (marking.block s r).state
  keeps_statement : ∀ level s r,
    (Likeness.noted default).keeps r.state (marking.statement level s r).state

namespace Marks

variable {marking probe : Probe} (h : marking.Marks probe)
include h

theorem alike_attempt {inner inner' : Inner} (hinner : inner.Alike (.noted default) inner')
    (level : Nat) :
    Alike (.noted default) (probe.attempt inner level) (marking.attempt inner' level) :=
  alike_tampered (alike_statement hinner) (h.statement level) (h.keeps_statement level)

theorem alike_inner (n : Nat) : (probe.inner n).Alike (.noted default) (marking.inner n) := by
  have hrefl := (Likeness.noted default).passage.refl
  induction n with
  | zero =>
      have hdeep : Alike (.noted default) (tooDeep : ParseM Block) tooDeep := .refl hrefl
      exact ⟨fun _ => .refl hrefl, alike_tampered hdeep h.block h.keeps_block⟩
  | succ n ih =>
      have hbody := alike_probedBlockBody (h.alike_attempt ih)
      exact ⟨fun least => .nested_noted (alike_expressionBody ih least),
        alike_tampered (.nested_noted hbody) h.block h.keeps_block⟩

theorem parse_eq_or (maxDepth : Nat) (source : String) :
    probe.parse maxDepth source = marking.parse maxDepth source ∨
      default ∈ (marking.parse maxDepth source).faults := by
  let s := ParseState.start maxDepth source
  have hhere : (Likeness.noted default).here s := trivial
  have hattempt := h.alike_attempt (h.alike_inner s.headroom) 0
  refine (probedProgramStatements_eq_or hattempt s.remaining hhere).imp_left fun hrun => ?_
  exact congrArg (fun run : List Statement × ParseState =>
    (⟨⟨run.1⟩, run.2.faults, run.2.log⟩ : Parsed)) hrun

/-- Tampering that makes a difference makes it where the mark is put. -/
theorem mem_of_parse_ne {maxDepth : Nat} {source : String} (hidle : marking.Marks idle)
    (hne : probe.parse maxDepth source ≠ MonkeySyntax.parse maxDepth source) :
    default ∈ (marking.parse maxDepth source).faults := by
  by_contra hclean
  have hprobe := (h.parse_eq_or maxDepth source).resolve_right hclean
  have hplain := (hidle.parse_eq_or maxDepth source).resolve_right hclean
  rw [parse_idle] at hplain
  exact hne (hprobe.trans hplain.symm)

end Marks

section Marked

variable {α : Type} {p : Prop} [Decidable p]

theorem agree_marked {r other : Ending α} (h : other ≠ r → p) :
    (Likeness.noted default).Agree other (if p then r.marked else r) := by
  split
  · refine .inr ?_
    cases r <;> exact List.mem_append_right _ (List.mem_singleton_self _)
  · rename_i hp
    exact .inl (by_contra fun hne => hp (h hne))

theorem keeps_marked (r : Ending α) :
    (Likeness.noted default).keeps r.state (if p then r.marked else r).state := by
  intro hmem
  split
  · cases r <;> exact List.mem_append_left _ hmem
  · exact hmem

end Marked

variable {probe : Probe} {level : Nat} {s : ParseState} {ending : Ending Block}

theorem marks_ofBlock (hblock : ∀ t r, probe.block t r ≠ r → t = s ∧ r = ending)
    (hstatement : ∀ level t r, probe.statement level t r = r) : (ofBlock s ending).Marks probe where
  block t r := agree_marked (hblock t r)
  statement level t r := .inl (hstatement level t r)
  keeps_block _ r := keeps_marked r
  keeps_statement _ _ _ := id

theorem marks_ofStatement (hblock : ∀ t r, probe.block t r = r)
    (hstatement : ∀ level' t r, probe.statement level' t r ≠ r → level' = level ∧ t = s) :
    (ofStatement level s).Marks probe where
  block t r := .inl (hblock t r)
  statement level' t r := agree_marked (hstatement level' t r)
  keeps_block _ _ := id
  keeps_statement _ _ r := keeps_marked r

end Probe

section Calls

variable {maxDepth level : Nat} {source : String} {s : ParseState} {ending : Ending Block}

/-- The mark is none of the faults that a source can have. -/
theorem default_not_mem_faults (maxDepth : Nat) (source : String) :
    default ∉ (parse maxDepth source).faults := by
  intro hmem
  obtain ⟨token, -, -, -, -, hne, -⟩ := trueIn_of_mem_faults default hmem
  exact hne rfl

/-- **A block that is read can be marked.** A block is read from the state `s` and ends like this if
and only if a mark that is put on record there is on record at the end. -/
theorem readsBlock_iff : ReadsBlock maxDepth source s ending ↔
    default ∈ ((Probe.ofBlock s ending).parse maxDepth source).faults := by
  constructor
  · rintro ⟨probe, hblock, hstatement, hshows⟩
    have hmarks := Probe.marks_ofBlock hblock hstatement
    have hidle : (Probe.ofBlock s ending).Marks .idle :=
      Probe.marks_ofBlock (fun _ _ hne => absurd rfl hne) fun _ _ _ => rfl
    exact hmarks.mem_of_parse_ne hidle hshows
  · intro hmarked
    refine .of_mark fun heq => default_not_mem_faults maxDepth source ?_
    rwa [heq] at hmarked

/-- A statement is attempted from the state `s` in a list at `level` if and only if a mark that is
put on record there is on record at the end. -/
theorem attemptsStatement_iff : AttemptsStatement maxDepth source level s ↔
    default ∈ ((Probe.ofStatement level s).parse maxDepth source).faults := by
  constructor
  · rintro ⟨probe, hblock, hstatement, hshows⟩
    have hmarks := Probe.marks_ofStatement hblock hstatement
    have hidle : (Probe.ofStatement level s).Marks .idle :=
      Probe.marks_ofStatement (fun _ _ => rfl) fun _ _ _ hne => absurd rfl hne
    exact hmarks.mem_of_parse_ne hidle hshows
  · intro hmarked
    refine .of_mark fun heq => default_not_mem_faults maxDepth source ?_
    rwa [heq] at hmarked

end Calls

end MonkeySyntax
