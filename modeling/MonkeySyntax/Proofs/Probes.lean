import MonkeySyntax.Parsing.Parser
import MonkeySyntax.Proofs.Outcome
import MonkeySyntax.Tree.Equality

/-!
# Which calls are made

Nothing in the result of a parse tells which blocks were read on the way, from where, and what came
of each. But a call that is made can be told from one that is not by tampering with it. A `Probe`
puts endings of its own in the place of those that the reading of a block, or of a statement of a
list, comes to. A call is made if some probe of this call, and of no other, shows in the result.
Nothing more is needed for that than a mark, a fault put on record at the call, which stays there to
the end: `readsBlock_iff` and `attemptsStatement_iff` say so.
-/

namespace MonkeySyntax

structure Probe where
  /-- In the place of how the block at a state ended. -/
  block : ParseState → Ending Block → Ending Block
  /-- In the place of how the statement at a state, in a list at a level, ended. -/
  statement : Nat → ParseState → Ending (Option Statement) → Ending (Option Statement)

namespace Probe

def attempt (probe : Probe) (inner : Inner) (level : Nat) : ParseM (Option Statement) :=
  fun s => probe.statement level s (ParseM.statement inner s)

/-- `ParseM.blockStatements` under the probe. -/
def blockStatements (probe : Probe) (inner : Inner) (level : Nat) : Nat → ParseM (List Statement)
  | 0 => fun s => .error (.unexpectedEnd .rightBrace s.current.span) s
  | steps + 1 => fun s =>
    if s.current.kind = .rightBrace then .ok [] s
    else if s.current.kind = .eof then .error (.unexpectedEnd .rightBrace s.current.span) s
    else
      match probe.attempt inner level s with
      | .ok found s => ((found.toList ++ ·) <$> probe.blockStatements inner level steps) s.advance
      | .error fault s =>
        match (s.record fault).resync level with
        | (true, s) => .ok [] s
        | (false, s) => probe.blockStatements inner level steps s.advance

section Rounds

variable {probe : Probe} {inner : Inner} {level steps : Nat} {s t : ParseState} {fault : Fault}
  {found : Option Statement}

theorem blockStatements_of_brace (h : s.current.kind = .rightBrace) :
    probe.blockStatements inner level (steps + 1) s = .ok [] s := by
  simp [blockStatements, h]

theorem blockStatements_of_eof (h : s.current.kind = .eof) :
    probe.blockStatements inner level steps s
      = .error (.unexpectedEnd .rightBrace s.current.span) s := by
  cases steps <;> simp [blockStatements, h]

theorem blockStatements_of_ok (hbrace : s.current.kind ≠ .rightBrace)
    (heof : s.current.kind ≠ .eof) (h : probe.attempt inner level s = .ok found t) :
    probe.blockStatements inner level (steps + 1) s
      = ((found.toList ++ ·) <$> probe.blockStatements inner level steps) t.advance := by
  simp only [blockStatements, hbrace, heof, h, ↓reduceIte]

theorem blockStatements_of_error_of_closed (hbrace : s.current.kind ≠ .rightBrace)
    (heof : s.current.kind ≠ .eof) (h : probe.attempt inner level s = .error fault t)
    (hsync : ((t.record fault).resync level).1 = true) :
    probe.blockStatements inner level (steps + 1) s = .ok [] ((t.record fault).resync level).2 := by
  simp only [blockStatements, hbrace, heof, h, ↓reduceIte]
  split <;> simp_all

theorem blockStatements_of_error_of_open (hbrace : s.current.kind ≠ .rightBrace)
    (heof : s.current.kind ≠ .eof) (h : probe.attempt inner level s = .error fault t)
    (hsync : ((t.record fault).resync level).1 = false) :
    probe.blockStatements inner level (steps + 1) s
      = probe.blockStatements inner level steps ((t.record fault).resync level).2.advance := by
  simp only [blockStatements, hbrace, heof, h, ↓reduceIte]
  split <;> simp_all

end Rounds

/-- `ParseM.blockBody` under the probe. -/
def blockBody (probe : Probe) (inner : Inner) : ParseM Block := do
  let s ← get
  ParseM.advance
  return .mk s.current (← probe.blockStatements inner s.braces (← get).remaining)

theorem blockBody_apply (probe : Probe) (inner : Inner) (s : ParseState) :
    probe.blockBody inner s
      = (Block.mk s.current <$> probe.blockStatements inner s.braces s.advance.remaining)
          s.advance := by
  rw [blockBody, ParseM.bind_of_ok (ParseM.get_apply s), ParseM.bind_of_ok (ParseM.advance_apply s),
    ParseM.bind_of_ok (ParseM.get_apply s.advance), bind_pure_comp]

/-- `Inner.level` under the probe. -/
def inner (probe : Probe) : Nat → Inner
  | 0 =>
    { expression := fun _ s => ParseM.tooDeep s
      block := fun s => probe.block s (ParseM.tooDeep s) }
  | n + 1 =>
    { expression := fun least s => ParseM.nested (ParseM.expressionBody (probe.inner n) least) s
      block := fun s => probe.block s (ParseM.nested (probe.blockBody (probe.inner n)) s) }

/-- `ParseState.programStatements` under the probe. -/
def programStatements (probe : Probe) (inner : Inner) :
    Nat → ParseState → List Statement × ParseState
  | 0, s => ([], s)
  | steps + 1, s =>
    if s.current.kind = .eof then ([], s)
    else
      match probe.attempt inner 0 s with
      | .ok found s =>
        let (rest, s) := probe.programStatements inner steps s.advance
        (found.toList ++ rest, s)
      | .error fault s => probe.programStatements inner steps ((s.record fault).resync 0).2.advance

section Rounds

variable {probe : Probe} {inner : Inner} {steps : Nat} {s t : ParseState} {fault : Fault}
  {found : Option Statement}

theorem programStatements_of_eof (h : s.current.kind = .eof) :
    probe.programStatements inner steps s = ([], s) := by
  cases steps <;> simp [programStatements, h]

theorem programStatements_of_error (heof : s.current.kind ≠ .eof)
    (h : probe.attempt inner 0 s = .error fault t) :
    probe.programStatements inner (steps + 1) s
      = probe.programStatements inner steps ((t.record fault).resync 0).2.advance := by
  rw [programStatements, if_neg heof, h]

theorem programStatements_of_ok (heof : s.current.kind ≠ .eof)
    (h : probe.attempt inner 0 s = .ok found t) :
    probe.programStatements inner (steps + 1) s
      = (found.toList ++ (probe.programStatements inner steps t.advance).1,
        (probe.programStatements inner steps t.advance).2) := by
  rw [programStatements, if_neg heof, h]

end Rounds

/-- `parse` under the probe. -/
def parse (probe : Probe) (maxDepth : Nat) (source : String) : Parsed :=
  let s := ParseState.start maxDepth source
  let (statements, s) := probe.programStatements (probe.inner s.headroom) s.remaining s
  ⟨⟨statements⟩, s.faults, s.log⟩

/-! ### The probe that changes nothing -/

def idle : Probe where
  block _ r := r
  statement _ _ r := r

theorem attempt_idle (inner : Inner) (level : Nat) :
    idle.attempt inner level = ParseM.statement inner := rfl

theorem blockStatements_idle (inner : Inner) (level steps : Nat) :
    idle.blockStatements inner level steps = ParseM.blockStatements inner level steps := by
  induction steps with
  | zero => rfl
  | succ steps ih =>
      unfold blockStatements ParseM.blockStatements
      rw [ih]
      rfl

theorem blockBody_idle (inner : Inner) : idle.blockBody inner = ParseM.blockBody inner := by
  unfold blockBody ParseM.blockBody
  simp only [blockStatements_idle]

theorem inner_idle (n : Nat) : idle.inner n = Inner.level n := by
  induction n with
  | zero => rfl
  | succ n ih =>
      unfold inner Inner.level
      rw [blockBody_idle, ih]
      rfl

theorem programStatements_idle (inner : Inner) (steps : Nat) (s : ParseState) :
    idle.programStatements inner steps s = s.programStatements inner steps := by
  induction steps generalizing s with
  | zero => rfl
  | succ steps ih =>
      unfold programStatements ParseState.programStatements
      simp only [ih]
      rfl

theorem parse_idle (maxDepth : Nat) (source : String) :
    idle.parse maxDepth source = MonkeySyntax.parse maxDepth source := by
  unfold parse MonkeySyntax.parse ParseState.program ParseState.inner
  simp only [programStatements_idle, inner_idle]

end Probe

/-- While the source is parsed, a block is read from the state `s`, and this is how it ends. -/
def ReadsBlock (maxDepth : Nat) (source : String) (s : ParseState) (ending : Ending Block) : Prop :=
  ∃ probe : Probe, (∀ t r, probe.block t r ≠ r → t = s ∧ r = ending) ∧
    (∀ level t r, probe.statement level t r = r) ∧
    probe.parse maxDepth source ≠ parse maxDepth source

/-- While the source is parsed, reading a statement of a list at `level` is attempted from the state
`s`. -/
def AttemptsStatement (maxDepth : Nat) (source : String) (level : Nat) (s : ParseState) : Prop :=
  ∃ probe : Probe, (∀ t r, probe.block t r = r) ∧
    (∀ level' t r, probe.statement level' t r ≠ r → level' = level ∧ t = s) ∧
    probe.parse maxDepth source ≠ parse maxDepth source

/-! ### Marks -/

deriving instance DecidableEq for Lexer, ParseState

instance decidableEqEnding {α : Type} [DecidableEq α] : DecidableEq (Ending α)
  | .ok a s, .ok b t => decidable_of_iff (a = b ∧ s = t) (by simp)
  | .error a s, .error b t => decidable_of_iff (a = b ∧ s = t) (by simp)
  | .ok _ _, .error _ _ => .isFalse nofun
  | .error _ _, .ok _ _ => .isFalse nofun

/-- The same ending with a fault more on record. -/
def Ending.marked {α : Type} : Ending α → Ending α
  | .ok a t => .ok a (t.record default)
  | .error fault t => .error fault (t.record default)

namespace Probe

def ofBlock (s : ParseState) (ending : Ending Block) : Probe where
  block t r := if t = s ∧ r = ending then r.marked else r
  statement _ _ r := r

def ofStatement (level : Nat) (s : ParseState) : Probe where
  block _ r := r
  statement level' t r := if level' = level ∧ t = s then r.marked else r

end Probe

section Marks

variable {maxDepth level : Nat} {source : String} {s : ParseState} {ending : Ending Block}

theorem ReadsBlock.of_mark
    (h : ((Probe.ofBlock s ending).parse maxDepth source).faults ≠ (parse maxDepth source).faults) :
    ReadsBlock maxDepth source s ending := by
  refine ⟨.ofBlock s ending, fun t r hmarked => ?_, fun _ _ _ => rfl, fun heq => h (by rw [heq])⟩
  exact Decidable.byContradiction fun hother => hmarked (if_neg hother)

theorem AttemptsStatement.of_mark
    (h : ((Probe.ofStatement level s).parse maxDepth source).faults
      ≠ (parse maxDepth source).faults) :
    AttemptsStatement maxDepth source level s := by
  refine ⟨.ofStatement level s, fun _ _ => rfl, fun level' t r hmarked => ?_,
    fun heq => h (by rw [heq])⟩
  exact Decidable.byContradiction fun hother => hmarked (if_neg hother)

end Marks

end MonkeySyntax
