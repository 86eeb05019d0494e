import MonkeySyntax.Parsing.StatementList

/-!
# How parsing steps end

A parsing step ends in a value or in a fault, and in a state either way. The equations below run a
step one primitive at a time. `bind_eq_ok_iff` and `map_eq_ok_iff` take a run that succeeded apart
into the runs it consists of. Lists of parameters and of arguments are read alike, which is what
`Enumeration` says; the loops over statements are run one round at a time.
-/

namespace MonkeySyntax

abbrev Ending (α : Type) := EStateM.Result Fault ParseState α

def Ending.state {α : Type} : Ending α → ParseState
  | .ok _ t => t
  | .error _ t => t

/-- A statement ends before, or with, a token of this kind. -/
def TokenKind.Stops (kind : TokenKind) : Prop :=
  kind = .semicolon ∨ kind = .rightBrace ∨ kind = .eof

namespace ParseM

variable {α β : Type} {m : ParseM α} {k : α → ParseM β} {f : α → β} {a : α} {b : β}
  {s t : ParseState} {fault : Fault}

theorem bind_apply (m : ParseM α) (k : α → ParseM β) (s : ParseState) :
    (m >>= k) s = match m s with
      | .ok a t => k a t
      | .error fault t => .error fault t := by
  simp only [bind, EStateM.bind]
  cases m s <;> rfl

theorem map_apply (f : α → β) (m : ParseM α) (s : ParseState) :
    (f <$> m) s = match m s with
      | .ok a t => .ok (f a) t
      | .error fault t => .error fault t := by
  simp only [Functor.map, EStateM.map]
  cases m s <;> rfl

theorem state_map (f : α → β) (m : ParseM α) (s : ParseState) :
    Ending.state ((f <$> m) s) = Ending.state (m s) := by
  rw [map_apply]
  cases m s <;> rfl

@[simp]
theorem pure_apply (a : α) (s : ParseState) : (pure a : ParseM α) s = .ok a s := rfl

@[simp]
theorem throw_apply (fault : Fault) (s : ParseState) :
    (throw fault : ParseM α) s = .error fault s := rfl

@[simp]
theorem get_apply (s : ParseState) : (get : ParseM ParseState) s = .ok s s := rfl

@[simp]
theorem current_apply (s : ParseState) : current s = .ok s.current s := rfl

@[simp]
theorem peek_apply (s : ParseState) : peek s = .ok s.peek s := rfl

@[simp]
theorem advance_apply (s : ParseState) : advance s = .ok () s.advance := rfl

theorem bind_of_ok (h : m s = .ok a t) : (m >>= k) s = k a t := by
  rw [bind_apply, h]

theorem bind_of_error (h : m s = .error fault t) : (m >>= k) s = .error fault t := by
  rw [bind_apply, h]

theorem map_of_ok (h : m s = .ok a t) : (f <$> m) s = .ok (f a) t := by
  rw [map_apply, h]

theorem expectPeek_of_kind {kind : TokenKind} (h : s.peek.kind = kind) :
    expectPeek kind s = .ok () s.advance := by
  rw [expectPeek, if_pos h]

theorem skipSemicolon_of_kind (h : s.peek.kind = .semicolon) :
    skipSemicolon s = .ok () s.advance := by
  simp [skipSemicolon, bind_apply, h]

theorem skipSemicolon_of_kind_ne (h : s.peek.kind ≠ .semicolon) :
    skipSemicolon s = .ok () s := by
  simp [skipSemicolon, bind_apply, h]

theorem bind_eq_ok_iff :
    (m >>= k) s = .ok b t ↔ ∃ a u, m s = .ok a u ∧ k a u = .ok b t := by
  rw [bind_apply]
  cases m s with
  | ok a u =>
      constructor
      · intro h
        exact ⟨a, u, rfl, h⟩
      · rintro ⟨_, _, heq, h⟩
        cases heq
        exact h
  | error fault u => simp

theorem map_eq_ok_iff : (f <$> m) s = .ok b t ↔ ∃ a, m s = .ok a t ∧ f a = b := by
  rw [map_apply]
  cases m s with
  | ok a u =>
      constructor
      · intro h
        cases h
        exact ⟨a, rfl, rfl⟩
      · rintro ⟨_, heq, rfl⟩
        cases heq
        rfl
  | error fault u => simp

theorem expectPeek_eq_ok_iff {kind : TokenKind} {value : Unit} :
    expectPeek kind s = .ok value t ↔ s.peek.kind = kind ∧ t = s.advance := by
  unfold expectPeek
  split <;> simp_all [eq_comm]

/-! ### Where a reader of expressions goes on -/

variable {inner : Inner} {steps : Nat}

theorem elseBranch_of_else (h : s.peek.kind = .kwElse) :
    elseBranch inner s = (some <$> braced inner) s.advance := by
  simp [elseBranch, bind_apply, h]

theorem elseBranch_of_else_ne (h : s.peek.kind ≠ .kwElse) : elseBranch inner s = .ok none s := by
  simp [elseBranch, bind_apply, h]

theorem integerLiteral_of_some {value : Int64} (h : s.current.integer? = some value) :
    integerLiteral s = .ok (.integer s.current value) s := by
  simp only [integerLiteral, bind_of_ok (current_apply s), h]
  rfl

theorem integerLiteral_of_none (h : s.current.integer? = none) :
    integerLiteral s = .error (.integerTooLarge s.current.literal s.current.span) s := by
  simp only [integerLiteral, bind_of_ok (current_apply s), h]
  rfl

theorem of_integerLiteral_eq_ok {expr : Expr} (h : integerLiteral s = .ok expr t) :
    s.current.kind = .integer ∧ decimalValue s.current.literal ≤ maxInteger ∧
      expr = .integer s.current (.ofNat (decimalValue s.current.literal)) ∧ t = s := by
  cases hvalue : s.current.integer? with
  | some value =>
      obtain ⟨hkind, hle, rfl⟩ := Token.integer?_eq_some_iff.mp hvalue
      rw [integerLiteral_of_some hvalue] at h
      cases h
      exact ⟨hkind, hle, rfl, rfl⟩
  | none =>
      rw [integerLiteral_of_none hvalue] at h
      cases h

theorem start_of_rule {rule : StartRule} (h : StartRule.ofKind? s.current.kind = some rule) :
    ParseM.start inner s = rule.parse inner s := by
  simp only [ParseM.start, bind_of_ok (current_apply s), h]

theorem start_of_none (h : StartRule.ofKind? s.current.kind = none) :
    ParseM.start inner s = .error s.current.startFault s := by
  simp only [ParseM.start, bind_of_ok (current_apply s), h]
  rfl

theorem continued_of_rule {least : Precedence} {left : Expr} {rule : ContinueRule}
    (h : s.peek.kind.continues least = true)
    (hrule : ContinueRule.ofKind? s.peek.kind = some rule) :
    continued inner least (steps + 1) left s
      = (rule.parse inner left >>= continued inner least steps) s.advance := by
  rw [continued, bind_of_ok (peek_apply s)]
  simp only [h, ↓reduceIte, hrule, bind_of_ok (advance_apply s)]

theorem continued_of_continues_eq_false {least : Precedence} {left : Expr}
    (h : s.peek.kind.continues least = false) :
    continued inner least steps left s = .ok left s := by
  cases steps with
  | zero => rfl
  | succ steps =>
      rw [continued, bind_of_ok (peek_apply s)]
      simp only [h]
      rfl

/-! ### Lists in parentheses -/

/-- How a list in parentheses is read: nothing at all, or an item and then one more behind each
comma. -/
structure Enumeration (item : ParseM α) (more : Nat → ParseM (List α)) (items : ParseM (List α)) :
    Prop where
  more_zero : ∀ {s}, more 0 s = .ok [] s
  more_of_comma : ∀ {steps s}, s.peek.kind = .comma →
    more (steps + 1) s = (do
      let first ← item
      return first :: (← more steps)) s.advance
  more_of_comma_ne : ∀ {steps s}, s.peek.kind ≠ .comma → more steps s = .ok [] s
  items_of_paren : ∀ {s}, s.peek.kind = .rightParen → items s = .ok [] s.advance
  items_of_paren_ne : ∀ {s}, s.peek.kind ≠ .rightParen →
    items s = (do
      let first ← item
      let rest ← more (← get).remaining
      expectPeek .rightParen
      return first :: rest) s

theorem enumeration_parameters : Enumeration parameter moreParameters parameters where
  more_zero := rfl
  more_of_comma {steps s} h := by
    rw [moreParameters, bind_of_ok (peek_apply s)]
    simp only [h, ↓reduceIte, bind_of_ok (advance_apply s)]
  more_of_comma_ne {steps s} h := by
    cases steps <;> simp [moreParameters, bind_apply, h]
  items_of_paren h := by simp [parameters, bind_apply, map_apply, h]
  items_of_paren_ne {s} h := by
    rw [parameters, bind_of_ok (peek_apply s)]
    simp only [h, ↓reduceIte]

/-- An argument, from the token before it. -/
def argument (inner : Inner) : ParseM Expr := do
  advance
  inner.expression .lowest

theorem argument_bind (k : Expr → ParseM β) (s : ParseState) :
    (argument inner >>= k) s = (inner.expression .lowest >>= k) s.advance := by
  rw [argument, bind_assoc, bind_of_ok (advance_apply s)]

theorem enumeration_arguments (inner : Inner) :
    Enumeration (argument inner) (moreArguments inner) (arguments inner) where
  more_zero := rfl
  more_of_comma {steps s} h := by
    rw [moreArguments, bind_of_ok (peek_apply s), argument_bind]
    simp only [h, ↓reduceIte, bind_of_ok (advance_apply s), bind_of_ok (advance_apply s.advance)]
  more_of_comma_ne {steps s} h := by
    cases steps <;> simp [moreArguments, bind_apply, h]
  items_of_paren h := by simp [arguments, bind_apply, h]
  items_of_paren_ne {s} h := by
    rw [arguments, bind_of_ok (advance_apply s), bind_of_ok (current_apply s.advance),
      argument_bind]
    simp only [s.current_advance, h, ↓reduceIte]

/-! ### Which reader a statement goes to -/

theorem statement_of_let (h : s.current.kind = .kwLet) :
    statement inner s = (some <$> letStatement inner) s := by
  simp [statement, bind_apply, h]

theorem statement_of_return (h : s.current.kind = .kwReturn) :
    statement inner s = (some <$> returnStatement inner) s := by
  simp [statement, bind_apply, h]

theorem statement_of_semicolon (h : s.current.kind = .semicolon) :
    statement inner s = .ok none s := by
  simp [statement, bind_apply, h]

theorem statement_of_other (hlet : s.current.kind ≠ .kwLet) (hreturn : s.current.kind ≠ .kwReturn)
    (hsemicolon : s.current.kind ≠ .semicolon) :
    statement inner s = (some <$> expressionStatement inner) s := by
  unfold statement
  rw [bind_of_ok (current_apply s)]
  cases hkind : s.current.kind <;> simp_all

theorem returnStatement_of_stops (h : s.peek.kind.Stops) :
    returnStatement inner s = ((fun _ => .result s.current none) <$> skipSemicolon) s := by
  unfold returnStatement
  rw [bind_of_ok (current_apply s), bind_of_ok (peek_apply s)]
  rcases h with h | h | h <;> simp [h]

theorem returnStatement_of_not_stops (h : ¬ s.peek.kind.Stops) :
    returnStatement inner s = (do
      let value ← inner.expression .lowest
      skipSemicolon
      return Statement.result s.current (some value)) s.advance := by
  unfold returnStatement
  rw [bind_of_ok (current_apply s), bind_of_ok (peek_apply s)]
  cases hkind : s.peek.kind <;> simp_all [TokenKind.Stops, bind_of_ok (advance_apply s)]

/-! ### One round of the loops over statements -/

variable {level : Nat} {found : Option Statement}

theorem blockStatements_of_brace (h : s.current.kind = .rightBrace) :
    blockStatements inner level (steps + 1) s = .ok [] s := by
  simp [blockStatements, h]

theorem blockStatements_of_eof (h : s.current.kind = .eof) :
    blockStatements inner level steps s
      = .error (.unexpectedEnd .rightBrace s.current.span) s := by
  cases steps <;> simp [blockStatements, h]

theorem blockStatements_of_ok (hbrace : s.current.kind ≠ .rightBrace)
    (heof : s.current.kind ≠ .eof) (h : statement inner s = .ok found t) :
    blockStatements inner level (steps + 1) s
      = ((found.toList ++ ·) <$> blockStatements inner level steps) t.advance := by
  simp only [blockStatements, hbrace, heof, h, ↓reduceIte]

theorem blockStatements_of_semicolon (h : s.current.kind = .semicolon) :
    blockStatements inner level (steps + 1) s = blockStatements inner level steps s.advance := by
  rw [blockStatements_of_ok (by simp [h]) (by simp [h]) (statement_of_semicolon h), map_apply]
  cases blockStatements inner level steps s.advance <;> rfl

/-- After a fault the block is over if the statement ran into its closing brace. -/
theorem blockStatements_of_error_of_closed (hbrace : s.current.kind ≠ .rightBrace)
    (heof : s.current.kind ≠ .eof) (h : statement inner s = .error fault t)
    (hsync : ((t.record fault).resync level).1 = true) :
    blockStatements inner level (steps + 1) s = .ok [] ((t.record fault).resync level).2 := by
  simp only [blockStatements, hbrace, heof, h, ↓reduceIte]
  split <;> simp_all

theorem blockStatements_of_error_of_open (hbrace : s.current.kind ≠ .rightBrace)
    (heof : s.current.kind ≠ .eof) (h : statement inner s = .error fault t)
    (hsync : ((t.record fault).resync level).1 = false) :
    blockStatements inner level (steps + 1) s
      = blockStatements inner level steps ((t.record fault).resync level).2.advance := by
  simp only [blockStatements, hbrace, heof, h, ↓reduceIte]
  split <;> simp_all

theorem blockBody_apply (inner : Inner) (s : ParseState) :
    blockBody inner s
      = (Block.mk s.current <$> blockStatements inner s.braces s.advance.remaining) s.advance := by
  rw [blockBody, bind_of_ok (get_apply s), bind_of_ok (advance_apply s),
    bind_of_ok (get_apply s.advance), bind_pure_comp]

theorem programStatements_of_eof (h : s.current.kind = .eof) :
    s.programStatements inner steps = ([], s) := by
  cases steps <;> simp [ParseState.programStatements, h]

theorem programStatements_of_error (heof : s.current.kind ≠ .eof)
    (h : statement inner s = .error fault t) :
    s.programStatements inner (steps + 1)
      = ((t.record fault).resync 0).2.advance.programStatements inner steps := by
  rw [ParseState.programStatements, if_neg heof, h]

theorem programStatements_of_ok (heof : s.current.kind ≠ .eof)
    (h : statement inner s = .ok found t) :
    s.programStatements inner (steps + 1)
      = (found.toList ++ (t.advance.programStatements inner steps).1,
        (t.advance.programStatements inner steps).2) := by
  rw [ParseState.programStatements, if_neg heof, h]

theorem programStatements_of_semicolon (h : s.current.kind = .semicolon) :
    s.programStatements inner (steps + 1) = s.advance.programStatements inner steps := by
  rw [programStatements_of_ok (by simp [h]) (statement_of_semicolon h)]
  rfl

/-- One round of the loop over the statements of a program. -/
def programRound (inner : Inner) (s : ParseState) : List Statement × ParseState :=
  match statement inner s with
  | .ok found t => (found.toList, t.advance)
  | .error fault t => ([], ((t.record fault).resync 0).2.advance)

theorem programRound_of_ok (h : statement inner s = .ok found t) :
    programRound inner s = (found.toList, t.advance) := by
  rw [programRound, h]

theorem programRound_of_error (h : statement inner s = .error fault t) :
    programRound inner s = ([], ((t.record fault).resync 0).2.advance) := by
  rw [programRound, h]

theorem programStatements_succ (heof : s.current.kind ≠ .eof) :
    s.programStatements inner (steps + 1)
      = ((programRound inner s).1 ++ ((programRound inner s).2.programStatements inner steps).1,
        ((programRound inner s).2.programStatements inner steps).2) := by
  cases hrun : statement inner s with
  | ok found t => rw [programRound_of_ok hrun, programStatements_of_ok heof hrun]
  | error fault t =>
      rw [programRound_of_error hrun, programStatements_of_error heof hrun]
      rfl

end ParseM

end MonkeySyntax
