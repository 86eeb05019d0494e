import MonkeySyntax.Proofs.Conduct
import MonkeySyntax.Proofs.Recursion
import MonkeySyntax.Proofs.Selection

/-!
# Parsing comes to an end

The loops of the parser are given a number of rounds when they start. They do not need it. A loop is
looked at here as what one round of it does, with no bound on the rounds, and it is shown to end of
itself, with what the parser has as its result. A round that goes on has passed a token, and of
these there are only so many; where a round stays at the end of the source, the next one is the
last.

Every statement that is kept and every fault takes a token of its own, so together there are not
more of them than tokens.
-/

namespace MonkeySyntax

open ParseM

/-! ### Loops without a bound -/

/-- What a round of a loop comes to: the loop is over, or it goes on. -/
inductive Round (σ ρ : Type) where
  | ends (result : ρ)
  | again (next : σ)

/-- The loop comes to an end, with a result. -/
inductive Halts {σ ρ : Type} (round : σ → Round σ ρ) : σ → ρ → Prop where
  | ends {state : σ} {result : ρ} (h : round state = .ends result) : Halts round state result
  | again {state next : σ} {result : ρ} (h : round state = .again next)
      (rest : Halts round next result) : Halts round state result

theorem Halts.exists_ends {σ ρ : Type} {round : σ → Round σ ρ} {state : σ} {result : ρ}
    (h : Halts round state result) : ∃ last, round last = .ends result := by
  induction h with
  | ends h => exact ⟨_, h⟩
  | again _ _ ih => exact ih

/-- A list in parentheses, with what is read of it so far: the next item is behind a comma. -/
def moreRound {α : Type} (item : ParseM α) :
    List α × ParseState → Round (List α × ParseState) (Ending (List α))
  | (list, s) =>
    if s.peek.kind = .comma then
      match item s.advance with
      | .ok a t => .again (list ++ [a], t)
      | .error fault t => .ends (.error fault t)
    else .ends (.ok list s)

/-- An expression, with what is read of it so far: the next token may continue it. -/
def continueRound (inner : Inner) (least : Precedence) :
    Expr × ParseState → Round (Expr × ParseState) (Ending Expr)
  | (left, s) =>
    if s.peek.kind.continues least then
      match ContinueRule.ofKind? s.peek.kind with
      | none => .ends (.ok left s)
      | some rule =>
        match rule.parse inner left s.advance with
        | .ok longer t => .again (longer, t)
        | .error fault t => .ends (.error fault t)
    else .ends (.ok left s)

/-- A list in braces, with what is read of it so far. -/
def blockRound (inner : Inner) (level : Nat) :
    List Statement × ParseState → Round (List Statement × ParseState) (Ending (List Statement))
  | (list, s) =>
    if s.current.kind = .rightBrace then .ends (.ok list s)
    else if s.current.kind = .eof then .ends (.error (.unexpectedEnd .rightBrace s.current.span) s)
    else
      match statement inner s with
      | .ok found t => .again (list ++ found.toList, t.advance)
      | .error fault t =>
        match (t.record fault).resync level with
        | (true, u) => .ends (.ok list u)
        | (false, u) => .again (list, u.advance)

/-- A program, with what is read of it so far. -/
def statementsRound (inner : Inner) :
    List Statement × ParseState → Round (List Statement × ParseState) (List Statement × ParseState)
  | (list, s) =>
    if s.current.kind = .eof then .ends (list, s)
    else .again (list ++ (programRound inner s).1, (programRound inner s).2)

/-- A statement that is being skipped. -/
def resyncRound (level : Nat) (s : ParseState) : Round ParseState (Bool × ParseState) :=
  if s.current.kind = .eof then .ends (false, s)
  else if s.current.kind = .rightBrace ∧ s.braces < level then .ends (true, s)
  else if s.braces = level ∧ (s.current.kind = .semicolon ∨ s.peek.kind.endsBefore level) then
    .ends (false, s)
  else .again s.advance

theorem halts_resync (level : Nat) (s : ParseState) :
    Halts (resyncRound level) s (s.resync level) := by
  fun_induction ParseState.resync level s with
  | case1 s heof => exact .ends (if_pos heof)
  | case2 s heof hclosing => exact .ends ((if_neg heof).trans (if_pos hclosing))
  | case3 s heof hclosing hend =>
      exact .ends ((if_neg heof).trans ((if_neg hclosing).trans (if_pos hend)))
  | case4 s heof hclosing hend ih =>
      exact .again ((if_neg heof).trans ((if_neg hclosing).trans (if_neg hend))) ih

/-! ### The tokens that a round passes -/

theorem ParseState.Ends.of_leads {s t : ParseState} (h : s.Ends) (hleads : s.Leads t) : t.Ends := by
  obtain ⟨ts, last, hsees⟩ := h
  obtain ⟨us, -, hsees'⟩ := hleads ts last hsees
  exact ⟨us, last, hsees'⟩

/-- A round that passes the next token, which is not the end, leaves fewer tokens to pass. -/
theorem remaining_lt_of_peek {s t : ParseState} (h : s.Ends) (hpeek : s.peek.kind ≠ .eof)
    (hle : t.remaining ≤ s.advance.remaining) : t.remaining < s.remaining := by
  have hreal : s.current.kind ≠ .eof := fun heof => hpeek (h.peek_eof heof)
  exact Nat.lt_of_le_of_lt hle (ParseState.remaining_advance_lt hreal)

theorem peek_eof_of_remaining_le_zero {s : ParseState} (h : s.remaining ≤ 0) :
    s.peek.kind = .eof := by
  by_contra hreal
  have hweight := TokenKind.weight_of_ne hreal
  simp only [ParseState.remaining] at h
  omega

section Loops

variable {inner : Inner} {s : ParseState} {steps : Nat}

/-- What is read so far stands before what the parser would read from here on. -/
theorem halts_more {α : Type} {item : ParseM α} {more : Nat → ParseM (List α)}
    {items : ParseM (List α)} (henum : Enumeration item more items)
    (hremaining : item.Keeps fun s t => t.remaining ≤ s.remaining)
    (hleads : item.Keeps ParseState.Leads) (hends : s.Ends) (hsteps : s.remaining ≤ steps)
    (list : List α) : Halts (moreRound item) (list, s) (((list ++ ·) <$> more steps) s) := by
  induction steps generalizing s list with
  | zero =>
      have hpeek := peek_eof_of_remaining_le_zero hsteps
      rw [map_of_ok henum.more_zero, List.append_nil]
      exact .ends (if_neg (by simp [hpeek]))
  | succ steps ih =>
      by_cases hkind : s.peek.kind = .comma
      · rw [map_apply, henum.more_of_comma hkind]
        cases hrun : item s.advance with
        | ok a t =>
            have hlt := remaining_lt_of_peek hends (by simp [hkind]) (hremaining.of_ok hrun)
            have hrest := ih (hends.advance.of_leads (hleads.of_ok hrun)) (by omega) (list ++ [a])
            have hround : moreRound item (list, s) = .again (list ++ [a], t) := by
              simp only [moreRound, hkind, ↓reduceIte, hrun]
            refine .again hround ?_
            rw [bind_of_ok hrun, bind_apply]
            rw [map_apply] at hrest
            cases hmore : more steps t <;> simpa [hmore] using hrest
        | error fault t =>
            rw [bind_of_error hrun]
            exact .ends (by simp only [moreRound, hkind, ↓reduceIte, hrun])
      · rw [map_of_ok (henum.more_of_comma_ne hkind), List.append_nil]
        exact .ends (if_neg hkind)

variable (hremaining : inner.Keeps fun s t => t.remaining ≤ s.remaining)
  (hleads : inner.Keeps ParseState.Leads)
include hremaining hleads

theorem halts_continued (least : Precedence) (hends : s.Ends) (hsteps : s.remaining ≤ steps)
    (left : Expr) :
    Halts (continueRound inner least) (left, s) (continued inner least steps left s) := by
  induction steps generalizing s left with
  | zero =>
      have hpeek := peek_eof_of_remaining_le_zero hsteps
      have hcontinues : s.peek.kind.continues least = false :=
        Bool.eq_false_iff.mpr fun h => TokenKind.ne_eof_of_continues h hpeek
      rw [continued_of_continues_eq_false hcontinues]
      exact .ends (by simp [continueRound, hcontinues])
  | succ steps ih =>
      cases hcontinues : s.peek.kind.continues least with
      | false =>
          rw [continued_of_continues_eq_false hcontinues]
          exact .ends (by simp [continueRound, hcontinues])
      | true =>
          obtain ⟨rule, hrule⟩ := ContinueRule.exists_of_continues hcontinues
          have hpeek := TokenKind.ne_eof_of_continues hcontinues
          rw [continued_of_rule hcontinues hrule]
          cases hrun : rule.parse inner left s.advance with
          | ok longer t =>
              have hle := (Passage.remaining.continueRule hremaining left rule).of_ok hrun
              have hlt := remaining_lt_of_peek hends hpeek hle
              have hends' := hends.advance.of_leads
                ((Passage.leads.continueRule hleads left rule).of_ok hrun)
              rw [bind_of_ok hrun]
              refine .again ?_ (ih hends' (by omega) longer)
              simp only [continueRound, hcontinues, ↓reduceIte, hrule, hrun]
          | error fault t =>
              rw [bind_of_error hrun]
              exact .ends (by simp only [continueRound, hcontinues, ↓reduceIte, hrule, hrun])

/-- Behind a statement that was read there is less to pass, or it is the end. -/
theorem next_of_ok {found : Option Statement} {t : ParseState} (hends : s.Ends)
    (hfuel : Fueled (steps + 1) s) (heof : s.current.kind ≠ .eof)
    (hrun : statement inner s = .ok found t) : t.advance.Ends ∧ Fueled steps t.advance := by
  have hends' := hends.of_leads ((Passage.leads.statement hleads).of_ok hrun)
  have hle := (Passage.remaining.statement hremaining).of_ok hrun
  exact ⟨hends'.advance, hfuel.next heof hle hends'⟩

/-- So it is behind a statement that was given up and skipped. -/
theorem next_of_error {fault : Fault} {t : ParseState} (hends : s.Ends)
    (hfuel : Fueled (steps + 1) s) (heof : s.current.kind ≠ .eof)
    (hrun : statement inner s = .error fault t) (level : Nat) :
    ((t.record fault).resync level).2.advance.Ends ∧
      Fueled steps ((t.record fault).resync level).2.advance := by
  have hends' := hends.of_leads
    (((Passage.leads.statement hleads).of_error hrun).skip fault level)
  have hle := (Passage.remaining.statement hremaining).of_error hrun
  have hle' := Passage.remaining.resync level (t.record fault)
  exact ⟨hends'.advance, hfuel.next heof (Nat.le_trans hle' hle) hends'⟩

theorem halts_blockStatements (level : Nat) (hends : s.Ends) (hfuel : Fueled steps s)
    (list : List Statement) :
    Halts (blockRound inner level) (list, s)
      (((list ++ ·) <$> blockStatements inner level steps) s) := by
  induction steps generalizing s list with
  | zero =>
      have heof := hfuel.eof_of_zero
      rw [map_apply, blockStatements_of_eof heof]
      exact .ends (by simp [blockRound, heof])
  | succ steps ih =>
      rw [map_apply]
      by_cases hbrace : s.current.kind = .rightBrace
      · rw [blockStatements_of_brace hbrace]
        exact .ends (by simp [blockRound, hbrace])
      by_cases heof : s.current.kind = .eof
      · rw [blockStatements_of_eof heof]
        exact .ends (by simp [blockRound, heof])
      cases hrun : statement inner s with
      | ok found t =>
          obtain ⟨hends', hfuel'⟩ := next_of_ok hremaining hleads hends hfuel heof hrun
          have hrest := ih hends' hfuel' (list ++ found.toList)
          rw [blockStatements_of_ok hbrace heof hrun, map_apply]
          have hround : blockRound inner level (list, s)
              = .again (list ++ found.toList, t.advance) := by
            simp only [blockRound, hbrace, heof, ↓reduceIte, hrun]
          refine .again hround ?_
          rw [map_apply] at hrest
          cases hlist : blockStatements inner level steps t.advance <;> simpa [hlist] using hrest
      | error fault t =>
          cases hclosed : ((t.record fault).resync level).1 with
          | true =>
              rw [blockStatements_of_error_of_closed hbrace heof hrun hclosed]
              refine .ends ?_
              simp only [blockRound, hbrace, heof, ↓reduceIte, hrun]
              split <;> simp_all
          | false =>
              obtain ⟨hends', hfuel'⟩ := next_of_error hremaining hleads hends hfuel heof hrun level
              rw [blockStatements_of_error_of_open hbrace heof hrun hclosed]
              have hrest := ih hends' hfuel' list
              rw [map_apply] at hrest
              refine .again ?_ hrest
              simp only [blockRound, hbrace, heof, ↓reduceIte, hrun]
              split <;> simp_all

theorem halts_programStatements (hends : s.Ends) (hfuel : Fueled steps s)
    (list : List Statement) :
    Halts (statementsRound inner) (list, s)
      (list ++ (s.programStatements inner steps).1, (s.programStatements inner steps).2) := by
  induction steps generalizing s list with
  | zero =>
      have heof := hfuel.eof_of_zero
      rw [programStatements_of_eof heof, List.append_nil]
      exact .ends (if_pos heof)
  | succ steps ih =>
      by_cases heof : s.current.kind = .eof
      · rw [programStatements_of_eof heof, List.append_nil]
        exact .ends (if_pos heof)
      have hnext : (programRound inner s).2.Ends ∧ Fueled steps (programRound inner s).2 := by
        cases hrun : statement inner s with
        | ok found t =>
            rw [programRound_of_ok hrun]
            exact next_of_ok hremaining hleads hends hfuel heof hrun
        | error fault t =>
            rw [programRound_of_error hrun]
            exact next_of_error hremaining hleads hends hfuel heof hrun 0
      have hrest := ih hnext.1 hnext.2 (list ++ (programRound inner s).1)
      rw [programStatements_succ heof, ← List.append_assoc]
      exact .again (if_neg heof) hrest

end Loops

/-- Every loop that the parser can start in the state ends of itself, and has the result that the
parser has. -/
structure LoopsHalt (s : ParseState) : Prop where
  parameters : Halts (moreRound parameter) ([], s) (moreParameters s.remaining s)
  arguments : Halts (moreRound (argument .whole)) ([], s) (moreArguments .whole s.remaining s)
  continued : ∀ least left, Halts (continueRound .whole least) (left, s)
    (continued .whole least s.remaining left s)
  block : ∀ level, Halts (blockRound .whole level) ([], s)
    (blockStatements .whole level s.remaining s)
  program : Halts (statementsRound .whole) ([], s) (s.programStatements .whole s.remaining)
  resync : ∀ level, Halts (resyncRound level) s (s.resync level)

theorem loopsHalt_of_ends {s : ParseState} (h : s.Ends) : LoopsHalt s := by
  have hremaining := Passage.remaining.whole
  have hleads := Passage.leads.whole
  have hid : ∀ {α : Type} (m : ParseM (List α)), (([] ++ ·) <$> m) s = m s := by
    intro α m
    rw [map_apply]
    cases m s <;> rfl
  constructor
  · have hhalts := halts_more enumeration_parameters Passage.remaining.parameter
      Passage.leads.parameter h (Nat.le_refl _) []
    rwa [hid] at hhalts
  · have hhalts := halts_more (enumeration_arguments .whole) (Passage.remaining.argument hremaining)
      (Passage.leads.argument hleads) h (Nat.le_refl _) []
    rwa [hid] at hhalts
  · intro least left
    exact halts_continued hremaining hleads least h (Nat.le_refl _) left
  · intro level
    have hhalts := halts_blockStatements hremaining hleads level h (.inl (Nat.le_refl _)) []
    rwa [hid] at hhalts
  · exact halts_programStatements hremaining hleads h (.inl (Nat.le_refl _)) []
  · intro level
    exact halts_resync level s

/-! ### Counting statements -/

mutual

/-- The statements in the blocks of an expression. -/
def Expr.statementCount : Expr → Nat
  | .identifier _ | .integer _ _ | .boolean _ _ => 0
  | .unary _ _ right => right.statementCount
  | .binary _ left _ right => left.statementCount + right.statementCount
  | .conditional _ condition consequence none =>
    condition.statementCount + consequence.statementCount
  | .conditional _ condition consequence (some alternative) =>
    condition.statementCount + (consequence.statementCount + alternative.statementCount)
  | .function _ _ body => body.statementCount
  | .call _ function arguments => function.statementCount + exprsStatementCount arguments

def exprsStatementCount : List Expr → Nat
  | [] => 0
  | expr :: rest => expr.statementCount + exprsStatementCount rest

/-- The statement and those in its blocks. -/
def Statement.statementCount : Statement → Nat
  | .binding _ _ value => value.statementCount + 1
  | .result _ none => 1
  | .result _ (some value) => value.statementCount + 1
  | .expression _ expression => expression.statementCount + 1

def Block.statementCount : Block → Nat
  | .mk _ statements => statementsCount statements

def statementsCount : List Statement → Nat
  | [] => 0
  | statement :: rest => statement.statementCount + statementsCount rest

end

def Program.statementCount (program : Program) : Nat := statementsCount program.statements

mutual

/-- An expression has a token besides those of the statements in it. -/
theorem Expr.statementCount_lt : ∀ expr : Expr,
    expr.statementCount < (taken expr.mentions).length
  | .identifier _ | .integer _ _ | .boolean _ _ => Nat.one_pos
  | .unary _ _ right => by
    have hright := right.statementCount_lt
    simp only [Expr.statementCount, Expr.mentions, taken_cons_taken, List.length_cons]
    omega
  | .binary _ left _ right => by
    have hleft := left.statementCount_lt
    have hright := right.statementCount_lt
    simp only [Expr.statementCount, Expr.mentions, taken_append, taken_cons_taken,
      List.length_append, List.length_cons]
    omega
  | .conditional _ condition consequence none => by
    have hcondition := condition.statementCount_lt
    have hconsequence := consequence.statementCount_lt
    simp only [Expr.statementCount, Expr.mentions, taken_append, taken_cons_taken,
      List.length_append, List.length_cons]
    omega
  | .conditional _ condition consequence (some alternative) => by
    have hcondition := condition.statementCount_lt
    have hconsequence := consequence.statementCount_lt
    have halternative := alternative.statementCount_lt
    simp only [Expr.statementCount, Expr.mentions, taken_append, taken_cons_taken,
      List.length_append, List.length_cons]
    omega
  | .function _ _ body => by
    have hbody := body.statementCount_lt
    simp only [Expr.statementCount, Expr.mentions, taken_append, taken_cons_taken,
      List.length_append, List.length_cons]
    omega
  | .call _ function arguments => by
    have hfunction := function.statementCount_lt
    have harguments := exprsStatementCount_le arguments
    simp only [Expr.statementCount, Expr.mentions, taken_append, taken_cons_taken,
      List.length_append, List.length_cons]
    omega

theorem exprsStatementCount_le : ∀ exprs : List Expr,
    exprsStatementCount exprs ≤ (taken (exprsMentions exprs)).length
  | [] => Nat.zero_le _
  | expr :: rest => by
    have hexpr := expr.statementCount_lt
    have hrest := exprsStatementCount_le rest
    simp only [exprsStatementCount, exprsMentions, taken_append, List.length_append]
    omega

theorem Statement.statementCount_le : ∀ statement : Statement,
    statement.statementCount ≤ (taken statement.mentions).length
  | .binding _ _ value => by
    have hvalue := value.statementCount_lt
    simp only [Statement.statementCount, Statement.mentions, taken_cons_taken, List.length_cons]
    omega
  | .result _ none => Nat.le_refl 1
  | .result _ (some value) => by
    have hvalue := value.statementCount_lt
    simp only [Statement.statementCount, Statement.mentions, taken_cons_taken, List.length_cons]
    omega
  | .expression _ expression => expression.statementCount_lt

theorem Block.statementCount_lt : ∀ block : Block,
    block.statementCount < (taken block.mentions).length
  | .mk _ statements => Nat.lt_succ_of_le (statementsCount_le statements)

theorem statementsCount_le : ∀ statements : List Statement,
    statementsCount statements ≤ (taken (statementsMentions statements)).length
  | [] => Nat.zero_le _
  | statement :: rest => by
    have hstatement := statement.statementCount_le
    have hrest := statementsCount_le rest
    simp only [statementsCount, statementsMentions, taken_append, List.length_append]
    omega

end

/-! ### Programs -/

/-- The state that a parser is in after its source. -/
def ParseState.final (maxDepth : Nat) (source : String) : ParseState :=
  (ParseState.start maxDepth source).program.2

theorem halts_start (maxDepth : Nat) (source : String) :
    Halts (statementsRound .whole) ([], .start maxDepth source)
      ((parse maxDepth source).program.statements, .final maxDepth source) := by
  have hhalts := (loopsHalt_of_ends (ParseState.On.start maxDepth source).ends).program
  rwa [← programStatements_whole] at hhalts

theorem current_final (maxDepth : Nat) (source : String) :
    (tokenize source).getLast? = some (ParseState.final maxDepth source).current := by
  have heof : (ParseState.final maxDepth source).current.kind = .eof := by
    obtain ⟨⟨list, s⟩, hends⟩ := (halts_start maxDepth source).exists_ends
    by_cases heof : s.current.kind = .eof
    · rw [statementsRound, if_pos heof] at hends
      cases hends
      exact heof
    · rw [statementsRound, if_neg heof] at hends
      cases hends
  obtain ⟨ts, last, htokens⟩ := exists_tokenize_eq_append source
  have hleads : (ParseState.start maxDepth source).Leads (.final maxDepth source) :=
    Passage.leads.programStatements (Passage.leads.level maxDepth) _ _
  obtain ⟨us, -, hsees⟩ := hleads ts last (ParseState.start_sees htokens)
  obtain rfl : us = [] := hsees.current_eof_iff.mp heof
  rw [htokens, List.getLast?_concat, hsees.current_eq]
  rfl

/-- **Parsing ends, and every statement costs a token.** Wherever the parser may be in a source, all
loops and all recursion that it can start there come to an end, with no bound on the rounds of the
loops or on the recursion other than the limit on nesting. So does the loop over the statements of
the program, on the end marker. The statements of the program, nested ones included, and the faults
are together not more than the tokens before the end marker. -/
theorem parse_halts (maxDepth : Nat) (source : String) :
    (∀ k s, s.On source k → LoopsHalt s ∧ RecursionHalts s) ∧
      Halts (statementsRound .whole) ([], .start maxDepth source)
        ((parse maxDepth source).program.statements, .final maxDepth source) ∧
      (tokenize source).getLast? = some (ParseState.final maxDepth source).current ∧
      (parse maxDepth source).program.statementCount + (parse maxDepth source).faults.length
        ≤ (tokenize source).dropLast.length := by
  refine ⟨?_, halts_start maxDepth source, current_final maxDepth source, ?_⟩
  · intro k s hs
    exact ⟨loopsHalt_of_ends hs.ends, recursionHalts s⟩
  · obtain ⟨passed, rest, htokens, -, hcount⟩ := exists_drawn_parse maxDepth source
    have hstatements : (parse maxDepth source).program.statementCount
        ≤ (taken (parse maxDepth source).program.mentions).length := statementsCount_le _
    rw [htokens, List.length_append]
    omega

/-- Blocks that are not closed are given up one after the other at the end. -/
theorem parse_halts_of_unclosed :
    (ParseState.start 9 "fn(x) \x7b fn(y) \x7b let 1").On "fn(x) \x7b fn(y) \x7b let 1" 0 ∧
      LoopsHalt (.start 9 "fn(x) \x7b fn(y) \x7b let 1") ∧
      (parse 9 "fn(x) \x7b fn(y) \x7b let 1").faults.length = 3 ∧
      3 ≤ (tokenize "fn(x) \x7b fn(y) \x7b let 1").dropLast.length := by
  obtain ⟨hloops, -, -, hcount⟩ := parse_halts 9 "fn(x) \x7b fn(y) \x7b let 1"
  have hon := ParseState.On.start 9 "fn(x) \x7b fn(y) \x7b let 1"
  have hfaults : (parse 9 "fn(x) \x7b fn(y) \x7b let 1").faults.length = 3 := by decide +kernel
  exact ⟨hon, (hloops 0 _ hon).1, hfaults, by omega⟩

end MonkeySyntax
