import MonkeySyntax.Proofs.Canonical

/-!
# What the limit on nesting says about trees

The limit on nesting is there so that nothing that goes down into a tree by recursion runs out of
stack. What it counts are the expressions and blocks that are open inside each other while a source
is read. An operator that continues an expression takes what was read so far as its left operand,
and a call takes it as what is called; neither opens anything. So a tree is bounded by the limit on
all its paths if the steps to a left operand and to what is called are left out, and not otherwise:
a chain of operators or of calls becomes as high as it is long, however low the limit.
-/

namespace MonkeySyntax

open ParseM

mutual

/-- The expressions and blocks on the longest path down from the root, where what is reached as a
left operand or as what is called counts `spine` and everything else counts one. -/
def Expr.height (spine : Nat) : Expr → Nat
  | .identifier _ => 1
  | .integer _ _ => 1
  | .boolean _ _ => 1
  | .unary _ _ right => 1 + right.height spine
  | .binary _ left _ right => max (spine + left.height spine) (1 + right.height spine)
  | .conditional _ condition consequence none =>
    1 + max (condition.height spine) (consequence.height spine)
  | .conditional _ condition consequence (some alternative) =>
    1 + max (condition.height spine) (max (consequence.height spine) (alternative.height spine))
  | .function _ _ body => 1 + body.height spine
  | .call _ function arguments =>
    max (spine + function.height spine) (1 + exprsHeight spine arguments)

def exprsHeight (spine : Nat) : List Expr → Nat
  | [] => 0
  | expr :: rest => max (expr.height spine) (exprsHeight spine rest)

def Statement.height (spine : Nat) : Statement → Nat
  | .binding _ _ value => value.height spine
  | .result _ none => 0
  | .result _ (some value) => value.height spine
  | .expression _ expression => expression.height spine

def Block.height (spine : Nat) : Block → Nat
  | .mk _ statements => 1 + statementsHeight spine statements

def statementsHeight (spine : Nat) : List Statement → Nat
  | [] => 0
  | statement :: rest => max (statement.height spine) (statementsHeight spine rest)

end

theorem exprsHeight_le_iff {spine n : Nat} {exprs : List Expr} :
    exprsHeight spine exprs ≤ n ↔ ∀ expr ∈ exprs, expr.height spine ≤ n := by
  induction exprs with
  | nil => simp [exprsHeight]
  | cons expr rest ih => rw [exprsHeight, Nat.max_le, ih, List.forall_mem_cons]

theorem statementsHeight_le_iff {spine n : Nat} {statements : List Statement} :
    statementsHeight spine statements ≤ n ↔
      ∀ statement ∈ statements, statement.height spine ≤ n := by
  induction statements with
  | nil => simp [statementsHeight]
  | cons statement rest ih => rw [statementsHeight, Nat.max_le, ih, List.forall_mem_cons]

/-! ### What readers yield -/

/-- Whatever the step yields, wherever it starts, is as `P` says. -/
def ParseM.Yields {α : Type} (P : α → Prop) (m : ParseM α) : Prop :=
  ∀ s a t, m s = .ok a t → P a

namespace ParseM.Yields

variable {α β : Type} {P : α → Prop} {Q : β → Prop} {m : ParseM α} {k : α → ParseM β} {f : α → β}
  {s t : ParseState}

theorem of_ok {a : α} (h : m.Yields P) (hrun : m s = .ok a t) : P a := h s a t hrun

theorem pure {a : α} (h : P a) : (Pure.pure a : ParseM α).Yields P := by
  intro s b t hrun
  cases hrun
  exact h

theorem throw (fault : Fault) : (MonadExcept.throw fault : ParseM α).Yields P := by
  intro s a t hrun
  cases hrun

theorem bind (hm : m.Yields P) (hk : ∀ a, P a → (k a).Yields Q) : (m >>= k).Yields Q := by
  intro s b t hrun
  obtain ⟨a, u, hfirst, hrest⟩ := bind_eq_ok_iff.mp hrun
  exact (hk a (hm.of_ok hfirst)).of_ok hrest

/-- A step whose value does not matter. -/
theorem after (m : ParseM α) (hk : ∀ a, (k a).Yields Q) : (m >>= k).Yields Q := by
  have hany : m.Yields fun _ => True := fun _ _ _ _ => trivial
  exact hany.bind fun a _ => hk a

theorem map (hm : m.Yields P) (hf : ∀ a, P a → Q (f a)) : (f <$> m).Yields Q := by
  intro s b t hrun
  obtain ⟨a, hfirst, rfl⟩ := map_eq_ok_iff.mp hrun
  exact hf a (hm.of_ok hfirst)

theorem nested (hm : m.Yields P) : (ParseM.nested m).Yields P := by
  intro s a t hrun
  obtain ⟨u, hinside, -⟩ := nested_eq_ok hrun
  exact hm.of_ok hinside

section Enumerations

variable {item : ParseM α} {more : Nat → ParseM (List α)} {items : ParseM (List α)}

theorem of_more (henum : Enumeration item more items) (hitem : item.Yields P) (steps : Nat) :
    (more steps).Yields fun found => ∀ a ∈ found, P a := by
  induction steps with
  | zero =>
      intro s found t hrun
      rw [henum.more_zero] at hrun
      cases hrun
      simp
  | succ steps ih =>
      intro s found t hrun
      by_cases hkind : s.peek.kind = .comma
      · rw [henum.more_of_comma hkind] at hrun
        refine of_ok (P := fun found => ∀ a ∈ found, P a) ?_ hrun
        refine hitem.bind fun a ha => ih.bind fun rest hrest => .pure ?_
        exact List.forall_mem_cons.mpr ⟨ha, hrest⟩
      · rw [henum.more_of_comma_ne hkind] at hrun
        cases hrun
        simp

theorem of_items (henum : Enumeration item more items) (hitem : item.Yields P) :
    items.Yields fun found => ∀ a ∈ found, P a := by
  intro s found t hrun
  by_cases hkind : s.peek.kind = .rightParen
  · rw [henum.items_of_paren hkind] at hrun
    cases hrun
    simp
  · rw [henum.items_of_paren_ne hkind] at hrun
    refine of_ok (P := fun found => ∀ a ∈ found, P a) ?_ hrun
    refine hitem.bind fun a ha => .after get fun u => ?_
    refine (of_more henum hitem u.remaining).bind fun rest hrest => .after _ fun _ => .pure ?_
    exact List.forall_mem_cons.mpr ⟨ha, hrest⟩

end Enumerations

end ParseM.Yields

/-! ### The bound -/

/-- Inner phrases are at most `n` high, apart from left operands and what is called. -/
structure Inner.Bounded (n : Nat) (inner : Inner) : Prop where
  expression : ∀ least, (inner.expression least).Yields fun expr => expr.height 0 ≤ n
  block : inner.block.Yields fun block => block.height 0 ≤ n

section Readers

variable {inner : Inner} {n : Nat} (hinner : inner.Bounded n)
include hinner

theorem height_unaryRest (operator : UnaryOp) :
    (unaryRest inner operator).Yields fun expr => expr.height 0 ≤ n + 1 := by
  refine .after _ fun token => .after _ fun _ => (hinner.expression _).bind fun right hright => ?_
  refine .pure ?_
  rw [Expr.height]
  omega

theorem height_groupRest : (groupRest inner).Yields fun expr => expr.height 0 ≤ n := by
  refine .after _ fun _ => (hinner.expression _).bind fun expr hexpr => ?_
  exact .after _ fun _ => .pure hexpr

theorem height_braced : (braced inner).Yields fun block => block.height 0 ≤ n :=
  .after _ fun _ => hinner.block

theorem height_elseBranch :
    (elseBranch inner).Yields fun alternative => ∀ block ∈ alternative, block.height 0 ≤ n := by
  refine .after _ fun next => ?_
  split
  · exact .after _ fun _ => (height_braced hinner).bind fun block hblock => .pure (by simpa)
  · exact .pure (by simp)

theorem height_conditionalRest :
    (conditionalRest inner).Yields fun expr => expr.height 0 ≤ n + 1 := by
  refine .after _ fun token => .after _ fun _ => ?_
  refine (height_groupRest hinner).bind fun condition hcondition => ?_
  refine (height_braced hinner).bind fun consequence hconsequence => ?_
  refine (height_elseBranch hinner).bind fun alternative halternative => .pure ?_
  cases alternative with
  | none =>
      rw [Expr.height]
      omega
  | some block =>
      have hblock := halternative block rfl
      rw [Expr.height]
      omega

theorem height_functionRest :
    (functionRest inner).Yields fun expr => expr.height 0 ≤ n + 1 := by
  refine .after _ fun token => .after _ fun _ => .after _ fun names => ?_
  refine (height_braced hinner).bind fun body hbody => .pure ?_
  rw [Expr.height]
  omega

theorem height_startRule (rule : StartRule) :
    (rule.parse inner).Yields fun expr => expr.height 0 ≤ n + 1 := by
  cases rule with
  | identifier => exact .after _ fun _ => .pure (by simp [Expr.height])
  | integer =>
      refine .after _ fun token => ?_
      split
      · exact .pure (by simp [Expr.height])
      · exact .throw _
  | boolean => exact .after _ fun _ => .pure (by simp [Expr.height])
  | unary operator => exact height_unaryRest hinner operator
  | group => exact fun s expr t hrun => Nat.le_succ_of_le ((height_groupRest hinner).of_ok hrun)
  | conditional => exact height_conditionalRest hinner
  | function => exact height_functionRest hinner

theorem height_start : (ParseM.start inner).Yields fun expr => expr.height 0 ≤ n + 1 := by
  refine .after _ fun token => ?_
  split
  · exact .throw _
  · exact height_startRule hinner _

theorem height_arguments :
    (arguments inner).Yields fun exprs => ∀ expr ∈ exprs, expr.height 0 ≤ n := by
  refine .of_items (enumeration_arguments inner) ?_
  exact .after _ fun _ => hinner.expression _

/-- What was read so far only moves down, it does not count again. -/
theorem height_continueRule {left : Expr} (hleft : left.height 0 ≤ n + 1) (rule : ContinueRule) :
    (rule.parse inner left).Yields fun expr => expr.height 0 ≤ n + 1 := by
  cases rule with
  | binary operator =>
      refine .after _ fun token => .after _ fun _ => ?_
      refine (hinner.expression _).bind fun right hright => .pure ?_
      rw [Expr.height]
      omega
  | call =>
      refine .after _ fun token => (height_arguments hinner).bind fun exprs hexprs => .pure ?_
      have hle := exprsHeight_le_iff.mpr hexprs
      rw [Expr.height]
      omega

theorem height_continued (least : Precedence) (steps : Nat) {left : Expr}
    (hleft : left.height 0 ≤ n + 1) :
    (continued inner least steps left).Yields fun expr => expr.height 0 ≤ n + 1 := by
  induction steps generalizing left with
  | zero => exact .pure hleft
  | succ steps ih =>
      refine .after _ fun next => ?_
      split
      · split
        · exact .pure hleft
        · refine .after _ fun _ => ?_
          exact (height_continueRule hinner hleft _).bind fun longer hlonger => ih hlonger
      · exact .pure hleft

theorem height_expressionBody (least : Precedence) :
    (expressionBody inner least).Yields fun expr => expr.height 0 ≤ n + 1 := by
  refine (height_start hinner).bind fun left hleft => .after _ fun s => ?_
  exact height_continued hinner least s.remaining hleft

theorem height_letStatement :
    (letStatement inner).Yields fun statement => statement.height 0 ≤ n := by
  refine .after _ fun token => .after _ fun _ => .after _ fun name => .after _ fun _ => ?_
  refine .after _ fun _ => (hinner.expression _).bind fun value hvalue => .after _ fun _ => ?_
  exact .pure (by rwa [Statement.height])

theorem height_returnStatement :
    (returnStatement inner).Yields fun statement => statement.height 0 ≤ n := by
  have hnone (token : Token) : (skipSemicolon >>= fun _ =>
      Pure.pure (Statement.result token none)).Yields fun statement => statement.height 0 ≤ n :=
    .after _ fun _ => .pure (by simp [Statement.height])
  refine .after _ fun token => .after _ fun next => ?_
  split
  · exact hnone token
  · exact hnone token
  · exact hnone token
  · refine .after _ fun _ => (hinner.expression _).bind fun value hvalue => .after _ fun _ => ?_
    exact .pure (by rwa [Statement.height])

theorem height_expressionStatement :
    (expressionStatement inner).Yields fun statement => statement.height 0 ≤ n := by
  refine .after _ fun token => (hinner.expression _).bind fun expr hexpr => .after _ fun _ => ?_
  exact .pure (by rwa [Statement.height])

theorem height_statement :
    (statement inner).Yields fun found => ∀ statement ∈ found, statement.height 0 ≤ n := by
  refine .after _ fun token => ?_
  split
  · exact (height_letStatement hinner).bind fun _ h => .pure (by simpa)
  · exact (height_returnStatement hinner).bind fun _ h => .pure (by simpa)
  · exact .pure (by simp)
  · exact (height_expressionStatement hinner).bind fun _ h => .pure (by simpa)

theorem height_blockStatements (level steps : Nat) :
    (blockStatements inner level steps).Yields
      fun statements => ∀ statement ∈ statements, statement.height 0 ≤ n := by
  induction steps with
  | zero =>
      intro s statements t hrun
      cases hrun
  | succ steps ih =>
      intro s statements t hrun
      by_cases hbrace : s.current.kind = .rightBrace
      · rw [blockStatements_of_brace hbrace] at hrun
        cases hrun
        simp
      by_cases heof : s.current.kind = .eof
      · rw [blockStatements_of_eof heof] at hrun
        cases hrun
      cases hstatement : statement inner s with
      | ok found u =>
          rw [blockStatements_of_ok hbrace heof hstatement] at hrun
          refine Yields.of_ok
            (P := fun list => ∀ found ∈ list, Statement.height 0 found ≤ n) ?_ hrun
          refine ih.map fun rest hrest => ?_
          have hfound := (height_statement hinner).of_ok hstatement
          rw [List.forall_mem_append]
          exact ⟨by simpa using hfound, hrest⟩
      | error fault u =>
          cases hclosed : ((u.record fault).resync level).1 with
          | true =>
              rw [blockStatements_of_error_of_closed hbrace heof hstatement hclosed] at hrun
              cases hrun
              simp
          | false =>
              rw [blockStatements_of_error_of_open hbrace heof hstatement hclosed] at hrun
              exact ih.of_ok hrun

theorem height_blockBody : (blockBody inner).Yields fun block => block.height 0 ≤ n + 1 := by
  refine .after _ fun s => .after _ fun _ => .after _ fun t => ?_
  refine (height_blockStatements hinner _ _).bind fun statements hstatements => .pure ?_
  have hle := statementsHeight_le_iff.mpr hstatements
  rw [Block.height]
  omega

theorem height_programStatements (steps : Nat) (s : ParseState) :
    ∀ statement ∈ (s.programStatements inner steps).1, statement.height 0 ≤ n := by
  induction steps generalizing s with
  | zero => simp [ParseState.programStatements]
  | succ steps ih =>
      by_cases heof : s.current.kind = .eof
      · rw [programStatements_of_eof heof]
        simp
      cases hstatement : statement inner s with
      | ok found t =>
          have hfound := (height_statement hinner).of_ok hstatement
          rw [programStatements_of_ok heof hstatement, List.forall_mem_append]
          exact ⟨by simpa using hfound, ih t.advance⟩
      | error fault t =>
          rw [programStatements_of_error heof hstatement]
          exact ih _

end Readers

theorem Inner.bounded_level (n : Nat) : (Inner.level n).Bounded n := by
  induction n with
  | zero =>
      constructor
      · intro least s expr t hrun
        cases hrun
      · intro s block t hrun
        cases hrun
  | succ n ih =>
      exact ⟨fun least => .nested (height_expressionBody ih least), .nested (height_blockBody ih)⟩

/-- **The limit on nesting bounds trees.** Whatever a source holds, no path down a tree of its
program has more expressions and blocks on it than the limit, if those reached as a left operand or
as what is called are left out. -/
theorem height_le_maxDepth (maxDepth : Nat) (source : String) :
    ∀ statement ∈ (parse maxDepth source).program.statements, statement.height 0 ≤ maxDepth :=
  height_programStatements (Inner.bounded_level maxDepth) _ _

/-- The limit is 2, and a path of three expressions leads down by the left operands. -/
theorem height_le_maxDepth_of_sum :
    ∃ statement ∈ (parse 2 "a + a + a").program.statements,
      statement.height 0 ≤ 2 ∧ statement.height 1 = 3 := by
  have hsome : (parse 2 "a + a + a").program.statements ≠ [] := by decide +kernel
  have hmem := List.head_mem hsome
  have hheight :
      ((parse 2 "a + a + a").program.statements.head (by decide +kernel)).height 1 = 3 := by
    decide +kernel
  exact ⟨_, hmem, height_le_maxDepth 2 "a + a + a" _ hmem, hheight⟩

/-! ### Chains -/

/-- `first` and then `n` times `link`. -/
def chain (first link : String) : Nat → String
  | 0 => first
  | n + 1 => chain first link n ++ link

theorem written_append (before rest : List Piece) :
    written .none (before ++ rest) = written .none before ++ written .none rest := by
  induction before with
  | nil => simp [written, Gap.none]
  | cons piece before ih => simp [written, ih, String.append_assoc]

theorem written_chain (first : Piece) (link : List Piece) (n : Nat) :
    written .none (first :: (List.replicate n link).flatten)
      = chain (written .none [first]) (written .none link) n := by
  induction n with
  | zero => rfl
  | succ n ih =>
      rw [List.replicate_succ', List.flatten_append, List.flatten_singleton, ← List.cons_append,
        written_append, ih, chain]

theorem isChain_cons_of_detached (piece : Piece) {rest : List Piece}
    (h : ∀ next ∈ rest, next.Detached) : (piece :: rest).IsChain Piece.MayPrecede := by
  induction rest generalizing piece with
  | nil => exact .singleton _
  | cons next rest ih =>
      rw [List.forall_mem_cons] at h
      exact .cons_cons (h.1.mayPrecede piece) (ih next h.2)

theorem exists_says_chain (first : Piece) {link : List Piece}
    (hlink : ∀ piece ∈ link, piece.Detached) (n : Nat) :
    ∃ ts last, tokenize (chain (written .none [first]) (written .none link) n) = ts ++ [last] ∧
      Says ts (first :: (List.replicate n link).flatten) := by
  have hdetached : ∀ piece ∈ (List.replicate n link).flatten, piece.Detached := by
    intro piece hpiece
    obtain ⟨copy, hcopy, hmem⟩ := List.mem_flatten.mp hpiece
    rw [List.eq_of_mem_replicate hcopy] at hmem
    exact hlink piece hmem
  have hcontent : (tokenize (written .none (first :: (List.replicate n link).flatten))).map
      Token.content = _ :=
    (Lexer.content_tokens_written_iff .none _ rfl).mpr (isChain_cons_of_detached first hdetached)
  rw [written_chain] at hcontent
  obtain ⟨ts, last, htokens⟩ := exists_tokenize_eq_append
    (chain (written .none [first]) (written .none link) n)
  refine ⟨ts, last, htokens, ?_⟩
  rw [htokens, List.map_append] at hcontent
  exact (List.append_inj' hcontent rfl).1

/-- The token ends a chain, or begins another link of it. -/
def Follows (link : List Piece) (token : Token) : Prop :=
  token.kind = .eof ∨ ∃ piece ∈ link.head?, token.kind = piece.kind

/-- Each link of a chain makes what was read before it part of something higher. -/
theorem exists_comesBy_chain {inner : Inner} {link : List Piece} {t : ParseState} (left : Expr)
    (hnil : link ≠ [])
    (hlink : ∀ {ts us : List Token} {rest : Stream' Token} {expr : Expr}, Says us link →
      Follows link rest.head → inner.ComesBy .lowest left t ts expr (us ++ₛ rest) →
      ∃ next, inner.ComesBy .lowest left t (ts ++ us) next rest ∧ expr.height 1 < next.height 1)
    (n : Nat) {ts : List Token} {rest : Stream' Token}
    (hts : Says ts (List.replicate n link).flatten)
    (hrest : Follows link rest.head) (ht : t.stream.tail = ts ++ₛ rest) :
    ∃ expr, inner.ComesBy .lowest left t ts expr rest ∧ left.height 1 + n ≤ expr.height 1 := by
  induction n generalizing ts rest with
  | zero =>
      obtain rfl : ts = [] := List.map_eq_nil_iff.mp hts
      exact ⟨left, fun k => ⟨k, t, Nat.le_refl k, rfl, ht, .refl t⟩, Nat.le_refl _⟩
  | succ n ih =>
      rw [List.replicate_succ', List.flatten_append, List.flatten_singleton] at hts
      obtain ⟨us, vs, rfl, hus, hvs⟩ := hts.exists_append
      rw [Stream'.append_append_stream] at ht
      obtain ⟨piece, others, rfl⟩ := List.exists_cons_of_ne_nil hnil
      obtain ⟨v, ws, rfl, hv, -⟩ := hvs.exists_cons
      have hfollows : Follows (piece :: others) ((v :: ws) ++ₛ rest).head :=
        .inr ⟨piece, rfl, congrArg Prod.fst hv⟩
      obtain ⟨expr, hcomes, hheight⟩ := ih hus hfollows ht
      obtain ⟨next, hnext, hlt⟩ := hlink hvs hrest hcomes
      exact ⟨next, hnext, by omega⟩

theorem reads_chain {inner : Inner} {first : Token} {ts : List Token} {rest : Stream' Token}
    {s : ParseState} {expr : Expr} (hfirst : first.kind = .identifier)
    (hs : s.stream = (first :: ts) ++ₛ rest) (hreal : ∀ t ∈ ts, t.kind ≠ .eof)
    (hroom : s.depth < s.maxDepth) (hrest : rest.head.kind = .eof)
    (hcomes : inner.ComesBy .lowest (.identifier (.ofToken first)) s.enter ts expr rest) :
    (nested (expressionBody inner .lowest)).Reads s expr rest := by
  refine ParseM.Reads.nested hroom ?_
  have hcurrent : s.enter.current = first := by
    rw [← s.enter.head_stream, s.stream_enter, hs]
    rfl
  have htail : s.enter.stream.tail = ts ++ₛ rest := by
    rw [s.stream_enter, hs]
    rfl
  have hstart : ParseM.start inner s.enter
      = .ok (.identifier (.ofToken first)) s.enter := by
    have hrule : StartRule.ofKind? s.enter.current.kind = some .identifier := by
      rw [hcurrent, hfirst]
      rfl
    rw [start_of_rule hrule, ← hcurrent]
    rfl
  have hfuel := ParseState.length_le_remaining_of_tail htail hreal
  obtain ⟨k, u, -, heq, hend, halike⟩ := hcomes (s.enter.remaining - ts.length)
  rw [Nat.sub_add_cancel hfuel] at heq
  refine ⟨u, ?_, hend, halike⟩
  have hpeek : u.peek = rest.head := u.peek_of_tail hend
  rw [expressionBody, bind_of_ok hstart, bind_of_ok (get_apply s.enter), heq]
  exact continued_of_continues_eq_false (by rw [hpeek, hrest]; rfl)

theorem programStatements_of_reads {inner : Inner} {s : ParseState} {expr : Expr}
    {rest : Stream' Token} {steps : Nat} (hkind : s.current.kind = .identifier)
    (hrest : rest.head.kind = .eof) (h : (inner.expression .lowest).Reads s expr rest) :
    (s.programStatements inner (steps + 1)).1 = [.expression s.current expr] := by
  obtain ⟨t, hrun, hend, -⟩ := h
  have hpeek : t.peek = rest.head := t.peek_of_tail hend
  have hstatement : statement inner s = .ok (some (.expression s.current expr)) t := by
    rw [statement_of_other (by simp [hkind]) (by simp [hkind]) (by simp [hkind])]
    refine map_of_ok ?_
    rw [expressionStatement, bind_of_ok (current_apply s), bind_of_ok hrun,
      bind_of_ok (skipSemicolon_of_kind_ne (by simp [hpeek, hrest]))]
    rfl
  rw [programStatements_of_ok (by simp [hkind]) hstatement,
    programStatements_of_eof (by rw [t.current_advance, hpeek, hrest])]
  rfl

/-- A chain is read whole, at a limit of two, into a tree that is higher than the chain has
links. -/
theorem exists_height_of_chain {first : Piece} {link : List Piece} (hnil : link ≠ [])
    (hfirst : first.kind = .identifier) (hdetached : ∀ piece ∈ link, piece.Detached)
    (hlink : ∀ {t : ParseState} {left expr : Expr} {ts us : List Token} {rest : Stream' Token},
      t.depth + 1 = t.maxDepth → Says us link → Follows link rest.head →
      (Inner.level 1).ComesBy .lowest left t ts expr (us ++ₛ rest) →
      ∃ next, (Inner.level 1).ComesBy .lowest left t (ts ++ us) next rest ∧
        expr.height 1 < next.height 1) (n : Nat) :
    ∃ statement ∈
        (parse 2 (chain (written .none [first]) (written .none link) n)).program.statements,
      n < statement.height 1 := by
  obtain ⟨ts, last, htokens, hsays⟩ := exists_says_chain first hdetached n
  generalize chain (written .none [first]) (written .none link) n = source at *
  obtain ⟨token, us, rfl, htoken, hus⟩ := hsays.exists_cons
  have hkind : token.kind = .identifier := (congrArg Prod.fst htoken).trans hfirst
  have hsees : (ParseState.start 2 source).Sees (token :: us) last := ParseState.start_sees htokens
  have hlast : (Stream'.const last).head.kind = .eof := hsees.last_eof
  have htail : (ParseState.start 2 source).enter.stream.tail = us ++ₛ Stream'.const last := by
    rw [ParseState.stream_enter, hsees.stream_eq]
    rfl
  obtain ⟨expr, hcomes, hheight⟩ := exists_comesBy_chain (.identifier (.ofToken token)) hnil
    (fun hus hrest hcomes => hlink rfl hus hrest hcomes) n hus (.inl hlast) htail
  have hreads := reads_chain hkind hsees.stream_eq
    (fun t ht => hsees.real t (List.mem_cons_of_mem _ ht)) (Nat.succ_pos 1) hlast hcomes
  have hcurrent : (ParseState.start 2 source).current.kind = .identifier := by
    rw [hsees.current_eq]
    exact hkind
  obtain ⟨steps, hsteps⟩ : ∃ steps, (ParseState.start 2 source).remaining = steps + 1 :=
    Nat.exists_eq_succ_of_ne_zero (Nat.ne_of_gt
      (Nat.lt_of_lt_of_le (Nat.succ_pos us.length) hsees.length_le_remaining))
  have hstatements : (parse 2 source).program.statements
      = [.expression (ParseState.start 2 source).current expr] := by
    change ((ParseState.start 2 source).programStatements (.level 2) _).1 = _
    rw [hsteps]
    exact programStatements_of_reads hcurrent hlast hreads
  refine ⟨_, by rw [hstatements]; exact List.mem_singleton.mpr rfl, ?_⟩
  rw [Statement.height]
  simp only [Expr.height] at hheight
  omega

/-! ### Calls and sums -/

theorem exists_comesBy_call {inner : Inner} {t : ParseState} {left expr : Expr} {ts us : List Token}
    {rest : Stream' Token} (hus : Says us [.openParen .space, .closeParen])
    (h : inner.ComesBy .lowest left t ts expr (us ++ₛ rest)) :
    ∃ next, inner.ComesBy .lowest left t (ts ++ us) next rest ∧
      expr.height 1 < next.height 1 := by
  obtain ⟨opening, vs, rfl, hopening, hvs⟩ := hus.exists_cons
  obtain ⟨closing, rfl, hclosing⟩ := hvs.exists_singleton
  have hopening' : opening.kind = .leftParen := congrArg Prod.fst hopening
  have hclosing' : closing.kind = .rightParen := congrArg Prod.fst hclosing
  refine ⟨.call opening expr [], h.step (by rw [hopening']; rfl) (by rw [hopening']; rfl) ?_, ?_⟩
  · intro u hu _
    have hpeek : u.peek = opening := u.peek_of_tail hu
    have hnext : u.advance.stream.tail = Stream'.cons closing rest := by
      rw [u.stream_advance, hu]
      rfl
    have hpeek' : u.advance.peek = closing := u.advance.peek_of_tail hnext
    refine ⟨u.advance.advance, ?_, ?_, .advance u.advance⟩
    · have harguments : arguments inner u.advance = .ok [] u.advance.advance :=
        (enumeration_arguments inner).items_of_paren (by rw [hpeek', hclosing'])
      simp [ContinueRule.parse, callRest, bind_apply, map_apply, hpeek, harguments]
    · rw [u.advance.stream_advance, hnext]
      rfl
  · rw [Expr.height]
    omega

namespace Piece

def plus : Piece := ⟨.space, .plus, "+", .fixed rfl⟩

theorem lexical_letter : Lexical .identifier "a" := by
  refine .name (by decide) ?_ ?_
  · intro c hc
    obtain rfl : c = 'a' := by simpa using hc
    rfl
  · intro kind
    cases kind <;> decide

def letter (gap : Gap) : Piece := ⟨gap, .identifier, "a", lexical_letter⟩

end Piece

theorem exists_comesBy_plus {t : ParseState} {left expr : Expr} {ts us : List Token}
    {rest : Stream' Token} (hroom : t.depth + 1 = t.maxDepth)
    (hus : Says us [.plus, .letter .space]) (hrest : Follows [.plus, .letter .space] rest.head)
    (h : (Inner.level 1).ComesBy .lowest left t ts expr (us ++ₛ rest)) :
    ∃ next, (Inner.level 1).ComesBy .lowest left t (ts ++ us) next rest ∧
      expr.height 1 < next.height 1 := by
  obtain ⟨sign, vs, rfl, hsign, hvs⟩ := hus.exists_cons
  obtain ⟨name, rfl, hname⟩ := hvs.exists_singleton
  have hsign' : sign.kind = .plus := congrArg Prod.fst hsign
  have hname' : name.kind = .identifier := congrArg Prod.fst hname
  -- Neither the end of the chain nor its next link goes on with the right operand.
  have hfollows : rest.head.kind = .eof ∨ rest.head.kind = .plus := by
    simpa [Follows, Piece.plus] using hrest
  have hderives : Derives .strict [name] (.expression .primary (.identifier (.ofToken name))) :=
    .identifier hname'
  refine ⟨.binary sign expr .plus (.identifier (.ofToken name)),
    h.step (by rw [hsign']; rfl) (by rw [hsign']; rfl) ?_, ?_⟩
  · intro u hu halike
    have hpeek : u.peek = sign := u.peek_of_tail hu
    have hoperand : ((Inner.level 1).expression sign.kind.precedence).Reads u.advance.advance
        (.identifier (.ofToken name)) rest := by
      refine (Inner.complete_level 1).expression hderives (Nat.le_refl 1) ?_ ?_
        (halike.room hroom) ?_ ?_
      · rw [hsign']
        exact ⟨by decide, .inl (by decide)⟩
      · rw [ParseState.stream_advance, ParseState.stream_advance, hu]
        rfl
      · rcases hfollows with hkind | hkind <;> simp [hkind]
      · rcases hfollows with hkind | hkind <;> rw [hkind, hsign'] <;> rfl
    obtain ⟨w, hrun, hend, halike'⟩ := hoperand.of_advance
    refine ⟨w, ?_, hend, halike'⟩
    simp [ContinueRule.parse, binaryRest, bind_apply, map_apply, hpeek, hrun]
  · rw [Expr.height]
    omega

/-- Counted in full, trees are not bounded by the limit on nesting: neither chains of calls nor
chains of operators ever reach a limit of two. -/
theorem height_not_bounded :
    (∀ n, ∃ statement ∈ (parse 2 (chain "a" " ()" n)).program.statements, n < statement.height 1) ∧
      (∀ n, ∃ statement ∈ (parse 2 (chain "a" " + a" n)).program.statements,
        n < statement.height 1) ∧
      ¬ ∀ maxDepth, ∃ bound, ∀ source, ∀ statement ∈ (parse maxDepth source).program.statements,
        statement.height 1 ≤ bound := by
  have hcalls (n : Nat) : ∃ statement ∈ (parse 2 (chain "a" " ()" n)).program.statements,
      n < statement.height 1 :=
    exists_height_of_chain (by simp : [Piece.openParen .space, .closeParen] ≠ [])
      (rfl : (Piece.letter .none).kind = _) (by simp) (fun _ hus _ => exists_comesBy_call hus) n
  have hsums (n : Nat) : ∃ statement ∈ (parse 2 (chain "a" " + a" n)).program.statements,
      n < statement.height 1 :=
    exists_height_of_chain (by simp : [Piece.plus, .letter .space] ≠ [])
      (rfl : (Piece.letter .none).kind = _)
      (by simp [Piece.Detached, Piece.plus, Piece.letter, Gap.space]) exists_comesBy_plus n
  refine ⟨hcalls, hsums, fun h => ?_⟩
  obtain ⟨bound, hbound⟩ := h 2
  obtain ⟨statement, hmem, hlt⟩ := hcalls bound
  exact absurd (hbound _ statement hmem) (Nat.not_le_of_lt hlt)

end MonkeySyntax
