import MonkeySyntax.Proofs.FaultOrder

/-!
# The tree is a selection of the tokens

A statement that is given up is dropped with all that was read of it, at whatever depth, while what
is around it may survive. The tree that comes out still consists of tokens of the source, in their
order and each at most once.

The parser is followed by what it has passed. Between two states of a run lies a list of tokens, and
what was kept is drawn from it from left to right. Tokens that are not drawn pay for the faults: a
statement that is given up has at least one token of its own, its first, which nothing else draws.
So the same walk also counts faults.
-/

namespace MonkeySyntax

open ParseM

/-! ### The tokens of a tree -/

/-- A token that a tree has, either as the one place that it is used in, or as a note of where an
expression statement begins. -/
inductive Mention where
  | taken (token : Token)
  | noted (token : Token)
deriving DecidableEq, Repr

def Mention.token? : Mention → Option Token
  | taken token => some token
  | noted _ => none

mutual

/-- The tokens of an expression in the order of the source. -/
def Expr.mentions : Expr → List Mention
  | .identifier name => [.taken name.token]
  | .integer token _ => [.taken token]
  | .boolean token _ => [.taken token]
  | .unary token _ right => .taken token :: right.mentions
  | .binary token left _ right => left.mentions ++ .taken token :: right.mentions
  | .conditional token condition consequence none =>
    .taken token :: (condition.mentions ++ consequence.mentions)
  | .conditional token condition consequence (some alternative) =>
    .taken token :: (condition.mentions ++ (consequence.mentions ++ alternative.mentions))
  | .function token parameters body =>
    .taken token :: (parameters.map (fun name => .taken name.token) ++ body.mentions)
  | .call token function arguments => function.mentions ++ .taken token :: exprsMentions arguments

def exprsMentions : List Expr → List Mention
  | [] => []
  | expr :: rest => expr.mentions ++ exprsMentions rest

def Statement.mentions : Statement → List Mention
  | .binding token name value => .taken token :: .taken name.token :: value.mentions
  | .result token none => [.taken token]
  | .result token (some value) => .taken token :: value.mentions
  | .expression token expression => .noted token :: expression.mentions

def Block.mentions : Block → List Mention
  | .mk token statements => .taken token :: statementsMentions statements

def statementsMentions : List Statement → List Mention
  | [] => []
  | statement :: rest => statement.mentions ++ statementsMentions rest

end

def Program.mentions (program : Program) : List Mention := statementsMentions program.statements

/-- The tokens that are used, without the notes. -/
def taken (ms : List Mention) : List Token := ms.filterMap Mention.token?

@[simp]
theorem taken_nil : taken [] = [] := rfl

@[simp]
theorem taken_cons_taken (token : Token) (ms : List Mention) :
    taken (.taken token :: ms) = token :: taken ms := rfl

@[simp]
theorem taken_cons_noted (token : Token) (ms : List Mention) :
    taken (.noted token :: ms) = taken ms := rfl

@[simp]
theorem taken_append (ms ns : List Mention) : taken (ms ++ ns) = taken ms ++ taken ns :=
  List.filterMap_append

/-- No expression is without a token. -/
theorem Expr.taken_mentions_ne_nil (expr : Expr) : taken expr.mentions ≠ [] := by
  cases expr with
  | conditional token condition consequence alternative =>
      cases alternative <;> simp [Expr.mentions]
  | _ => simp [Expr.mentions]

theorem exprsMentions_eq_flatMap (exprs : List Expr) :
    exprsMentions exprs = exprs.flatMap Expr.mentions := by
  induction exprs with
  | nil => simp [exprsMentions]
  | cons expr rest ih => simp [exprsMentions, ih]

theorem statementsMentions_append (list rest : List Statement) :
    statementsMentions (list ++ rest) = statementsMentions list ++ statementsMentions rest := by
  induction list with
  | nil => simp [statementsMentions]
  | cons statement list ih => simp [statementsMentions, ih]

theorem Expr.mentions_conditional (token : Token) (condition : Expr) (consequence : Block)
    (alternative : Option Block) :
    (Expr.conditional token condition consequence alternative).mentions
      = .taken token :: (condition.mentions ++ (consequence.mentions ++
          alternative.toList.flatMap Block.mentions)) := by
  cases alternative <;> simp [Expr.mentions]

/-! ### Drawing from a list -/

/-- The mentions are drawn from the tokens from left to right. A note does not use its token up. -/
inductive Drawn : List Mention → List Token → Prop where
  | nil : Drawn [] []
  | skip {ms : List Mention} {ts : List Token} (t : Token) (h : Drawn ms ts) : Drawn ms (t :: ts)
  | take {ms : List Mention} {ts : List Token} (t : Token) (h : Drawn ms ts) :
      Drawn (.taken t :: ms) (t :: ts)
  | note {ms : List Mention} {ts : List Token} (t : Token) (h : Drawn ms (t :: ts)) :
      Drawn (.noted t :: ms) (t :: ts)

namespace Drawn

variable {ms ns : List Mention} {ts us : List Token}

theorem nothing (ts : List Token) : Drawn [] ts := by
  induction ts with
  | nil => exact .nil
  | cons t ts ih => exact .skip t ih

theorem append (h : Drawn ms ts) (h' : Drawn ns us) : Drawn (ms ++ ns) (ts ++ us) := by
  induction h with
  | nil => exact h'
  | skip t _ ih => exact .skip t ih
  | take t _ ih => exact .take t ih
  | note t _ ih => exact .note t ih

theorem taken_sublist (h : Drawn ms ts) : (taken ms).Sublist ts := by
  induction h with
  | nil => exact .slnil
  | skip t _ ih => exact .cons t ih
  | take t _ ih => exact .cons_cons t ih
  | note t _ ih => exact ih

/-- A note stands behind everything that is taken before it and not behind anything that is taken
after it. -/
theorem note_between (h : Drawn ms ts)
    (hts : ts.Pairwise fun t u => t.span.start < u.span.start) {before after : List Mention}
    {token : Token} (hms : ms = before ++ .noted token :: after) :
    token ∈ ts ∧ (∀ t ∈ taken before, t.span.start < token.span.start) ∧
      ∀ t ∈ taken after, token.span.start ≤ t.span.start := by
  induction h generalizing before with
  | nil => simp at hms
  | skip t _ ih =>
      obtain ⟨hmem, horder⟩ := ih (List.pairwise_cons.mp hts).2 hms
      exact ⟨.tail t hmem, horder⟩
  | take t _ ih =>
      obtain ⟨hfirst, hrest⟩ := List.pairwise_cons.mp hts
      cases before with
      | nil => cases hms
      | cons mention before =>
          obtain ⟨rfl, htail⟩ := List.cons.inj hms
          obtain ⟨hmem, hbefore, hafter⟩ := ih hrest htail
          refine ⟨.tail t hmem, ?_, hafter⟩
          rw [taken_cons_taken, List.forall_mem_cons]
          exact ⟨hfirst token hmem, hbefore⟩
  | @note ms ts t hdrawn ih =>
      -- The token is still there to be drawn, so what follows the note may begin with it.
      cases before with
      | nil =>
          obtain ⟨hhead, rfl⟩ := List.cons.inj hms
          cases hhead
          refine ⟨.head ts, by simp, fun u hu => ?_⟩
          rcases List.mem_cons.mp (hdrawn.taken_sublist.mem hu) with rfl | hmem
          · exact Nat.le_refl _
          · exact Nat.le_of_lt ((List.pairwise_cons.mp hts).1 u hmem)
      | cons mention before =>
          obtain ⟨rfl, htail⟩ := List.cons.inj hms
          rw [taken_cons_noted]
          exact ih hts htail

end Drawn

/-! ### What lies between two states -/

/-- The token, unless it is the end marker. -/
def Token.real (token : Token) : List Token := if token.kind = .eof then [] else [token]

theorem Token.real_of_ne_eof {token : Token} (h : token.kind ≠ .eof) : token.real = [token] :=
  if_neg h

theorem Lexer.dropLast_tokens (lexer : Lexer) :
    lexer.tokens.dropLast = lexer.next.1.real ++ lexer.next.2.tokens.dropLast := by
  by_cases heof : lexer.next.1.kind = .eof
  · have hagain := next_next_of_eof heof
    have heof' : lexer.next.2.next.1.kind = .eof := by rwa [hagain]
    rw [tokens_of_eof heof, tokens_of_eof heof', Token.real, if_pos heof]
    rfl
  · rw [tokens_of_ne_eof heof, Token.real_of_ne_eof heof,
      List.dropLast_cons_of_ne_nil (tokens_ne_nil _)]
    rfl

namespace ParseState

/-- The tokens behind the current one, without the end marker. -/
def ahead (s : ParseState) : List Token := s.peek.real ++ s.lexer.tokens.dropLast

/-- The tokens from the current one on, without the end marker. -/
def onward (s : ParseState) : List Token := s.current.real ++ s.ahead

theorem onward_of_ne_eof {s : ParseState} (h : s.current.kind ≠ .eof) :
    s.onward = s.current :: s.ahead := by
  rw [onward, Token.real_of_ne_eof h, List.singleton_append]

theorem onward_advance (s : ParseState) : s.advance.onward = s.ahead := by
  change s.peek.real ++ (s.lexer.next.1.real ++ s.lexer.next.2.tokens.dropLast) = _
  rw [← s.lexer.dropLast_tokens]
  rfl

theorem onward_start (maxDepth : Nat) (source : String) :
    (start maxDepth source).onward = (tokenize source).dropLast := by
  rw [start, onward_advance]
  change (Lexer.ofSource source).next.1.real ++ (Lexer.ofSource source).next.2.tokens.dropLast = _
  rw [← Lexer.dropLast_tokens]
  rfl

/-- From `ts` on, with `n` faults on record, the parser has come to the current token of `t`. The
mentions are drawn from what it has passed, and what was not drawn pays for the faults since. -/
def Reaches (ts : List Token) (n : Nat) (ms : List Mention) (t : ParseState) : Prop :=
  ∃ passed, ts = passed ++ t.ahead ∧ Drawn ms passed ∧
    (taken ms).length + t.faults.length ≤ n + passed.length

/-- The mentions are drawn from the tokens behind that of `s` up to that of `t`. -/
def Crosses (s : ParseState) (ms : List Mention) (t : ParseState) : Prop :=
  Reaches s.ahead s.faults.length ms t

/-- The mentions are drawn from the tokens from that of `s` up to that of `t`. -/
def Reads (s : ParseState) (ms : List Mention) (t : ParseState) : Prop :=
  Reaches s.onward s.faults.length ms t

variable {ts : List Token} {n : Nat} {ms ns : List Mention} {s t u : ParseState}

theorem Reaches.trans (h : Reaches ts n ms s) (h' : s.Crosses ns t) :
    Reaches ts n (ms ++ ns) t := by
  obtain ⟨passed, hts, hdrawn, hcount⟩ := h
  obtain ⟨passed', hahead, hdrawn', hcount'⟩ := h'
  refine ⟨passed ++ passed', ?_, hdrawn.append hdrawn', ?_⟩
  · rw [hts, hahead, List.append_assoc]
  · simp only [taken_append, List.length_append]
    omega

/-- What was drawn can be given up again. -/
theorem Reaches.forget (h : Reaches ts n ms t) : Reaches ts n [] t := by
  obtain ⟨passed, hts, -, hcount⟩ := h
  refine ⟨passed, hts, .nothing passed, ?_⟩
  rw [taken_nil, List.length_nil]
  omega

theorem Crosses.refl (s : ParseState) : s.Crosses [] s := ⟨[], rfl, .nil, by simp⟩

theorem Crosses.trans (h : s.Crosses ms t) (h' : t.Crosses ns u) : s.Crosses (ms ++ ns) u :=
  Reaches.trans h h'

theorem Reads.trans (h : s.Reads ms t) (h' : t.Crosses ns u) : s.Reads (ms ++ ns) u :=
  Reaches.trans h h'

theorem Crosses.forget (h : s.Crosses ms t) : s.Crosses [] t := Reaches.forget h

theorem crosses_iff_reads_advance : s.Crosses ms t ↔ s.advance.Reads ms t := by
  rw [Crosses, Reads, onward_advance]
  rfl

/-- The current token is passed without being drawn. -/
theorem Crosses.skip (h : s.Crosses ms t) : s.Reads ms t := by
  obtain ⟨passed, hahead, hdrawn, hcount⟩ := h
  refine ⟨s.current.real ++ passed, ?_, (Drawn.nothing s.current.real).append hdrawn, ?_⟩
  · rw [onward, hahead, List.append_assoc]
  · rw [List.length_append]
    omega

theorem Crosses.take (h : s.Crosses ms t) (hreal : s.current.kind ≠ .eof) :
    s.Reads (.taken s.current :: ms) t := by
  obtain ⟨passed, hahead, hdrawn, hcount⟩ := h
  refine ⟨s.current :: passed, ?_, hdrawn.take s.current, ?_⟩
  · rw [onward_of_ne_eof hreal, hahead, List.cons_append]
  · simp only [taken_cons_taken, List.length_cons]
    omega

/-- The current token pays for a fault. -/
theorem Crosses.record (h : s.Crosses ms t) (hreal : s.current.kind ≠ .eof) (fault : Fault) :
    s.Reads [] (t.record fault) := by
  obtain ⟨passed, hahead, -, hcount⟩ := h
  refine ⟨s.current :: passed, ?_, .nothing _, ?_⟩
  · rw [onward_of_ne_eof hreal, hahead, List.cons_append]
    rfl
  · have hfaults : (t.record fault).faults.length = t.faults.length + 1 := List.length_append
    simp only [taken_nil, List.length_nil, List.length_cons, hfaults]
    omega

theorem crosses_advance (s : ParseState) : s.Crosses [] s.advance :=
  crosses_iff_reads_advance.mpr (Crosses.refl s.advance).skip

theorem crosses_take_advance (hreal : s.peek.kind ≠ .eof) :
    s.Crosses [.taken s.peek] s.advance :=
  crosses_iff_reads_advance.mpr ((Crosses.refl s.advance).take hreal)

theorem crosses_resync (level : Nat) (s : ParseState) : s.Crosses [] (s.resync level).2 := by
  fun_induction ParseState.resync level s with
  | case1 s | case2 s | case3 s => exact .refl s
  | case4 s _ _ _ ih => exact (crosses_advance s).trans ih

/-- What passed from the current token on and drew something has passed the current token. -/
theorem Reads.exists_eq_cons (h : s.Reads ms t) (hms : taken ms ≠ [])
    (hreal : s.current.kind ≠ .eof) :
    ∃ passed, s.ahead = passed ++ t.ahead ∧ Drawn ms (s.current :: passed) ∧
      (taken ms).length + t.faults.length ≤ s.faults.length + (passed.length + 1) := by
  obtain ⟨passed, honward, hdrawn, hcount⟩ := h
  rw [onward_of_ne_eof hreal] at honward
  cases passed with
  | nil => exact absurd (List.sublist_nil.mp hdrawn.taken_sublist) hms
  | cons token passed =>
      obtain ⟨rfl, hahead⟩ := List.cons.inj honward
      exact ⟨passed, hahead, hdrawn, hcount⟩

theorem Reads.note (h : s.Reads ms t) (hms : taken ms ≠ []) (hreal : s.current.kind ≠ .eof) :
    s.Reads (.noted s.current :: ms) t := by
  obtain ⟨passed, hahead, hdrawn, hcount⟩ := h.exists_eq_cons hms hreal
  refine ⟨s.current :: passed, ?_, hdrawn.note s.current, hcount⟩
  rw [onward_of_ne_eof hreal, hahead, List.cons_append]

/-- Giving up what was drawn leaves the current token unspent. -/
theorem Reads.giveUp (h : s.Reads ms t) (hms : taken ms ≠ []) (hreal : s.current.kind ≠ .eof) :
    s.Crosses [] t := by
  obtain ⟨passed, hahead, -, hcount⟩ := h.exists_eq_cons hms hreal
  have hpos : 0 < (taken ms).length := List.length_pos_iff.mpr hms
  refine ⟨passed, hahead, .nothing passed, ?_⟩
  rw [taken_nil, List.length_nil]
  omega

end ParseState

/-! ### What readers draw -/

/-- How a reader may end that belongs to what was begun behind the current token of `s`: where `Q`
says, or with a fault, and then nothing is drawn. -/
def Ending.Draws {α : Type} (s : ParseState) (Q : α → ParseState → Prop) : Ending α → Prop
  | .ok a t => Q a t
  | .error _ t => s.Crosses [] t

/-- A reader that starts behind the current token draws the mentions of what it yields. -/
def ParseM.Draws {α : Type} (mentions : α → List Mention) (m : ParseM α) : Prop :=
  ∀ s, Ending.Draws s (fun a t => s.Crosses (mentions a) t) (m s)

namespace Ending.Draws

variable {α β : Type} {Q : α → ParseState → Prop} {R : β → ParseState → Prop} {m : ParseM α}
  {k : α → ParseM β} {f : α → β} {mentions : α → List Mention} {ms : List Mention}
  {s t u : ParseState} {fault : Fault} {ending : Ending α}

theorem of_ok {a : α} (h : Draws s Q (m u)) (hrun : m u = .ok a t) : Q a t := by
  rwa [hrun] at h

theorem of_error (h : Draws s Q (m u)) (hrun : m u = .error fault t) : s.Crosses [] t := by
  rwa [hrun] at h

theorem bind (hm : Draws s Q (m u)) (hk : ∀ a t, Q a t → Draws s R (k a t)) :
    Draws s R ((m >>= k) u) := by
  cases hrun : m u with
  | ok a t =>
      rw [bind_of_ok hrun]
      exact hk a t (hm.of_ok hrun)
  | error fault t =>
      rw [bind_of_error hrun]
      exact hm.of_error hrun

theorem map (hm : Draws s Q (m u)) (hf : ∀ a t, Q a t → R (f a) t) : Draws s R ((f <$> m) u) := by
  rw [map_apply]
  cases hrun : m u with
  | ok a t => exact hf a t (hm.of_ok hrun)
  | error fault t => exact hm.of_error hrun

theorem imp {Q' : α → ParseState → Prop} (h : Draws s Q ending) (hQ : ∀ a t, Q a t → Q' a t) :
    Draws s Q' ending := by
  cases ending with
  | ok a t => exact hQ a t h
  | error fault t => exact h

/-- What belongs to something begun at `u` belongs to what was begun at `s` and has come to `u`. -/
theorem since (h : s.Crosses ms u) (hending : Draws u Q ending) : Draws s Q ending := by
  cases ending with
  | ok a t => exact hending
  | error fault t => exact h.forget.trans hending

/-- A reader that starts where `ms` are drawn already, and then what comes after it. -/
theorem next (h : s.Crosses ms u) (hm : m.Draws mentions)
    (hk : ∀ a t, s.Crosses (ms ++ mentions a) t → Draws s R (k a t)) : Draws s R ((m >>= k) u) :=
  (since h (hm u)).bind fun a t ht => hk a t (h.trans ht)

theorem advanced (h : Draws s.advance (fun a t => s.advance.Reads (mentions a) t) ending) :
    Draws s (fun a t => s.Crosses (mentions a) t) ending :=
  since s.crosses_advance (h.imp fun _ _ ht => ParseState.crosses_iff_reads_advance.mpr ht)

theorem nested (h : Draws s Q (m s.enter)) (hQ : ∀ a t, Q a t → Q a t.leave) :
    Draws s Q (ParseM.nested m s) := by
  unfold ParseM.nested
  split
  · exact .refl s
  · cases hrun : m s.enter with
    | ok a t => exact hQ a t (h.of_ok hrun)
    | error fault t =>
        change s.Crosses [] t
        exact h.of_error hrun

end Ending.Draws

theorem draws_expectPeek {kind : TokenKind} (hkind : kind ≠ .eof) (s : ParseState) :
    Ending.Draws s (fun _ t => t.current.kind = kind ∧ s.Crosses [.taken t.current] t)
      (expectPeek kind s) := by
  unfold expectPeek
  split
  · rename_i hpeek
    exact ⟨hpeek, ParseState.crosses_take_advance (by rwa [hpeek])⟩
  · exact .refl s

theorem draws_punctuation (kind : TokenKind) (hkind : kind ≠ .eof) :
    (expectPeek kind).Draws fun _ => [] :=
  fun s => (draws_expectPeek hkind s).imp fun _ _ ht => ht.2.forget

theorem draws_skipSemicolon : skipSemicolon.Draws fun _ => [] := by
  intro s
  by_cases hkind : s.peek.kind = .semicolon
  · rw [skipSemicolon_of_kind hkind]
    exact s.crosses_advance
  · rw [skipSemicolon_of_kind_ne hkind]
    exact .refl s

theorem draws_parameter : parameter.Draws fun name => [.taken name.token] :=
  fun s => (draws_expectPeek (by simp) s).bind fun _ _ ht => ht.2

section Enumerations

variable {α : Type} {item : ParseM α} {more : Nat → ParseM (List α)} {items : ParseM (List α)}
  {mentions : α → List Mention}

theorem draws_more (henum : Enumeration item more items) (hitem : item.Draws mentions)
    (steps : Nat) : (more steps).Draws (·.flatMap mentions) := by
  induction steps with
  | zero =>
      intro s
      rw [henum.more_zero]
      exact .refl s
  | succ steps ih =>
      intro s
      by_cases hkind : s.peek.kind = .comma
      · rw [henum.more_of_comma hkind]
        refine .next s.crosses_advance hitem fun first t ht => ?_
        exact .next ht ih fun rest u hu => hu
      · rw [henum.more_of_comma_ne hkind]
        exact .refl s

theorem draws_items (henum : Enumeration item more items) (hitem : item.Draws mentions) :
    items.Draws (·.flatMap mentions) := by
  intro s
  by_cases hkind : s.peek.kind = .rightParen
  · rw [henum.items_of_paren hkind]
    exact s.crosses_advance
  · rw [henum.items_of_paren_ne hkind]
    refine .next (.refl s) hitem fun first t ht => ?_
    rw [bind_of_ok (get_apply t)]
    refine .next ht (draws_more henum hitem t.remaining) fun rest u hu => ?_
    refine .next hu (draws_punctuation .rightParen (by simp)) fun _ v hv => ?_
    rwa [List.append_nil] at hv

end Enumerations

theorem TokenKind.ne_eof_of_continues {least : Precedence} {kind : TokenKind}
    (h : kind.continues least = true) : kind ≠ .eof := by
  obtain ⟨rule, hrule⟩ := ContinueRule.exists_of_continues h
  rintro rfl
  cases hrule

/-- Inner phrases draw their tokens, the current one included. -/
structure Inner.Draws (inner : Inner) : Prop where
  expression : ∀ (least : Precedence) (s : ParseState),
    Ending.Draws s (fun expr t => s.Reads expr.mentions t) (inner.expression least s)
  block : ∀ {s : ParseState}, s.current.kind ≠ .eof →
    Ending.Draws s (fun block t => s.Reads block.mentions t) (inner.block s)

section Readers

variable {inner : Inner} (hinner : inner.Draws)
include hinner

theorem draws_argument : (argument inner).Draws Expr.mentions :=
  fun s => (hinner.expression .lowest s.advance).advanced

theorem draws_groupRest : (groupRest inner).Draws Expr.mentions := by
  intro s
  refine (draws_argument hinner s).bind fun expr t ht => ?_
  refine .next ht (draws_punctuation .rightParen (by simp)) fun _ u hu => ?_
  rwa [List.append_nil] at hu

theorem draws_braced : (braced inner).Draws Block.mentions := by
  intro s
  by_cases hkind : s.peek.kind = .leftBrace
  · rw [braced, bind_of_ok (expectPeek_of_kind hkind)]
    exact (hinner.block (by simp [hkind])).advanced
  · have hfails : expectPeek .leftBrace s = .error (s.peekFault .leftBrace) s := if_neg hkind
    rw [braced, bind_of_error hfails]
    exact .refl s

theorem draws_elseBranch :
    (elseBranch inner).Draws fun alternative => alternative.toList.flatMap Block.mentions := by
  intro s
  by_cases hkind : s.peek.kind = .kwElse
  · rw [elseBranch_of_else hkind]
    refine (Ending.Draws.since s.crosses_advance (draws_braced hinner s.advance)).map ?_
    intro block t ht
    simpa using s.crosses_advance.trans ht
  · rw [elseBranch_of_else_ne hkind]
    exact .refl s

variable {s : ParseState}

/-! ### Expressions -/

theorem draws_unaryRest (operator : UnaryOp) (hreal : s.current.kind ≠ .eof) :
    Ending.Draws s (fun expr t => s.Reads expr.mentions t) (unaryRest inner operator s) := by
  refine (hinner.expression .unary s.advance).advanced.bind fun right t ht => ?_
  change s.Reads (Expr.unary s.current operator right).mentions t
  rw [Expr.mentions]
  exact ht.take hreal

theorem draws_conditionalRest (hreal : s.current.kind ≠ .eof) :
    Ending.Draws s (fun expr t => s.Reads expr.mentions t) (conditionalRest inner s) := by
  rw [conditionalRest, bind_of_ok (current_apply s)]
  refine .next (.refl s) (draws_punctuation .leftParen (by simp)) fun _ t ht => ?_
  refine .next ht (draws_groupRest hinner) fun condition u hu => ?_
  refine .next hu (draws_braced hinner) fun consequence v hv => ?_
  refine .next hv (draws_elseBranch hinner) fun alternative w hw => ?_
  change s.Reads (Expr.conditional s.current condition consequence alternative).mentions w
  rw [Expr.mentions_conditional]
  simpa using hw.take hreal

theorem draws_functionRest (hreal : s.current.kind ≠ .eof) :
    Ending.Draws s (fun expr t => s.Reads expr.mentions t) (functionRest inner s) := by
  have hparameters := draws_items enumeration_parameters draws_parameter
  rw [functionRest, bind_of_ok (current_apply s)]
  refine .next (.refl s) (draws_punctuation .leftParen (by simp)) fun _ t ht => ?_
  refine .next ht hparameters fun names u hu => ?_
  refine .next hu (draws_braced hinner) fun body v hv => ?_
  change s.Reads (Expr.function s.current names body).mentions v
  rw [Expr.mentions]
  simpa [List.map_eq_flatMap] using hv.take hreal

theorem draws_start (s : ParseState) :
    Ending.Draws s (fun expr t => s.current.kind ≠ .eof ∧ s.Reads expr.mentions t)
      (ParseM.start inner s) := by
  cases hrule : StartRule.ofKind? s.current.kind with
  | none =>
      rw [start_of_none hrule]
      exact .refl s
  | some rule =>
      rw [start_of_rule hrule]
      have hreal : s.current.kind ≠ .eof := by
        intro heof
        rw [heof] at hrule
        cases hrule
      have hself : s.Reads [.taken s.current] s := (ParseState.Crosses.refl s).take hreal
      suffices h : Ending.Draws s (fun expr t => s.Reads expr.mentions t) (rule.parse inner s) from
        h.imp fun _ _ ht => ⟨hreal, ht⟩
      cases rule with
      | identifier => exact hself
      | integer =>
          change Ending.Draws s _ (integerLiteral s)
          cases hvalue : s.current.integer? with
          | some value =>
              rw [integerLiteral_of_some hvalue]
              exact hself
          | none =>
              rw [integerLiteral_of_none hvalue]
              exact .refl s
      | boolean => exact hself
      | unary operator => exact draws_unaryRest hinner operator hreal
      | group => exact (draws_groupRest hinner s).imp fun _ _ ht => ht.skip
      | conditional => exact draws_conditionalRest hinner hreal
      | function => exact draws_functionRest hinner hreal

/-- What continues an expression is drawn behind the expression. -/
theorem draws_continueRule (left : Expr) (rule : ContinueRule) (hreal : s.current.kind ≠ .eof) :
    Ending.Draws s (fun expr t => ∃ ms, expr.mentions = left.mentions ++ ms ∧ s.Reads ms t)
      (rule.parse inner left s) := by
  cases rule with
  | binary operator =>
      refine (hinner.expression _ s.advance).advanced.bind fun right t ht => ?_
      refine ⟨.taken s.current :: right.mentions, ?_, ht.take hreal⟩
      rw [Expr.mentions]
  | call =>
      have harguments := draws_items (enumeration_arguments inner) (draws_argument hinner) s
      refine harguments.bind fun exprs t ht => ?_
      refine ⟨.taken s.current :: exprsMentions exprs, ?_, ?_⟩
      · rw [Expr.mentions]
      · rw [exprsMentions_eq_flatMap]
        exact ht.take hreal

theorem draws_continued (least : Precedence) (steps : Nat) (left : Expr) (s : ParseState) :
    Ending.Draws s (fun expr t => ∃ ms, expr.mentions = left.mentions ++ ms ∧ s.Crosses ms t)
      (continued inner least steps left s) := by
  induction steps generalizing s left with
  | zero => exact ⟨[], (List.append_nil _).symm, .refl s⟩
  | succ steps ih =>
      cases hcontinues : s.peek.kind.continues least with
      | false =>
          rw [continued_of_continues_eq_false hcontinues]
          exact ⟨[], (List.append_nil _).symm, .refl s⟩
      | true =>
          obtain ⟨rule, hrule⟩ := ContinueRule.exists_of_continues hcontinues
          have hreal : s.advance.current.kind ≠ .eof := TokenKind.ne_eof_of_continues hcontinues
          rw [continued_of_rule hcontinues hrule]
          refine Ending.Draws.bind (.since s.crosses_advance
            (draws_continueRule hinner left rule hreal)) ?_
          rintro longer t ⟨ms, hlonger, ht⟩
          have hcrosses := ParseState.crosses_iff_reads_advance.mpr ht
          refine (Ending.Draws.since hcrosses (ih longer t)).imp ?_
          rintro expr u ⟨ns, hexpr, hu⟩
          refine ⟨ms ++ ns, ?_, hcrosses.trans hu⟩
          rw [hexpr, hlonger, List.append_assoc]

theorem draws_expressionBody (least : Precedence) (s : ParseState) :
    Ending.Draws s (fun expr t => s.Reads expr.mentions t) (expressionBody inner least s) := by
  refine (draws_start hinner s).bind fun left t ht => ?_
  obtain ⟨hreal, hreads⟩ := ht
  -- Where a continuation fails, what was read before it is lost, and its first token is free again.
  have hcrosses : s.Crosses [] t := hreads.giveUp left.taken_mentions_ne_nil hreal
  refine (Ending.Draws.since hcrosses (draws_continued hinner least t.remaining left t)).imp ?_
  rintro expr u ⟨ms, hexpr, hu⟩
  rw [hexpr]
  exact hreads.trans hu

/-! ### Statements -/

theorem draws_letStatement (hreal : s.current.kind ≠ .eof) :
    Ending.Draws s (fun statement t => s.Reads statement.mentions t) (letStatement inner s) := by
  refine (draws_expectPeek (by simp) s).bind fun _ t ht => ?_
  rw [bind_of_ok (current_apply t)]
  refine .next ht.2 (draws_punctuation .assign (by simp)) fun _ u hu => ?_
  rw [bind_of_ok (advance_apply u), ← argument_bind]
  refine .next hu (draws_argument hinner) fun value v hv => ?_
  refine .next hv draws_skipSemicolon fun _ w hw => ?_
  change s.Reads (Statement.binding s.current (.ofToken t.current) value).mentions w
  rw [Statement.mentions, Identifier.ofToken]
  simpa using hw.take hreal

theorem draws_returnStatement (hreal : s.current.kind ≠ .eof) :
    Ending.Draws s (fun statement t => s.Reads statement.mentions t) (returnStatement inner s) := by
  by_cases hstops : s.peek.kind.Stops
  · rw [returnStatement_of_stops hstops]
    refine (draws_skipSemicolon s).map fun _ t ht => ?_
    rw [Statement.mentions]
    exact ht.take hreal
  · rw [returnStatement_of_not_stops hstops]
    refine (draws_argument hinner s).bind fun value t ht => ?_
    refine .next ht draws_skipSemicolon fun _ u hu => ?_
    change s.Reads (Statement.result s.current (some value)).mentions u
    rw [Statement.mentions]
    simpa using hu.take hreal

theorem draws_expressionStatement (hreal : s.current.kind ≠ .eof) :
    Ending.Draws s (fun statement t => s.Reads statement.mentions t)
      (expressionStatement inner s) := by
  refine (hinner.expression .lowest s).bind fun expr t ht => ?_
  have hne := expr.taken_mentions_ne_nil
  refine (Ending.Draws.since (ht.giveUp hne hreal) (draws_skipSemicolon t)).bind fun _ u hu => ?_
  change s.Reads (Statement.expression s.current expr).mentions u
  rw [Statement.mentions]
  simpa using (ht.note hne hreal).trans hu

theorem draws_statement (hreal : s.current.kind ≠ .eof) :
    Ending.Draws s (fun found t => s.Reads (statementsMentions found.toList) t)
      (statement inner s) := by
  have hsome : ∀ (found : Statement) (t : ParseState), s.Reads found.mentions t →
      s.Reads (statementsMentions (some found).toList) t := by
    intro found t ht
    simpa [statementsMentions] using ht
  by_cases hlet : s.current.kind = .kwLet
  · rw [statement_of_let hlet]
    exact (draws_letStatement hinner hreal).map hsome
  by_cases hreturn : s.current.kind = .kwReturn
  · rw [statement_of_return hreturn]
    exact (draws_returnStatement hinner hreal).map hsome
  by_cases hsemicolon : s.current.kind = .semicolon
  · rw [statement_of_semicolon hsemicolon]
    exact (ParseState.Crosses.refl s).skip
  · rw [statement_of_other hlet hreturn hsemicolon]
    exact (draws_expressionStatement hinner hreal).map hsome

/-- A statement that is given up pays for its fault. -/
theorem reads_of_error {t : ParseState} {fault : Fault} (hreal : s.current.kind ≠ .eof)
    (hrun : statement inner s = .error fault t) (level : Nat) :
    s.Reads [] ((t.record fault).resync level).2 := by
  have hcrosses := (draws_statement hinner hreal).of_error hrun
  exact (hcrosses.record hreal fault).trans (ParseState.crosses_resync level _)

/-- The list is started from the token before it, which is the brace or the end of a statement. -/
theorem draws_blockStatements (level steps : Nat) (s : ParseState) :
    Ending.Draws s (fun list t => s.Crosses (statementsMentions list) t)
      (blockStatements inner level steps s.advance) := by
  induction steps generalizing s with
  | zero => exact s.crosses_advance
  | succ steps ih =>
      by_cases hbrace : s.advance.current.kind = .rightBrace
      · rw [blockStatements_of_brace hbrace]
        exact s.crosses_advance
      by_cases heof : s.advance.current.kind = .eof
      · rw [blockStatements_of_eof heof]
        exact s.crosses_advance
      cases hrun : statement inner s.advance with
      | ok found t =>
          rw [blockStatements_of_ok hbrace heof hrun]
          have hfound := ParseState.crosses_iff_reads_advance.mpr
            ((draws_statement hinner heof).of_ok hrun)
          refine (Ending.Draws.since hfound (ih t)).map fun rest u hu => ?_
          rw [statementsMentions_append]
          exact hfound.trans hu
      | error fault t =>
          have hsync := ParseState.crosses_iff_reads_advance.mpr
            (reads_of_error hinner heof hrun level)
          cases hclosed : ((t.record fault).resync level).1 with
          | true =>
              rw [blockStatements_of_error_of_closed hbrace heof hrun hclosed]
              exact hsync
          | false =>
              rw [blockStatements_of_error_of_open hbrace heof hrun hclosed]
              exact (Ending.Draws.since hsync (ih _)).imp fun list u hu => hsync.trans hu

theorem draws_blockBody (hreal : s.current.kind ≠ .eof) :
    Ending.Draws s (fun block t => s.Reads block.mentions t) (blockBody inner s) := by
  rw [blockBody_apply]
  refine (draws_blockStatements hinner s.braces _ s).map fun list t ht => ?_
  rw [Block.mentions]
  exact ht.take hreal

theorem reads_programStatements (steps : Nat) (s : ParseState) :
    s.Reads (statementsMentions (s.programStatements inner steps).1)
      (s.programStatements inner steps).2 := by
  induction steps generalizing s with
  | zero => exact (ParseState.Crosses.refl s).skip
  | succ steps ih =>
      by_cases heof : s.current.kind = .eof
      · rw [programStatements_of_eof heof]
        exact (ParseState.Crosses.refl s).skip
      cases hrun : statement inner s with
      | ok found t =>
          rw [programStatements_of_ok heof hrun, statementsMentions_append]
          have hfound := (draws_statement hinner heof).of_ok hrun
          exact hfound.trans (ParseState.crosses_iff_reads_advance.mpr (ih t.advance))
      | error fault t =>
          rw [programStatements_of_error heof hrun]
          have hsync := reads_of_error hinner heof hrun 0
          exact hsync.trans (ParseState.crosses_iff_reads_advance.mpr (ih _))

end Readers

theorem Inner.draws_level (n : Nat) : (Inner.level n).Draws := by
  induction n with
  | zero => exact ⟨fun _ s => .refl s, fun _ => .refl _⟩
  | succ n ih =>
      constructor
      · intro least s
        exact .nested (draws_expressionBody ih least s.enter) fun _ _ ht => ht
      · intro s hreal
        exact .nested (draws_blockBody (s := s.enter) ih hreal) fun _ _ ht => ht

/-- A program is drawn from the tokens of its source, and what is not drawn pays for the faults. -/
theorem exists_drawn_parse (maxDepth : Nat) (source : String) :
    ∃ passed rest, (tokenize source).dropLast = passed ++ rest ∧
      Drawn (parse maxDepth source).program.mentions passed ∧
      (taken (parse maxDepth source).program.mentions).length
        + (parse maxDepth source).faults.length ≤ passed.length := by
  obtain ⟨passed, honward, hdrawn, hcount⟩ := reads_programStatements
    (Inner.draws_level maxDepth) (ParseState.start maxDepth source).remaining
    (ParseState.start maxDepth source)
  rw [ParseState.onward_start] at honward
  refine ⟨passed, _, honward, hdrawn, ?_⟩
  exact hcount.trans_eq (Nat.zero_add _)

/-- **The tree is a selection of the tokens.** Whatever is given up, the tokens that the program
uses are tokens of its source, in the order of the source and none of them twice. Where an
expression statement notes its first token, that is a token of the source behind all that is used
before it, and nothing that is used from there on is before it. -/
theorem program_selects_tokens (maxDepth : Nat) (source : String) :
    (taken (parse maxDepth source).program.mentions).Sublist (tokenize source) ∧
      (taken (parse maxDepth source).program.mentions).Pairwise
        (fun t u => t.span.start < u.span.start) ∧
      ∀ before token after,
        (parse maxDepth source).program.mentions = before ++ .noted token :: after →
        token ∈ tokenize source ∧ (∀ t ∈ taken before, t.span.start < token.span.start) ∧
          ∀ t ∈ taken after, token.span.start ≤ t.span.start := by
  obtain ⟨passed, rest, htokens, hdrawn, -⟩ := exists_drawn_parse maxDepth source
  have hpassed : passed.Sublist (tokenize source) := by
    refine (List.sublist_append_left passed rest).trans ?_
    rw [← htokens]
    exact List.dropLast_sublist _
  have hsublist := hdrawn.taken_sublist.trans hpassed
  have horder := pairwise_start_tokenize source
  refine ⟨hsublist, horder.sublist hsublist, fun before token after hmentions => ?_⟩
  obtain ⟨hmem, hbetween⟩ := hdrawn.note_between (horder.sublist hpassed) hmentions
  exact ⟨hpassed.mem hmem, hbetween⟩

/-- In a function, after a statement that is given up, an expression that begins with a
parenthesis. -/
theorem program_selects_tokens_of_group :
    (parse 9 "fn(x) \x7b let 1; (y) \x7d").program.mentions
        = [.noted ⟨.kwFn, "fn", ⟨0, 2, 1, 1⟩⟩, .taken ⟨.kwFn, "fn", ⟨0, 2, 1, 1⟩⟩,
            .taken ⟨.identifier, "x", ⟨3, 4, 1, 4⟩⟩, .taken ⟨.leftBrace, "\x7b", ⟨6, 7, 1, 7⟩⟩]
          ++ .noted ⟨.leftParen, "(", ⟨15, 16, 1, 16⟩⟩
          :: [.taken ⟨.identifier, "y", ⟨16, 17, 1, 17⟩⟩] ∧
      (⟨.leftParen, "(", ⟨15, 16, 1, 16⟩⟩ : Token) ∈ tokenize "fn(x) \x7b let 1; (y) \x7d" :=
  have hmentions : (parse 9 "fn(x) \x7b let 1; (y) \x7d").program.mentions
      = [.noted ⟨.kwFn, "fn", ⟨0, 2, 1, 1⟩⟩, .taken ⟨.kwFn, "fn", ⟨0, 2, 1, 1⟩⟩,
          .taken ⟨.identifier, "x", ⟨3, 4, 1, 4⟩⟩, .taken ⟨.leftBrace, "\x7b", ⟨6, 7, 1, 7⟩⟩]
        ++ .noted ⟨.leftParen, "(", ⟨15, 16, 1, 16⟩⟩
        :: [.taken ⟨.identifier, "y", ⟨16, 17, 1, 17⟩⟩] := by decide +kernel
  ⟨hmentions, ((program_selects_tokens 9 "fn(x) \x7b let 1; (y) \x7d").2.2 _ _ _ hmentions).1⟩

end MonkeySyntax
