import MonkeySyntax.Parsing.Parser
import MonkeySyntax.Proofs.Layers
import MonkeySyntax.Proofs.Outcome
import MonkeySyntax.Proofs.Stream

/-!
# What the grammar derives, the parser reads

A reader of a phrase starts on the first token of the phrase and stops on its last one. What it
makes of the phrase depends on the token after it, so every statement below is about a phrase in
front of an arbitrary stream `rest` whose first token does not carry the phrase on.

For expressions the loop over operators has no counterpart in the layered grammar. What is shown of
a derivation in a layer is that the loop, wherever it was entered, comes by way of that derivation's
tree (`Phrase.ReadBy`): a left operand is then a stage of the same loop, and only right operands are
read by a loop of their own.
-/

namespace MonkeySyntax

/-! ### Reading up to a given rest -/

/-- Nothing but the place in the source distinguishes the states. -/
structure ParseState.Alike (t s : ParseState) : Prop where
  faults : t.faults = s.faults
  depth : t.depth = s.depth
  maxDepth : t.maxDepth = s.maxDepth

namespace ParseState.Alike

variable {s t u : ParseState}

theorem refl (s : ParseState) : s.Alike s := ⟨rfl, rfl, rfl⟩

theorem advance (s : ParseState) : s.advance.Alike s := ⟨rfl, rfl, rfl⟩

theorem trans (hut : u.Alike t) (hts : t.Alike s) : u.Alike s :=
  ⟨hut.faults.trans hts.faults, hut.depth.trans hts.depth, hut.maxDepth.trans hts.maxDepth⟩

/-- A level further in nothing is lost but the level. -/
theorem leave (h : t.Alike s.enter) : t.leave.Alike s := by
  refine ⟨h.faults, ?_, h.maxDepth⟩
  change t.depth - 1 = s.depth
  rw [h.depth]
  exact Nat.add_sub_cancel _ _

theorem room {n : Nat} (h : t.Alike s) (hroom : s.depth + n = s.maxDepth) :
    t.depth + n = t.maxDepth := by
  rw [h.depth, h.maxDepth, hroom]

end ParseState.Alike

/-- The reader makes `value` of what lies between the state and `rest`, and stops just before
`rest`. -/
def ParseM.Reads {α : Type} (m : ParseM α) (s : ParseState) (value : α) (rest : Stream' Token) :
    Prop :=
  ∃ t, m s = .ok value t ∧ t.stream.tail = rest ∧ t.Alike s

theorem ParseState.peek_of_tail {s : ParseState} {rest : Stream' Token}
    (h : s.stream.tail = rest) : s.peek = rest.head := by
  rw [← h, s.head_tail_stream]

/-- No expression is carried on by a token of this kind, however loosely. -/
def TokenKind.Closes (kind : TokenKind) : Prop := kind ≠ .kwElse ∧ kind.precedence = .lowest

theorem TokenKind.Stops.closes {kind : TokenKind} (h : kind.Stops) : kind.Closes := by
  rcases h with rfl | rfl | rfl <;> exact ⟨by decide, rfl⟩

/-- The reader of inner phrases reads every phrase of up to `n` tokens where `n` more levels of
nesting are allowed. -/
structure Inner.Complete (inner : Inner) (n : Nat) : Prop where
  expression : ∀ {ts : List Token} {layer : Layer} {expr : Expr} {least : Precedence}
    {s : ParseState} {rest : Stream' Token}, Derives .strict ts (.expression layer expr) →
    ts.length ≤ n → layer.Admits least → s.stream = ts ++ₛ rest → s.depth + n = s.maxDepth →
    rest.head.kind ≠ .kwElse → rest.head.kind.continues least = false →
    (inner.expression least).Reads s expr rest
  block : ∀ {ts : List Token} {block : Block} {s : ParseState} {rest : Stream' Token},
    Derives .strict ts (.block block) → ts.length ≤ n → s.stream = ts ++ₛ rest →
    s.depth + n = s.maxDepth → inner.block.Reads s block rest

/-! ### First tokens -/

theorem TokenKind.not_stops_of_start {kind : TokenKind} (h : StartRule.ofKind? kind ≠ none) :
    ¬ kind.Stops := by
  rintro (rfl | rfl | rfl) <;> exact h rfl

namespace Derives

variable {punctuation : Punctuation} {ts : List Token}

theorem exists_start {phrase : Phrase} (h : Derives punctuation ts phrase) {layer : Layer}
    {expr : Expr} (hphrase : phrase = .expression layer expr) :
    ∃ t us, ts = t :: us ∧ StartRule.ofKind? t.kind ≠ none := by
  induction h generalizing layer expr with
  | operand _ _ ih => exact ih rfl
  | binary _ _ _ _ ih =>
      obtain ⟨t, us, rfl, ht⟩ := ih rfl
      exact ⟨t, _, rfl, ht⟩
  | unary hsign => exact ⟨_, _, rfl, by simp [StartRule.ofKind?_eq_unary_iff.mpr hsign]⟩
  | call _ _ _ _ ih =>
      obtain ⟨t, us, rfl, ht⟩ := ih rfl
      exact ⟨t, _, rfl, ht⟩
  | identifier htoken | integer htoken | true htoken | false htoken | group htoken
  | conditional htoken | function htoken =>
      exact ⟨_, _, rfl, by simp [htoken, StartRule.ofKind?]⟩
  | _ => cases hphrase

theorem exists_statement_start {statement : Statement}
    (h : Derives punctuation ts (.statement statement)) :
    ∃ t us, ts = t :: us ∧ ¬ t.kind.Stops := by
  cases h with
  | binding htoken | noResult htoken | result htoken =>
      exact ⟨_, _, rfl, by simp [TokenKind.Stops, htoken]⟩
  | expression hexpr =>
      obtain ⟨t, us, heq, ht⟩ := hexpr.exists_start rfl
      exact ⟨t, us, heq, TokenKind.not_stops_of_start ht⟩

theorem length_pos_of_expression {layer : Layer} {expr : Expr}
    (h : Derives punctuation ts (.expression layer expr)) : 0 < ts.length := by
  obtain ⟨t, us, rfl, -⟩ := h.exists_start rfl
  simp

theorem real {phrase : Phrase} (h : Derives punctuation ts phrase) : ∀ t ∈ ts, t.kind ≠ .eof :=
  fun t ht => (h.usable t ht).1

theorem head_closes {exprs : List Expr} {rest : Stream' Token}
    (h : Derives punctuation ts (.moreArguments exprs)) (hrest : rest.head.kind.Closes) :
    (ts ++ₛ rest).head.kind.Closes := by
  cases h with
  | noMoreArguments => exact hrest
  | nextArgument hcomma =>
      exact ⟨by simp [Stream'.cons_append_stream, hcomma],
        by simp [Stream'.cons_append_stream, hcomma, TokenKind.precedence]⟩

end Derives

/-! ### Readers around an expression or a block -/

theorem ParseM.Reads.of_advance {α : Type} {m : ParseM α} {a : α} {s : ParseState}
    {rest : Stream' Token} (h : m.Reads s.advance a rest) :
    ∃ t, m s.advance = .ok a t ∧ t.stream.tail = rest ∧ t.Alike s := by
  obtain ⟨t, hrun, hrest, halike⟩ := h
  exact ⟨t, hrun, hrest, halike.trans (.advance s)⟩

section Readers

open ParseM

variable {inner : Inner} {n : Nat} {s : ParseState} {ts : List Token} {rest : Stream' Token}

theorem reads_expectPeek {token : Token} {kind : TokenKind}
    (hs : s.stream.tail = Stream'.cons token rest) (htoken : token.kind = kind) :
    (expectPeek kind).Reads s () rest := by
  have hpeek : s.peek = token := s.peek_of_tail hs
  refine ⟨s.advance, expectPeek_of_kind (by rw [hpeek, htoken]), ?_, .advance s⟩
  rw [s.stream_advance, hs, Stream'.tail_cons]

theorem Inner.Complete.lowest (hinner : inner.Complete n) {expr : Expr}
    (h : Derives .strict ts (.expression .equality expr)) (hlen : ts.length ≤ n)
    (hs : s.stream = ts ++ₛ rest) (hroom : s.depth + n = s.maxDepth)
    (hrest : rest.head.kind.Closes) : (inner.expression .lowest).Reads s expr rest := by
  refine hinner.expression h hlen ⟨by decide, Or.inl (by decide)⟩ hs hroom hrest.1 ?_
  rw [Bool.eq_false_iff, Ne, TokenKind.continues_iff, hrest.2]
  exact Nat.lt_irrefl _

theorem reads_groupRest (hinner : inner.Complete n) {closing : Token} {expr : Expr}
    (h : Derives .strict ts (.expression .equality expr)) (hlen : ts.length ≤ n)
    (hs : s.stream.tail = ts ++ₛ Stream'.cons closing rest) (hroom : s.depth + n = s.maxDepth)
    (hclosing : closing.kind = .rightParen) : (groupRest inner).Reads s expr rest := by
  have hexpr : (inner.expression .lowest).Reads s.advance expr (Stream'.cons closing rest) :=
    hinner.lowest h hlen (by rw [s.stream_advance, hs]) hroom
      ⟨by simp [hclosing], by simp [hclosing, TokenKind.precedence]⟩
  obtain ⟨t, hrun, hmid, halike⟩ := hexpr.of_advance
  obtain ⟨u, hrun', hrest, halike'⟩ := reads_expectPeek hmid hclosing
  refine ⟨u, ?_, hrest, halike'.trans halike⟩
  simp [groupRest, bind_apply, map_apply, hrun, hrun']

theorem reads_braced (hinner : inner.Complete n) {block : Block}
    (h : Derives .strict ts (.block block)) (hlen : ts.length ≤ n)
    (hs : s.stream.tail = ts ++ₛ rest) (hroom : s.depth + n = s.maxDepth) :
    (braced inner).Reads s block rest := by
  obtain ⟨opening, us, rfl, hopening⟩ : ∃ opening us, ts = opening :: us ∧
      opening.kind = .leftBrace := by
    cases h with
    | block hopening => exact ⟨_, _, rfl, hopening⟩
  have hpeek : s.peek = opening := s.peek_of_tail hs
  have hblock : inner.block.Reads s.advance block rest :=
    hinner.block h hlen (by rw [s.stream_advance, hs]) hroom
  obtain ⟨t, hrun, hrest, halike⟩ := hblock.of_advance
  refine ⟨t, ?_, hrest, halike⟩
  rw [braced, bind_of_ok (expectPeek_of_kind (by rw [hpeek, hopening])), hrun]

theorem reads_elseBranch (hinner : inner.Complete n) {alternative : Option Block}
    (h : Derives .strict ts (.alternative alternative)) (hlen : ts.length ≤ n)
    (hs : s.stream.tail = ts ++ₛ rest) (hroom : s.depth + n = s.maxDepth)
    (hrest : rest.head.kind ≠ .kwElse) : (elseBranch inner).Reads s alternative rest := by
  cases h with
  | noAlternative =>
      have hpeek : s.peek = rest.head := s.peek_of_tail hs
      refine ⟨s, ?_, hs, .refl s⟩
      simp [elseBranch, bind_apply, hpeek, hrest]
  | @alternative us token block htoken hblock =>
      have hpeek : s.peek = token := s.peek_of_tail hs
      have hbraced : (braced inner).Reads s.advance block rest := by
        refine reads_braced hinner hblock (Nat.le_of_succ_le hlen) ?_ hroom
        rw [s.stream_advance, hs]
        rfl
      obtain ⟨t, hrun, hrest, halike⟩ := hbraced.of_advance
      refine ⟨t, ?_, hrest, halike⟩
      simp [elseBranch, bind_apply, map_apply, hpeek, htoken, hrun]

theorem reads_parameter {name : Token} (hs : s.stream.tail = Stream'.cons name rest)
    (hname : name.kind = .identifier) : parameter.Reads s (.ofToken name) rest := by
  have hpeek : s.peek = name := s.peek_of_tail hs
  refine ⟨s.advance, ?_, ?_, .advance s⟩
  · rw [parameter, bind_of_ok (expectPeek_of_kind (by rw [hpeek, hname]))]
    simp [bind_apply, hpeek]
  · rw [s.stream_advance, hs, Stream'.tail_cons]

theorem reads_moreParameters {names : List Identifier} (h : MoreParameters ts names) {fuel : Nat}
    (hfuel : ts.length ≤ fuel) (hs : s.stream.tail = ts ++ₛ rest)
    (hrest : rest.head.kind ≠ .comma) : (moreParameters fuel).Reads s names rest := by
  induction h generalizing s fuel with
  | nil =>
      have hpeek : s.peek = rest.head := s.peek_of_tail hs
      refine ⟨s, ?_, hs, .refl s⟩
      cases fuel <;> simp [moreParameters, bind_apply, hpeek, hrest]
  | @cons comma name ts names hcomma hname _ ih =>
      obtain ⟨steps, rfl⟩ : ∃ steps, fuel = steps + 1 :=
        Nat.exists_eq_succ_of_ne_zero (by rintro rfl; simp at hfuel)
      have hpeek : s.peek = comma := s.peek_of_tail hs
      have hparameter : parameter.Reads s.advance (.ofToken name) (ts ++ₛ rest) :=
        reads_parameter (by rw [s.stream_advance, hs]; rfl) hname
      obtain ⟨t, hrun, hmid, halike⟩ := hparameter.of_advance
      have hsteps : ts.length ≤ steps := by
        simp only [List.length_cons] at hfuel
        omega
      obtain ⟨u, hrun', hrest, halike'⟩ := ih hsteps hmid
      refine ⟨u, ?_, hrest, halike'.trans halike⟩
      simp [moreParameters, bind_apply, map_apply, hpeek, hcomma, hrun, hrun']

theorem reads_parameters {names : List Identifier} (h : Parameters ts names) {closing : Token}
    (hs : s.stream.tail = ts ++ₛ Stream'.cons closing rest)
    (hclosing : closing.kind = .rightParen) : parameters.Reads s names rest := by
  cases h with
  | none =>
      have hpeek : s.peek = closing := s.peek_of_tail hs
      refine ⟨s.advance, ?_, ?_, .advance s⟩
      · simp [parameters, bind_apply, map_apply, hpeek, hclosing]
      · rw [s.stream_advance, hs]
        rfl
  | @some name ts names hname hmore =>
      have hpeek : s.peek = name := s.peek_of_tail hs
      obtain ⟨t, hrun, hmid, halike⟩ := reads_parameter hs hname
      have hfuel : ts.length ≤ t.remaining :=
        ParseState.length_le_remaining_of_tail hmid fun u hu => (hmore.usable u hu).1
      obtain ⟨u, hrun', hmid', halike'⟩ :=
        reads_moreParameters hmore hfuel hmid (by simp [hclosing])
      obtain ⟨v, hrun'', hrest, halike''⟩ := reads_expectPeek hmid' hclosing
      refine ⟨v, ?_, hrest, halike''.trans (halike'.trans halike)⟩
      simp [parameters, bind_apply, map_apply, hpeek, hname, hrun, hrun', hrun'']

end Readers

/-! ### One phrase at a time -/

/-- The loop over operators, entered with `left` at `t`, comes by way of `expr` just before `rest`,
passing the tokens `ts` for it. Each of these pays for at most one round, so any fuel left over
beyond their number is still there. -/
def Inner.ComesBy (inner : Inner) (least : Precedence) (left : Expr) (t : ParseState)
    (ts : List Token) (expr : Expr) (rest : Stream' Token) : Prop :=
  ∀ k, ∃ k' u, k ≤ k' ∧ ParseM.continued inner least (k + ts.length) left t
    = ParseM.continued inner least k' expr u ∧ u.stream.tail = rest ∧ u.Alike t

theorem Inner.ComesBy.step {inner : Inner} {least : Precedence} {left expr next : Expr}
    {t : ParseState} {ts us : List Token} {sign : Token} {rest : Stream' Token}
    {rule : ContinueRule} (h : inner.ComesBy least left t ts expr ((sign :: us) ++ₛ rest))
    (hcontinues : sign.kind.continues least = true)
    (hrule : ContinueRule.ofKind? sign.kind = some rule)
    (hreads : ∀ u : ParseState, u.stream.tail = (sign :: us) ++ₛ rest → u.Alike t →
      (rule.parse inner expr).Reads u.advance next rest) :
    inner.ComesBy least left t (ts ++ sign :: us) next rest := by
  intro k
  obtain ⟨k', u, hk, heq, hu, halike⟩ := h (k + 1 + us.length)
  obtain ⟨j, rfl⟩ : ∃ j, k' = j + 1 := Nat.exists_eq_succ_of_ne_zero (by omega)
  have hpeek : u.peek = sign := u.peek_of_tail hu
  obtain ⟨w, hrun, hrest, halike'⟩ := (hreads u hu halike).of_advance
  refine ⟨j, w, by omega, ?_, hrest, halike'.trans halike⟩
  have hlen : k + (ts ++ sign :: us).length = k + 1 + us.length + ts.length := by
    simp only [List.length_append, List.length_cons]
    omega
  rw [hlen, heq, ParseM.continued]
  simp [ParseM.bind_apply, hpeek, hcontinues, hrule, hrun]

/-- What reading the tokens `ts` with an inner reader for `n` levels does if they are the phrase. -/
def Phrase.ReadBy (inner : Inner) (n : Nat) (ts : List Token) : Phrase → Prop
  | expression layer expr => ts.length ≤ n + 1 → ∀ least, layer.Admits least → ∀ s rest,
      s.stream = ts ++ₛ rest → s.depth + n = s.maxDepth → rest.head.kind ≠ .kwElse →
      rest.head.kind.precedence.rank ≤ layer.rank →
      ∃ left us, (ParseM.start inner).Reads s left (us ++ₛ rest) ∧ (∀ u ∈ us, u.kind ≠ .eof) ∧
        ∀ t, t.stream.tail = us ++ₛ rest → t.Alike s → inner.ComesBy least left t us expr rest
  | arguments exprs => ts.length ≤ n → ∀ s rest closing,
      s.stream.tail = ts ++ₛ Stream'.cons closing rest → closing.kind = .rightParen →
      s.depth + n = s.maxDepth → (ParseM.arguments inner).Reads s exprs rest
  | moreArguments exprs => ts.length ≤ n → ∀ s rest fuel, ts.length ≤ fuel →
      s.stream.tail = ts ++ₛ rest → rest.head.kind.Closes → rest.head.kind ≠ .comma →
      s.depth + n = s.maxDepth → (ParseM.moreArguments inner fuel).Reads s exprs rest
  | .block body => ts.length ≤ n + 1 → ∀ s rest, s.stream = ts ++ₛ rest →
      s.depth + n = s.maxDepth → (ParseM.blockBody inner).Reads s body rest
  | alternative _ => True
  | .statement found => ts.length ≤ n → ∀ s rest, s.stream = ts ++ₛ rest →
      s.depth + n = s.maxDepth → rest.head.kind.Stops →
      ∃ t, ParseM.statement inner s = .ok (some found) t ∧ t.Alike s ∧
        (rest.head.kind = .semicolon ∧ t.stream = rest ∨
          rest.head.kind ≠ .semicolon ∧ t.stream.tail = rest)
  | list statements => ts.length ≤ n → ∀ s rest fuel, s.stream = ts ++ₛ rest →
      s.depth + n = s.maxDepth →
      (rest.head.kind = .rightBrace → ts.length < fuel → ∀ level, ∃ t,
        ParseM.blockStatements inner level fuel s = .ok statements t ∧ t.stream = rest ∧
          t.Alike s) ∧
      (rest.head.kind = .eof → ts.length ≤ fuel → ∃ t,
        s.programStatements inner fuel = (statements, t) ∧ t.stream = rest ∧ t.Alike s)

namespace Phrase.ReadBy

open ParseM

variable {inner : Inner} {n : Nat} {ts us : List Token}

theorem of_start {layer : Layer} {expr : Expr}
    (h : ts.length ≤ n + 1 → ∀ s rest, s.stream = ts ++ₛ rest → s.depth + n = s.maxDepth →
      rest.head.kind ≠ .kwElse → rest.head.kind.precedence.rank ≤ layer.rank →
      (start inner).Reads s expr rest) :
    (expression layer expr).ReadBy inner n ts := by
  intro hlen least _ s rest hs hroom helse hrank
  refine ⟨expr, [], h hlen s rest hs hroom helse hrank, by simp, ?_⟩
  intro t ht halike k
  exact ⟨k, t, Nat.le_refl k, rfl, ht, .refl t⟩

theorem operand {layer operand : Layer} {expr : Expr} (hlayer : layer.operand? = some operand)
    (h : (expression operand expr).ReadBy inner n ts) :
    (expression layer expr).ReadBy inner n ts := by
  have hnext := Layer.rank_operand? hlayer
  intro hlen least hadmits s rest hs hroom helse hrank
  exact h hlen least ⟨hadmits.1, by have := hadmits.2; omega⟩ s rest hs hroom helse (by omega)

theorem binary {layer operand : Layer} {sign : Token} {left right : Expr} {operator : BinaryOp}
    (hinner : inner.Complete n) (hlayer : layer.operand? = some operand)
    (hleft : (expression layer left).ReadBy inner n ts)
    (hsign : layer.binary? sign.kind = some operator)
    (hright : Derives .strict us (.expression operand right)) :
    (expression layer (.binary sign left operator right)).ReadBy inner n (ts ++ sign :: us) := by
  obtain ⟨hprecedence, hbinary, hrule⟩ := Layer.of_binary? hsign
  have hnext := Layer.rank_operand? hlayer
  intro hlen least hadmits s rest hs hroom helse hrank
  have htight : least.rank < layer.rank := by
    have := hadmits.2
    omega
  have hlens : ts.length + us.length ≤ n := by
    simp only [List.length_append, List.length_cons] at hlen
    omega
  rw [Stream'.append_append_stream] at hs
  have hnotElse : sign.kind ≠ .kwElse := by
    rintro h
    simp [h, ContinueRule.ofKind?] at hrule
  obtain ⟨first, vs, hfirst, hreal, hcomes⟩ :=
    hleft (by omega) least hadmits s _ hs hroom hnotElse (Nat.le_of_eq hprecedence)
  rw [← Stream'.append_append_stream] at hfirst hcomes
  refine ⟨first, vs ++ sign :: us, hfirst, ?_, ?_⟩
  · simp only [List.forall_mem_append, List.forall_mem_cons]
    exact ⟨hreal, (Layer.usable_of_binary? hsign).1, hright.real⟩
  intro t ht halike
  have hcontinues : sign.kind.continues least = true := by
    rw [TokenKind.continues_iff]
    omega
  refine (hcomes t ht halike).step hcontinues hrule ?_
  -- the right operand is read by a loop of its own, which `rest` ends
  intro u hu halike'
  have hstops : rest.head.kind.continues sign.kind.precedence = false := by
    rw [Bool.eq_false_iff, Ne, TokenKind.continues_iff]
    omega
  have hoperand : (inner.expression sign.kind.precedence).Reads u.advance.advance right rest := by
    refine hinner.expression hright (by omega) ⟨by omega, Or.inl (by omega)⟩ ?_
      ((halike'.trans halike).room hroom) helse hstops
    rw [ParseState.stream_advance, ParseState.stream_advance, hu]
    rfl
  obtain ⟨w, hrun, hrest, halike''⟩ := hoperand.of_advance
  refine ⟨w, ?_, hrest, halike''⟩
  have hpeek : u.peek = sign := u.peek_of_tail hu
  simp [ContinueRule.parse, binaryRest, bind_apply, map_apply, hpeek, hrun]

theorem call {opening closing : Token} {function : Expr} {exprs : List Expr}
    (hfunction : (expression .call function).ReadBy inner n ts)
    (hopening : opening.kind = .leftParen) (harguments : Derives .strict us (.arguments exprs))
    (hread : (arguments exprs).ReadBy inner n us) (hclosing : closing.kind = .rightParen) :
    (expression .call (.call opening function exprs)).ReadBy inner n
      (ts ++ opening :: (us ++ [closing])) := by
  intro hlen least hadmits s rest hs hroom helse hrank
  have hlens : ts.length + us.length ≤ n := by
    simp only [List.length_append, List.length_cons] at hlen
    omega
  rw [Stream'.append_append_stream] at hs
  obtain ⟨first, vs, hfirst, hreal, hcomes⟩ := hfunction (by omega) least hadmits s _ hs hroom
    (show opening.kind ≠ .kwElse by simp [hopening])
    (show opening.kind.precedence.rank ≤ _ by simp [hopening, TokenKind.precedence,
      Precedence.rank, Layer.rank])
  rw [← Stream'.append_append_stream] at hfirst hcomes
  refine ⟨first, vs ++ opening :: (us ++ [closing]), hfirst, ?_, ?_⟩
  · simp only [List.forall_mem_append, List.forall_mem_cons]
    exact ⟨hreal, by simp [hopening], harguments.real, by simp [hclosing], by simp⟩
  intro t ht halike
  have hcontinues : opening.kind.continues least = true := by
    rw [TokenKind.continues_iff, hopening]
    exact Nat.lt_of_le_of_lt hadmits.1 (by decide)
  refine (hcomes t ht halike).step hcontinues (by rw [hopening]; rfl) ?_
  intro u hu halike'
  have hlist : (ParseM.arguments inner).Reads u.advance exprs rest := by
    refine hread (by omega) u.advance rest closing ?_ hclosing ((halike'.trans halike).room hroom)
    rw [ParseState.stream_advance, hu, Stream'.cons_append_stream, Stream'.tail_cons,
      Stream'.append_append_stream]
    rfl
  obtain ⟨w, hrun, hrest, halike''⟩ := hlist
  refine ⟨w, ?_, hrest, halike''⟩
  have hpeek : u.peek = opening := u.peek_of_tail hu
  simp [ContinueRule.parse, callRest, bind_apply, map_apply, hpeek, hrun]

theorem unary {sign : Token} {right : Expr} {operator : UnaryOp} (hinner : inner.Complete n)
    (hsign : UnaryOp.ofKind? sign.kind = some operator)
    (hright : Derives .strict ts (.expression .unary right)) :
    (expression .unary (.unary sign operator right)).ReadBy inner n (sign :: ts) := by
  refine of_start fun hlen s rest hs hroom helse hrank => ?_
  have hcurrent : s.current = sign := by rw [← s.head_stream, hs]; rfl
  have hrule : StartRule.ofKind? sign.kind = some (.unary operator) :=
    StartRule.ofKind?_eq_unary_iff.mpr hsign
  have hstops : rest.head.kind.continues .unary = false := by
    rw [Bool.eq_false_iff, Ne, TokenKind.continues_iff]
    exact Nat.not_lt_of_le hrank
  have hoperand : (inner.expression .unary).Reads s.advance right rest := by
    refine hinner.expression hright (Nat.le_of_succ_le_succ hlen) ⟨by decide, Or.inr (by decide)⟩ ?_
      hroom helse hstops
    rw [s.stream_advance, hs]
    rfl
  obtain ⟨t, hrun, hrest, halike⟩ := hoperand.of_advance
  refine ⟨t, ?_, hrest, halike⟩
  simp [start, StartRule.parse, unaryRest, bind_apply, map_apply, hcurrent, hrule, hrun]

theorem of_token {token : Token} {expr : Expr}
    (h : ∀ s, s.current = token → start inner s = .ok expr s) :
    (expression .primary expr).ReadBy inner n [token] := by
  refine of_start fun _ s rest hs _ _ _ => ?_
  have hcurrent : s.current = token := by rw [← s.head_stream, hs]; rfl
  refine ⟨s, h s hcurrent, ?_, .refl s⟩
  rw [hs]
  rfl

theorem identifier {token : Token} (htoken : token.kind = .identifier) :
    (expression .primary (.identifier (.ofToken token))).ReadBy inner n [token] := by
  refine of_token fun s hs => ?_
  simp [start, StartRule.parse, StartRule.ofKind?, bind_apply, map_apply, hs, htoken]

theorem integer {token : Token} (htoken : token.kind = .integer)
    (hvalue : decimalValue token.literal < 2 ^ 63) :
    (expression .primary (.integer token (.ofNat (decimalValue token.literal)))).ReadBy inner n
      [token] := by
  refine of_token fun s hs => ?_
  have hle : decimalValue token.literal ≤ maxInteger := Nat.le_sub_one_of_lt hvalue
  subst hs
  rw [start_of_rule (StartRule.ofKind?_eq_integer_iff.mpr htoken)]
  exact integerLiteral_of_some (Token.integer?_of_le htoken hle)

theorem boolean {token : Token} (htoken : token.kind = .kwTrue ∨ token.kind = .kwFalse) :
    (expression .primary (.boolean token (token.kind = .kwTrue))).ReadBy inner n [token] := by
  refine of_token fun s hs => ?_
  rcases htoken with htoken | htoken <;>
    simp [start, StartRule.parse, StartRule.ofKind?, bind_apply, map_apply, hs, htoken]

theorem group {opening closing : Token} {expr : Expr} (hinner : inner.Complete n)
    (hopening : opening.kind = .leftParen)
    (hexpr : Derives .strict ts (.expression .equality expr))
    (hclosing : closing.kind = .rightParen) :
    (expression .primary expr).ReadBy inner n (opening :: (ts ++ [closing])) := by
  refine of_start fun hlen s rest hs hroom _ _ => ?_
  simp only [List.length_cons, List.length_append] at hlen
  have hcurrent : s.current = opening := by rw [← s.head_stream, hs]; rfl
  obtain ⟨t, hrun, hrest, halike⟩ := reads_groupRest hinner hexpr (by omega)
    (by rw [hs, Stream'.cons_append_stream, Stream'.tail_cons, Stream'.append_append_stream]; rfl)
    hroom hclosing
  refine ⟨t, ?_, hrest, halike⟩
  simp [start, StartRule.parse, StartRule.ofKind?, bind_apply, hcurrent, hopening, hrun]

theorem conditional {vs : List Token} {token opening closing : Token} {condition : Expr}
    {consequence : Block} {alternative : Option Block} (hinner : inner.Complete n)
    (htoken : token.kind = .kwIf) (hopening : opening.kind = .leftParen)
    (hcondition : Derives .strict ts (.expression .equality condition))
    (hclosing : closing.kind = .rightParen)
    (hconsequence : Derives .strict us (.block consequence))
    (halternative : Derives .strict vs (.alternative alternative)) :
    (expression .primary (.conditional token condition consequence alternative)).ReadBy inner n
      (token :: opening :: (ts ++ closing :: (us ++ vs))) := by
  refine of_start fun hlen s rest hs hroom helse _ => ?_
  simp only [List.length_cons, List.length_append] at hlen
  have hcurrent : s.current = token := by rw [← s.head_stream, hs]; rfl
  obtain ⟨t₁, hrun₁, hmid₁, halike₁⟩ : (expectPeek .leftParen).Reads s () _ :=
    reads_expectPeek (by rw [hs]; rfl) hopening
  obtain ⟨t₂, hrun₂, hmid₂, halike₂⟩ := reads_groupRest hinner hcondition (by omega)
    (by rw [hmid₁, Stream'.append_append_stream]; rfl) (halike₁.room hroom) hclosing
  have halike₂ := halike₂.trans halike₁
  obtain ⟨t₃, hrun₃, hmid₃, halike₃⟩ := reads_braced hinner hconsequence (by omega)
    (by rw [hmid₂, Stream'.append_append_stream]) (halike₂.room hroom)
  have halike₃ := halike₃.trans halike₂
  obtain ⟨t, hrun₄, hrest, halike₄⟩ := reads_elseBranch hinner halternative (by omega) hmid₃
    (halike₃.room hroom) helse
  refine ⟨t, ?_, hrest, halike₄.trans halike₃⟩
  simp [start, StartRule.parse, StartRule.ofKind?, conditionalRest, bind_apply, map_apply, hcurrent,
    htoken, hrun₁, hrun₂, hrun₃, hrun₄]

theorem function {token opening closing : Token} {names : List Identifier} {body : Block}
    (hinner : inner.Complete n) (htoken : token.kind = .kwFn)
    (hopening : opening.kind = .leftParen) (hnames : Parameters ts names)
    (hclosing : closing.kind = .rightParen) (hbody : Derives .strict us (.block body)) :
    (expression .primary (.function token names body)).ReadBy inner n
      (token :: opening :: (ts ++ closing :: us)) := by
  refine of_start fun hlen s rest hs hroom _ _ => ?_
  simp only [List.length_cons, List.length_append] at hlen
  have hcurrent : s.current = token := by rw [← s.head_stream, hs]; rfl
  obtain ⟨t₁, hrun₁, hmid₁, halike₁⟩ : (expectPeek .leftParen).Reads s () _ :=
    reads_expectPeek (by rw [hs]; rfl) hopening
  obtain ⟨t₂, hrun₂, hmid₂, halike₂⟩ := reads_parameters hnames
    (by rw [hmid₁, Stream'.append_append_stream]; rfl) hclosing
  have halike₂ := halike₂.trans halike₁
  obtain ⟨t, hrun₃, hrest, halike₃⟩ := reads_braced hinner hbody (by omega) hmid₂
    (halike₂.room hroom)
  refine ⟨t, ?_, hrest, halike₃.trans halike₂⟩
  simp [start, StartRule.parse, StartRule.ofKind?, functionRest, bind_apply, map_apply, hcurrent,
    htoken, hrun₁, hrun₂, hrun₃]

theorem noArguments : (arguments []).ReadBy inner n [] := by
  intro _ s rest closing hs hclosing _
  have hpeek : s.peek = closing := s.peek_of_tail hs
  refine ⟨s.advance, ?_, ?_, .advance s⟩
  · simp [ParseM.arguments, bind_apply, hpeek, hclosing]
  · rw [s.stream_advance, hs]
    rfl

theorem someArguments {expr : Expr} {exprs : List Expr} (hinner : inner.Complete n)
    (hexpr : Derives .strict ts (.expression .equality expr))
    (hmore : Derives .strict us (.moreArguments exprs))
    (hread : (moreArguments exprs).ReadBy inner n us) :
    (arguments (expr :: exprs)).ReadBy inner n (ts ++ us) := by
  intro hlen s rest closing hs hclosing hroom
  simp only [List.length_append] at hlen
  rw [Stream'.append_append_stream] at hs
  have hcloses : closing.kind.Closes :=
    ⟨by simp [hclosing], by simp [hclosing, TokenKind.precedence]⟩
  obtain ⟨first, vs, rfl, hfirst⟩ := hexpr.exists_start rfl
  have hpeek : s.peek = first := s.peek_of_tail hs
  have hnotClosing : first.kind ≠ .rightParen := by
    intro h
    simp [h, StartRule.ofKind?] at hfirst
  have hstream : s.advance.stream = (first :: vs) ++ₛ (us ++ₛ Stream'.cons closing rest) := by
    rw [s.stream_advance, hs]
  obtain ⟨t₁, hrun₁, hmid₁, halike₁⟩ :=
    (hinner.lowest hexpr (by omega) hstream hroom (hmore.head_closes hcloses)).of_advance
  have hfuel : us.length ≤ t₁.remaining :=
    ParseState.length_le_remaining_of_tail hmid₁ hmore.real
  obtain ⟨t₂, hrun₂, hmid₂, halike₂⟩ := hread (by omega) t₁ _ t₁.remaining hfuel hmid₁ hcloses
    (by simp [hclosing]) (halike₁.room hroom)
  obtain ⟨t, hrun₃, hrest, halike₃⟩ := reads_expectPeek hmid₂ hclosing
  refine ⟨t, ?_, hrest, halike₃.trans (halike₂.trans halike₁)⟩
  simp [ParseM.arguments, bind_apply, map_apply, hpeek, hnotClosing, hrun₁, hrun₂, hrun₃]

theorem noMoreArguments : (moreArguments []).ReadBy inner n [] := by
  intro _ s rest fuel _ hs _ hcomma _
  have hpeek : s.peek = rest.head := s.peek_of_tail hs
  refine ⟨s, ?_, hs, .refl s⟩
  cases fuel <;> simp [ParseM.moreArguments, bind_apply, hpeek, hcomma]

theorem nextArgument {comma : Token} {expr : Expr} {exprs : List Expr}
    (hinner : inner.Complete n) (hcomma : comma.kind = .comma)
    (hexpr : Derives .strict ts (.expression .equality expr))
    (hmore : Derives .strict us (.moreArguments exprs))
    (hread : (moreArguments exprs).ReadBy inner n us) :
    (moreArguments (expr :: exprs)).ReadBy inner n (comma :: (ts ++ us)) := by
  intro hlen s rest fuel hfuel hs hcloses hnotComma hroom
  simp only [List.length_cons, List.length_append] at hlen hfuel
  obtain ⟨steps, rfl⟩ : ∃ steps, fuel = steps + 1 := Nat.exists_eq_succ_of_ne_zero (by omega)
  have hpeek : s.peek = comma := s.peek_of_tail hs
  have hstream : s.advance.advance.stream = ts ++ₛ (us ++ₛ rest) := by
    rw [ParseState.stream_advance, ParseState.stream_advance, hs, ← Stream'.append_append_stream]
    rfl
  obtain ⟨t₁, hrun₁, hmid₁, halike₁⟩ :=
    hinner.lowest hexpr (by omega) hstream hroom (hmore.head_closes hcloses)
  have halike₁ : t₁.Alike s := halike₁.trans ((ParseState.Alike.advance _).trans (.advance s))
  obtain ⟨t, hrun₂, hrest, halike₂⟩ := hread (by omega) t₁ rest steps (by omega) hmid₁ hcloses
    hnotComma (halike₁.room hroom)
  refine ⟨t, ?_, hrest, halike₂.trans halike₁⟩
  simp [ParseM.moreArguments, bind_apply, map_apply, hpeek, hcomma, hrun₁, hrun₂]

theorem block {opening closing : Token} {statements : List Statement}
    (hlist : Derives .strict ts (.list statements))
    (hread : (list statements).ReadBy inner n ts) (hclosing : closing.kind = .rightBrace) :
    (block (.mk opening statements)).ReadBy inner n (opening :: (ts ++ [closing])) := by
  intro hlen s rest hs hroom
  simp only [List.length_cons, List.length_append] at hlen
  have hcurrent : s.current = opening := by rw [← s.head_stream, hs]; rfl
  have hstream : s.advance.stream = ts ++ [closing] ++ₛ rest := by
    rw [s.stream_advance, hs]
    rfl
  have hfuel : (ts ++ [closing]).length ≤ s.advance.remaining := by
    refine ParseState.length_le_remaining hstream ?_
    simp only [List.forall_mem_append, List.forall_mem_cons]
    exact ⟨hlist.real, by simp [hclosing], by simp⟩
  rw [List.length_append] at hfuel
  rw [Stream'.append_append_stream] at hstream
  obtain ⟨t, hrun, hrest, halike⟩ := (hread (by omega) s.advance _ s.advance.remaining hstream
    hroom).1 hclosing hfuel s.braces
  refine ⟨t, ?_, ?_, halike.trans (.advance s)⟩
  · simp [blockBody, bind_apply, map_apply, hcurrent, hrun]
  · rw [hrest]
    rfl

theorem exists_skipSemicolon {t : ParseState} {rest : Stream' Token}
    (ht : t.stream.tail = rest) :
    ∃ u, skipSemicolon t = .ok () u ∧ u.Alike t ∧
      (rest.head.kind = .semicolon ∧ u.stream = rest ∨
        rest.head.kind ≠ .semicolon ∧ u.stream.tail = rest) := by
  have hpeek : t.peek = rest.head := t.peek_of_tail ht
  by_cases hsemicolon : rest.head.kind = .semicolon
  · refine ⟨t.advance, skipSemicolon_of_kind (by rw [hpeek, hsemicolon]), .advance t, Or.inl ?_⟩
    exact ⟨hsemicolon, by rw [t.stream_advance, ht]⟩
  · refine ⟨t, skipSemicolon_of_kind_ne (by rwa [hpeek]), .refl t, Or.inr ⟨hsemicolon, ht⟩⟩

theorem binding {token name sign : Token} {value : Expr} (hinner : inner.Complete n)
    (htoken : token.kind = .kwLet) (hname : name.kind = .identifier)
    (hsign : sign.kind = .assign)
    (hvalue : Derives .strict ts (.expression .equality value)) :
    (statement (.binding token (.ofToken name) value)).ReadBy inner n
      (token :: name :: sign :: ts) := by
  intro hlen s rest hs hroom hstops
  simp only [List.length_cons] at hlen
  have hcurrent : s.current = token := by rw [← s.head_stream, hs]; rfl
  have hpeek : s.peek = name := by rw [← s.head_tail_stream, hs]; rfl
  have hpeek' : s.advance.peek = sign := by
    rw [← s.advance.head_tail_stream, s.stream_advance, hs]
    rfl
  have hstream : s.advance.advance.advance.stream = ts ++ₛ rest := by
    rw [ParseState.stream_advance, ParseState.stream_advance, ParseState.stream_advance, hs]
    rfl
  obtain ⟨t, hrun, hmid, halike⟩ := hinner.lowest hvalue (by omega) hstream hroom hstops.closes
  obtain ⟨u, hrun', halike', hrest⟩ := exists_skipSemicolon hmid
  refine ⟨u, ?_, halike'.trans (halike.trans ⟨rfl, rfl, rfl⟩), hrest⟩
  rw [statement_of_let (by rw [hcurrent, htoken]), map_of_ok]
  rw [letStatement, bind_of_ok (current_apply s),
    bind_of_ok (expectPeek_of_kind (by rw [hpeek, hname])), bind_of_ok (current_apply _),
    bind_of_ok (expectPeek_of_kind (by rw [hpeek', hsign]))]
  simp [bind_apply, map_apply, hcurrent, hpeek, hrun, hrun']

theorem noResult {token : Token} (htoken : token.kind = .kwReturn) :
    (statement (.result token none)).ReadBy inner n [token] := by
  intro _ s rest hs _ hstops
  have hcurrent : s.current = token := by rw [← s.head_stream, hs]; rfl
  have hmid : s.stream.tail = rest := by rw [hs]; rfl
  have hpeek : s.peek.kind.Stops := by rwa [s.peek_of_tail hmid]
  obtain ⟨u, hrun, halike, hrest⟩ := exists_skipSemicolon hmid
  refine ⟨u, ?_, halike, hrest⟩
  rw [statement_of_return (by rw [hcurrent, htoken]), map_of_ok]
  rw [returnStatement_of_stops hpeek, map_of_ok hrun, hcurrent]

theorem result {token : Token} {value : Expr} (hinner : inner.Complete n)
    (htoken : token.kind = .kwReturn)
    (hvalue : Derives .strict ts (.expression .equality value)) :
    (statement (.result token (some value))).ReadBy inner n (token :: ts) := by
  intro hlen s rest hs hroom hstops
  have hcurrent : s.current = token := by rw [← s.head_stream, hs]; rfl
  have hstream : s.advance.stream = ts ++ₛ rest := by
    rw [s.stream_advance, hs]
    rfl
  have hpeek : ¬ s.peek.kind.Stops := by
    obtain ⟨first, us, rfl, hfirst⟩ := hvalue.exists_start rfl
    rw [← s.head_tail_stream, hs]
    exact TokenKind.not_stops_of_start hfirst
  obtain ⟨t, hrun, hmid, halike⟩ :=
    (hinner.lowest hvalue (Nat.le_of_succ_le hlen) hstream hroom hstops.closes).of_advance
  obtain ⟨u, hrun', halike', hrest⟩ := exists_skipSemicolon hmid
  refine ⟨u, ?_, halike'.trans halike, hrest⟩
  rw [statement_of_return (by rw [hcurrent, htoken]), map_of_ok]
  rw [returnStatement_of_not_stops hpeek]
  simp [bind_apply, map_apply, hcurrent, hrun, hrun']

theorem expressionStatement {token : Token} {expr : Expr} (hinner : inner.Complete n)
    (hexpr : Derives .strict (token :: ts) (.expression .equality expr)) :
    (statement (.expression token expr)).ReadBy inner n (token :: ts) := by
  intro hlen s rest hs hroom hstops
  have hcurrent : s.current = token := by rw [← s.head_stream, hs]; rfl
  obtain ⟨t, hrun, hmid, halike⟩ := hinner.lowest hexpr hlen hs hroom hstops.closes
  obtain ⟨u, hrun', halike', hrest⟩ := exists_skipSemicolon hmid
  refine ⟨u, ?_, halike'.trans halike, hrest⟩
  have hstart : StartRule.ofKind? s.current.kind ≠ none := by
    obtain ⟨_, _, heq, hfirst⟩ := hexpr.exists_start rfl
    obtain ⟨rfl, rfl⟩ := List.cons.inj heq
    rwa [hcurrent]
  have hother : ∀ kind, StartRule.ofKind? kind = none → s.current.kind ≠ kind := by
    rintro _ hnone rfl
    exact hstart hnone
  rw [statement_of_other (hother _ rfl) (hother _ rfl) (hother _ rfl), map_of_ok]
  simp [ParseM.expressionStatement, bind_apply, map_apply, hcurrent, hrun, hrun']

theorem nil : (list []).ReadBy inner n [] := by
  intro _ s rest fuel hs _
  have hcurrent : s.current = rest.head := by rw [← s.head_stream, hs]; rfl
  constructor
  · intro hbrace hfuel level
    obtain ⟨steps, rfl⟩ : ∃ steps, fuel = steps + 1 :=
      Nat.exists_eq_succ_of_ne_zero (Nat.ne_of_gt hfuel)
    refine ⟨s, ?_, hs, .refl s⟩
    simp [blockStatements, hcurrent, hbrace]
  · intro heof _
    refine ⟨s, ?_, hs, .refl s⟩
    cases fuel <;> simp [ParseState.programStatements, hcurrent, heof]

theorem empty {token : Token} {statements : List Statement} (htoken : token.kind = .semicolon)
    (hread : (list statements).ReadBy inner n ts) :
    (list statements).ReadBy inner n (token :: ts) := by
  intro hlen s rest fuel hs hroom
  have hcurrent : s.current.kind = .semicolon := by rw [← s.head_stream, hs]; exact htoken
  have hstream : s.advance.stream = ts ++ₛ rest := by
    rw [s.stream_advance, hs]
    rfl
  constructor
  · intro hbrace hfuel level
    obtain ⟨steps, rfl⟩ : ∃ steps, fuel = steps + 1 :=
      Nat.exists_eq_succ_of_ne_zero (Nat.ne_zero_of_lt hfuel)
    obtain ⟨t, hrun, hrest, halike⟩ := (hread (Nat.le_of_succ_le hlen) s.advance rest steps hstream
      hroom).1 hbrace (Nat.lt_of_succ_lt_succ hfuel) level
    exact ⟨t, by rw [blockStatements_of_semicolon hcurrent, hrun], hrest, halike.trans (.advance s)⟩
  · intro heof hfuel
    obtain ⟨steps, rfl⟩ : ∃ steps, fuel = steps + 1 :=
      Nat.exists_eq_succ_of_ne_zero (Nat.ne_zero_of_lt hfuel)
    obtain ⟨t, hrun, hrest, halike⟩ := (hread (Nat.le_of_succ_le hlen) s.advance rest steps hstream
      hroom).2 heof (Nat.le_of_succ_le_succ hfuel)
    exact ⟨t, by rw [programStatements_of_semicolon hcurrent, hrun], hrest,
      halike.trans (.advance s)⟩

theorem cons {found : Statement} {statements : List Statement}
    (hstatement : Derives .strict ts (.statement found))
    (hfound : (statement found).ReadBy inner n ts) (hallows : Punctuation.strict.Allows us)
    (hread : (list statements).ReadBy inner n us) :
    (list (found :: statements)).ReadBy inner n (ts ++ us) := by
  intro hlen s rest fuel hs hroom
  simp only [List.length_append] at hlen ⊢
  rw [Stream'.append_append_stream] at hs
  obtain ⟨first, vs, rfl, hfirst⟩ := hstatement.exists_statement_start
  have hcurrent : s.current = first := by rw [← s.head_stream, hs]; rfl
  have hbrace : s.current.kind ≠ .rightBrace := fun h => hfirst (Or.inr (Or.inl (hcurrent ▸ h)))
  have heof : s.current.kind ≠ .eof := fun h => hfirst (Or.inr (Or.inr (hcurrent ▸ h)))
  simp only [List.length_cons] at hlen ⊢
  -- whatever ends the list, the statement is followed by a semicolon or by that end
  have hstops : rest.head.kind = .rightBrace ∨ rest.head.kind = .eof →
      (us ++ₛ rest).head.kind.Stops := by
    intro hrest
    cases us with
    | nil => exact Or.inr hrest
    | cons u us => exact Or.inl (hallows u rfl)
  constructor
  · intro hrest hfuel level
    obtain ⟨steps, rfl⟩ : ∃ steps, fuel = steps + 1 := Nat.exists_eq_succ_of_ne_zero (by omega)
    obtain ⟨t, hrun, halike, hnext⟩ := hfound (by simp; omega) s _ hs hroom (hstops (Or.inl hrest))
    rw [blockStatements_of_ok hbrace heof hrun]
    have hroom' := halike.room hroom
    rcases hnext with ⟨hsemicolon, hstream⟩ | ⟨_, hstream⟩
    · obtain ⟨u, hrun', hend, halike'⟩ := (hread (by omega) t rest (steps + 1) hstream hroom').1
        hrest (by omega) level
      have hcurrent' : t.current.kind = .semicolon := by rw [← t.head_stream, hstream, hsemicolon]
      rw [blockStatements_of_semicolon hcurrent'] at hrun'
      exact ⟨u, by rw [map_of_ok hrun']; rfl, hend, halike'.trans halike⟩
    · obtain ⟨u, hrun', hend, halike'⟩ := (hread (by omega) t.advance rest steps
        (by rw [t.stream_advance, hstream]) hroom').1 hrest (by omega) level
      have hback := halike'.trans ((ParseState.Alike.advance t).trans halike)
      exact ⟨u, by rw [map_of_ok hrun']; rfl, hend, hback⟩
  · intro hrest hfuel
    obtain ⟨steps, rfl⟩ : ∃ steps, fuel = steps + 1 := Nat.exists_eq_succ_of_ne_zero (by omega)
    obtain ⟨t, hrun, halike, hnext⟩ := hfound (by simp; omega) s _ hs hroom (hstops (Or.inr hrest))
    rw [programStatements_of_ok heof hrun]
    have hroom' := halike.room hroom
    rcases hnext with ⟨hsemicolon, hstream⟩ | ⟨_, hstream⟩
    · obtain ⟨u, hrun', hend, halike'⟩ := (hread (by omega) t rest (steps + 1) hstream hroom').2
        hrest (by omega)
      have hcurrent' : t.current.kind = .semicolon := by rw [← t.head_stream, hstream, hsemicolon]
      rw [programStatements_of_semicolon hcurrent'] at hrun'
      exact ⟨u, by rw [hrun']; rfl, hend, halike'.trans halike⟩
    · obtain ⟨u, hrun', hend, halike'⟩ := (hread (by omega) t.advance rest steps
        (by rw [t.stream_advance, hstream]) hroom').2 hrest (by omega)
      exact ⟨u, by rw [hrun']; rfl, hend, halike'.trans ((ParseState.Alike.advance t).trans halike)⟩

end Phrase.ReadBy

/-! ### All phrases -/

/-- If inner phrases are read, so is what is made of them. -/
theorem Derives.readBy {inner : Inner} {n : Nat} (hinner : inner.Complete n) {ts : List Token}
    {phrase : Phrase} (h : Derives .strict ts phrase) : phrase.ReadBy inner n ts := by
  induction h with
  | operand hlayer _ ih => exact .operand hlayer ih
  | binary hlayer _ hsign hright ihleft => exact .binary hinner hlayer ihleft hsign hright
  | unary hsign hright => exact .unary hinner hsign hright
  | call _ hopening harguments hclosing ihfunction iharguments =>
      exact .call ihfunction hopening harguments iharguments hclosing
  | identifier htoken => exact .identifier htoken
  | integer htoken hvalue => exact .integer htoken hvalue
  | true htoken => simpa [htoken] using Phrase.ReadBy.boolean (Or.inl htoken)
  | false htoken => simpa [htoken] using Phrase.ReadBy.boolean (Or.inr htoken)
  | group hopening hexpr hclosing => exact .group hinner hopening hexpr hclosing
  | conditional htoken hopening hcondition hclosing hconsequence halternative =>
      exact .conditional hinner htoken hopening hcondition hclosing hconsequence halternative
  | function htoken hopening hnames hclosing hbody =>
      exact .function hinner htoken hopening hnames hclosing hbody
  | noArguments => exact .noArguments
  | someArguments hexpr hmore _ ihmore => exact .someArguments hinner hexpr hmore ihmore
  | noMoreArguments => exact .noMoreArguments
  | nextArgument hcomma hexpr hmore _ ihmore =>
      exact .nextArgument hinner hcomma hexpr hmore ihmore
  | block _ hlist hclosing ihlist => exact .block hlist ihlist hclosing
  | noAlternative | alternative => trivial
  | binding htoken hname hsign hvalue => exact .binding hinner htoken hname hsign hvalue
  | noResult htoken => exact .noResult htoken
  | result htoken hvalue => exact .result hinner htoken hvalue
  | expression hexpr => exact .expressionStatement hinner hexpr
  | nil => exact .nil
  | empty htoken _ ih => exact .empty htoken ih
  | cons hstatement hallows _ ihstatement ihrest =>
      exact .cons hstatement ihstatement hallows ihrest

theorem ParseM.Reads.nested {α : Type} {m : ParseM α} {s : ParseState} {value : α}
    {rest : Stream' Token} (hroom : s.depth < s.maxDepth) (h : m.Reads s.enter value rest) :
    (ParseM.nested m).Reads s value rest := by
  obtain ⟨t, hrun, hrest, halike⟩ := h
  refine ⟨t.leave, ?_, hrest, halike.leave⟩
  rw [ParseM.nested, if_neg (Nat.not_le_of_lt hroom), hrun]

theorem Inner.complete_level (n : Nat) : (Inner.level n).Complete n := by
  induction n with
  | zero =>
      constructor
      · intro ts layer expr least s rest h hlen
        exact absurd h.length_pos_of_expression (by omega)
      · intro ts block s rest h hlen
        cases h
        simp at hlen
  | succ n ih =>
      constructor
      · intro ts layer expr least s rest h hlen hadmits hs hroom helse hstops
        refine ParseM.Reads.nested (by omega) ?_
        have hrank : rest.head.kind.precedence.rank ≤ layer.rank := by
          rw [Bool.eq_false_iff, Ne, TokenKind.continues_iff] at hstops
          obtain ⟨hleast, htight⟩ := hadmits
          omega
        obtain ⟨left, us, ⟨t, hrun, hmid, halike⟩, hreal, hcomes⟩ :=
          h.readBy ih hlen least hadmits s.enter rest hs (by simp [ParseState.enter]; omega) helse
            hrank
        have hfuel : us.length ≤ t.remaining := ParseState.length_le_remaining_of_tail hmid hreal
        obtain ⟨k, u, -, heq, hrest, halike'⟩ := hcomes t hmid halike (t.remaining - us.length)
        rw [Nat.sub_add_cancel hfuel] at heq
        refine ⟨u, ?_, hrest, halike'.trans halike⟩
        have hpeek : u.peek = rest.head := u.peek_of_tail hrest
        rw [ParseM.expressionBody, ParseM.bind_of_ok hrun, ParseM.bind_of_ok (ParseM.get_apply t),
          heq]
        cases k <;> simp [ParseM.continued, ParseM.bind_apply, hpeek, hstops]
      · intro ts block s rest h hlen hs hroom
        refine ParseM.Reads.nested (by omega) ?_
        exact h.readBy ih hlen s.enter rest hs (by simp [ParseState.enter]; omega)

/-- **Completeness.** A source whose tokens derive from the grammar is parsed without a fault into
the program that they are the written form of, if as many levels of nesting are allowed as the
source has tokens. -/
theorem parse_of_derives {ts : List Token} {statements : List Statement} {last : Token}
    {source : String} {maxDepth : Nat} (h : Derives .strict ts (.list statements))
    (hsource : tokenize source = ts ++ [last]) (hdepth : (tokenize source).length ≤ maxDepth) :
    (parse maxDepth source).program = ⟨statements⟩ ∧ (parse maxDepth source).faults = [] := by
  have hsees : (ParseState.start maxDepth source).Sees ts last := ParseState.start_sees hsource
  have hinner : (ParseState.start maxDepth source).inner.Complete maxDepth :=
    Inner.complete_level maxDepth
  have hlen : ts.length ≤ maxDepth := by
    rw [hsource, List.length_append] at hdepth
    omega
  obtain ⟨t, hrun, -, halike⟩ := (h.readBy hinner hlen _ _ _ hsees.stream_eq (Nat.zero_add _)).2
    hsees.last_eof hsees.length_le_remaining
  have hprogram : (ParseState.start maxDepth source).program = (⟨statements⟩, t) := by
    rw [ParseState.program, hrun]
  rw [parse, hprogram]
  exact ⟨rfl, halike.faults⟩

/-- Operators of one layer group to the left, and tighter ones come first. -/
theorem parse_of_derives_minus_minus_star :
    (parse 8 "a-b-c*d").program.text = "((a - b) - (c * d))" ∧ (parse 8 "a-b-c*d").faults = [] := by
  have name (token : Token) (h : token.kind = .identifier) (layer : Layer) :
      Derives .strict [token] (.expression layer (.identifier (.ofToken token))) :=
    .loosen (.identifier h) (by cases layer <;> decide)
  have hleft : Derives .strict _ (.expression .additive _) :=
    .binary rfl (name ⟨.identifier, "a", ⟨0, 1, 1, 1⟩⟩ rfl _)
      (show Layer.binary? _ (Token.mk .minus "-" ⟨1, 2, 1, 2⟩).kind = some .minus from rfl)
      (name ⟨.identifier, "b", ⟨2, 3, 1, 3⟩⟩ rfl _)
  have hright : Derives .strict _ (.expression .multiplicative _) :=
    .binary rfl (name ⟨.identifier, "c", ⟨4, 5, 1, 5⟩⟩ rfl _)
      (show Layer.binary? _ (Token.mk .star "*" ⟨5, 6, 1, 6⟩).kind = some .multiply from rfl)
      (name ⟨.identifier, "d", ⟨6, 7, 1, 7⟩⟩ rfl _)
  have hchain : Derives .strict _ (.expression .additive _) :=
    .binary rfl hleft
      (show Layer.binary? _ (Token.mk .minus "-" ⟨3, 4, 1, 4⟩).kind = some .minus from rfl) hright
  have hlist := Derives.cons (.expression (hchain.loosen (by decide)))
    (by simp [Punctuation.Allows]) .nil
  obtain ⟨hprogram, hfaults⟩ :=
    @parse_of_derives _ _ ⟨.eof, "", ⟨7, 7, 1, 8⟩⟩ "a-b-c*d" 8 hlist (by decide +kernel)
      (by decide +kernel)
  exact ⟨by rw [hprogram]; decide +kernel, hfaults⟩

end MonkeySyntax
