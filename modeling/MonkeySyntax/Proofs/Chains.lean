import Mathlib.Data.List.Basic
import Mathlib.Data.List.TakeWhile
import MonkeySyntax.Proofs.Completeness

/-!
# Chains of operators

The parser climbs: it reads an operand, and while an operator follows that binds tight enough, it
lets the same reader, one level further in, read what that operator takes to its right. The tree of
a chain can be told without any of this. Cut the chain at its loosest operator, at the last one if
there are several, and make trees of the two parts.

The two agree because the loop over operators never leaves a tighter operator waiting than the
loosest one it has passed. So the next operator is the loosest of all so far, and the last such:
what is passed and what its right operand takes are the two parts of a cut there.
-/

namespace MonkeySyntax

open ParseM

/-- How tightly an operator binds, from comparisons for equality up to products. -/
def BinaryOp.level : BinaryOp → Nat
  | equal | notEqual => 1
  | less | greater => 2
  | plus | minus => 3
  | multiply | divide => 4

theorem BinaryOp.level_le (operator : BinaryOp) : operator.level ≤ 4 := by
  cases operator <;> decide

theorem BinaryOp.level_pos (operator : BinaryOp) : 0 < operator.level := by
  cases operator <;> decide

theorem BinaryOp.rank_of_ofKind? {kind : TokenKind} {operator : BinaryOp}
    (h : ofKind? kind = some operator) : kind.precedence.rank = operator.level := by
  cases kind <;> simp [ofKind?] at h <;> subst h <;> rfl

theorem TokenKind.precedence_of_ofKind?_eq_none {kind : TokenKind}
    (h : BinaryOp.ofKind? kind = none) (hparen : kind ≠ .leftParen) :
    kind.precedence = .lowest := by
  cases kind <;> simp_all [BinaryOp.ofKind?, precedence]

namespace Chain

/-- A token that is an operand by itself. -/
inductive Leaf where
  | name (token : Token) (kind_eq : token.kind = .identifier)
  | integer (token : Token) (kind_eq : token.kind = .integer)
      (in_range : decimalValue token.literal < 2 ^ 63)
  | boolean (token : Token) (value : Bool)
      (kind_eq : token.kind = if value then .kwTrue else .kwFalse)

namespace Leaf

def token : Leaf → Token
  | name token _ => token
  | integer token _ _ => token
  | boolean token _ _ => token

def tree : Leaf → Expr
  | name token _ => .identifier (.ofToken token)
  | integer token _ _ => .integer token (.ofNat (decimalValue token.literal))
  | boolean token value _ => .boolean token value

theorem real (leaf : Leaf) : leaf.token.kind ≠ .eof := by
  cases leaf with
  | name token h => simp [Leaf.token, h]
  | integer token h => simp [Leaf.token, h]
  | boolean token value h => cases value <;> simp [Leaf.token, h]

end Leaf

/-- A unary operator in front of an operand. -/
structure Sign where
  token : Token
  operator : UnaryOp
  ofKind?_eq : UnaryOp.ofKind? token.kind = some operator

structure Operand where
  signs : List Sign
  leaf : Leaf

namespace Operand

def tokens (operand : Operand) : List Token :=
  operand.signs.map (·.token) ++ [operand.leaf.token]

/-- Each sign applies to all that follows it in the operand. -/
def tree (operand : Operand) : Expr :=
  operand.signs.foldr (fun sign right => .unary sign.token sign.operator right) operand.leaf.tree

end Operand

/-- A binary operator and what follows it up to the next one. -/
structure Link where
  token : Token
  operator : BinaryOp
  ofKind?_eq : BinaryOp.ofKind? token.kind = some operator
  operand : Operand

namespace Link

def level (link : Link) : Nat := link.operator.level

def tokens (link : Link) : List Token := link.token :: link.operand.tokens

theorem rank_eq (link : Link) : link.token.kind.precedence.rank = link.level :=
  BinaryOp.rank_of_ofKind? link.ofKind?_eq

end Link

/-- The tokens of the links, one after the other. -/
def linkTokens (links : List Link) : List Token := links.flatMap Link.tokens

/-- The token that a chain ends with. -/
def lastToken (first : Operand) (links : List Link) : Token :=
  links.foldl (fun _ link => link.operand.leaf.token) first.leaf.token

theorem lastToken_append_cons (first : Operand) (before : List Link) (link : Link)
    (after : List Link) :
    lastToken first (before ++ link :: after) = lastToken link.operand after := by
  simp [lastToken]

theorem getLast?_tokens (first : Operand) (links : List Link) :
    (first.tokens ++ linkTokens links).getLast? = some (lastToken first links) := by
  induction links generalizing first with
  | nil => simp [linkTokens, lastToken, Operand.tokens]
  | cons link links ih =>
      have hcons : first.tokens ++ linkTokens (link :: links)
          = (first.tokens ++ [link.token]) ++ (link.operand.tokens ++ linkTokens links) := by
        simp [linkTokens, Link.tokens]
      rw [hcons, List.getLast?_append_of_ne_nil _ (by simp [Operand.tokens]), ih]
      rfl

theorem real_linkTokens (links : List Link) : ∀ t ∈ linkTokens links, t.kind ≠ .eof := by
  simp only [linkTokens, List.mem_flatMap]
  rintro t ⟨link, -, hmem⟩
  have hsign := link.ofKind?_eq
  simp only [Link.tokens, Operand.tokens, List.mem_cons, List.mem_append, List.mem_map,
    List.not_mem_nil, or_false] at hmem
  rcases hmem with rfl | ⟨sign, -, rfl⟩ | rfl
  · intro h
    simp [h, BinaryOp.ofKind?] at hsign
  · exact (UnaryOp.usable_of_ofKind? sign.ofKind?_eq).1
  · exact link.operand.leaf.real

/-! ### Cutting a chain at its loosest operator -/

/-- The last of the loosest links, with what comes before it and what comes after it. -/
def cut : List Link → Option (List Link × Link × List Link)
  | [] => none
  | link :: links =>
    match cut links with
    | none => some ([], link, [])
    | some (before, loosest, after) =>
      if loosest.level ≤ link.level then some (link :: before, loosest, after)
      else some ([], link, links)

theorem cut_eq_none_iff {links : List Link} : cut links = none ↔ links = [] := by
  cases links with
  | nil => simp [cut]
  | cons link links =>
      rw [cut]
      split
      · simp
      · split <;> simp

theorem of_cut {links before after : List Link} {loosest : Link}
    (h : cut links = some (before, loosest, after)) : links = before ++ loosest :: after ∧
      (∀ link ∈ before, loosest.level ≤ link.level) ∧
      ∀ link ∈ after, loosest.level < link.level := by
  induction links generalizing before loosest after with
  | nil => simp [cut] at h
  | cons link links ih =>
      rw [cut] at h
      split at h
      · rename_i hcut
        obtain ⟨rfl, rfl, rfl⟩ : before = [] ∧ link = loosest ∧ after = [] := by simp_all
        simp [cut_eq_none_iff.mp hcut]
      · rename_i passed found later hcut
        split at h
        · rename_i hle
          obtain ⟨rfl, rfl, rfl⟩ : link :: passed = before ∧ found = loosest ∧ later = after := by
            simpa using h
          obtain ⟨rfl, hbefore, hafter⟩ := ih hcut
          exact ⟨rfl, List.forall_mem_cons.mpr ⟨hle, hbefore⟩, hafter⟩
        · rename_i hlt
          obtain ⟨rfl, rfl, rfl⟩ : [] = before ∧ link = loosest ∧ links = after := by
            simpa using h
          obtain ⟨hlinks, hbefore, hafter⟩ := ih hcut
          have hfound : link.level < found.level := Nat.lt_of_not_le hlt
          rw [hlinks, List.forall_mem_append, List.forall_mem_cons]
          exact ⟨rfl, by simp, fun next hmem => Nat.lt_of_lt_of_le hfound (hbefore next hmem),
            hfound, fun next hmem => Nat.lt_trans hfound (hafter next hmem)⟩

theorem cut_append_cons {before after : List Link} {loosest : Link}
    (hbefore : ∀ link ∈ before, loosest.level ≤ link.level)
    (hafter : ∀ link ∈ after, loosest.level < link.level) :
    cut (before ++ loosest :: after) = some (before, loosest, after) := by
  induction before with
  | nil =>
      rw [List.nil_append, cut]
      split
      · rename_i hcut
        rw [cut_eq_none_iff.mp hcut]
      · rename_i passed found later hcut
        have hfound := hafter found (by simp [(of_cut hcut).1])
        rw [if_neg (Nat.not_le_of_lt hfound)]
  | cons link before ih =>
      rw [List.forall_mem_cons] at hbefore
      rw [List.cons_append, cut, ih hbefore.2]
      exact if_pos hbefore.1

/-- No link is looser than the one at which a chain is cut, and the later ones are all tighter. -/
theorem cut_eq_some_iff {links before after : List Link} {loosest : Link} :
    cut links = some (before, loosest, after) ↔ links = before ++ loosest :: after ∧
      (∀ link ∈ before, loosest.level ≤ link.level) ∧
      ∀ link ∈ after, loosest.level < link.level := by
  constructor
  · exact of_cut
  · rintro ⟨rfl, hbefore, hafter⟩
    exact cut_append_cons hbefore hafter

/-- The tree of a chain: an operand, or else the trees of its two parts at a cut. -/
def tree (first : Operand) (links : List Link) : Expr :=
  match _hcut : cut links with
  | none => first.tree
  | some (before, loosest, after) =>
    .binary loosest.token (tree first before) loosest.operator (tree loosest.operand after)
termination_by links.length
decreasing_by
  all_goals
    rw [(cut_eq_some_iff.mp _hcut).1, List.length_append, List.length_cons]
    omega

theorem tree_nil (first : Operand) : tree first [] = first.tree := by
  rw [tree]
  rfl

theorem tree_append_cons {first : Operand} {before after : List Link} {loosest : Link}
    (hbefore : ∀ link ∈ before, loosest.level ≤ link.level)
    (hafter : ∀ link ∈ after, loosest.level < link.level) :
    tree first (before ++ loosest :: after)
      = .binary loosest.token (tree first before) loosest.operator
        (tree loosest.operand after) := by
  have hcut := cut_eq_some_iff.mpr ⟨rfl, hbefore, hafter⟩
  rw [tree]
  split
  · simp_all
  · rename_i heq
    obtain ⟨rfl, rfl, rfl⟩ : _ ∧ _ ∧ _ := by simpa [hcut] using heq
    rfl

end Chain

/-! ### Reading up to a last token -/

/-- The reader makes `value` of what lies between the state and `rest`, and stops on `last`, the
token just before `rest`. -/
def ParseM.StopsOn {α : Type} (m : ParseM α) (s : ParseState) (value : α) (last : Token)
    (rest : Stream' Token) : Prop :=
  ∃ t, m s = .ok value t ∧ t.stream = Stream'.cons last rest ∧ t.Alike s

namespace ParseM.StopsOn

variable {inner : Inner} {s : ParseState} {left : Expr} {last : Token} {rest : Stream' Token}

theorem nested {α : Type} {m : ParseM α} {value : α} (hroom : s.depth < s.maxDepth)
    (h : m.StopsOn s.enter value last rest) : (ParseM.nested m).StopsOn s value last rest := by
  obtain ⟨t, hrun, hstream, halike⟩ := h
  refine ⟨t.leave, ?_, hstream, halike.leave⟩
  rw [ParseM.nested, if_neg (Nat.not_le_of_lt hroom), hrun]

theorem unaryRest (operator : UnaryOp)
    (h : (inner.expression .unary).StopsOn s.advance left last rest) :
    (ParseM.unaryRest inner operator).StopsOn s (.unary s.current operator left) last rest := by
  obtain ⟨t, hrun, hstream, halike⟩ := h
  refine ⟨t, ?_, hstream, halike.trans (.advance s)⟩
  rw [ParseM.unaryRest, bind_of_ok (current_apply s), bind_of_ok (advance_apply s), bind_of_ok hrun]
  rfl

theorem binaryRest {right : Expr} (left : Expr) (operator : BinaryOp)
    (h : (inner.expression s.current.kind.precedence).StopsOn s.advance right last rest) :
    (ParseM.binaryRest inner left operator).StopsOn s (.binary s.current left operator right) last
      rest := by
  obtain ⟨t, hrun, hstream, halike⟩ := h
  refine ⟨t, ?_, hstream, halike.trans (.advance s)⟩
  rw [ParseM.binaryRest, bind_of_ok (current_apply s), bind_of_ok (advance_apply s),
    bind_of_ok hrun]
  rfl

end ParseM.StopsOn

namespace Chain

variable {inner : Inner} {n : Nat} {s : ParseState} {rest : Stream' Token} {least : Precedence}

theorem Leaf.stopsOn (leaf : Leaf) (hs : s.stream = Stream'.cons leaf.token rest) :
    (start inner).StopsOn s leaf.tree leaf.token rest := by
  have hcurrent : s.current = leaf.token := by rw [← s.head_stream, hs]; rfl
  refine ⟨s, ?_, hs, .refl s⟩
  cases leaf with
  | name token htoken =>
      obtain rfl : s.current = token := hcurrent
      rw [start_of_rule (by rw [htoken]; rfl)]
      rfl
  | integer token htoken hvalue =>
      obtain rfl : s.current = token := hcurrent
      have hle : decimalValue s.current.literal ≤ maxInteger := Nat.le_sub_one_of_lt hvalue
      rw [start_of_rule (StartRule.ofKind?_eq_integer_iff.mpr htoken)]
      exact integerLiteral_of_some (Token.integer?_of_le htoken hle)
  | boolean token value htoken =>
      obtain rfl : s.current = token := hcurrent
      have hvalue : decide (s.current.kind = .kwTrue) = value := by
        cases value <;> simp [htoken]
      have hrule : StartRule.ofKind? s.current.kind = some .boolean := by
        cases value <;> rw [htoken] <;> rfl
      rw [start_of_rule hrule, StartRule.parse, bind_of_ok (current_apply s), hvalue]
      rfl

theorem expressionBody_of_start {left : Expr} {last : Token}
    (h : (start inner).StopsOn s left last rest)
    (hrest : rest.head.kind.continues least = false) :
    (expressionBody inner least).StopsOn s left last rest := by
  obtain ⟨t, hrun, hstream, halike⟩ := h
  have hpeek : t.peek = rest.head := t.peek_of_tail (by rw [hstream, Stream'.tail_cons])
  refine ⟨t, ?_, hstream, halike⟩
  rw [expressionBody, bind_of_ok hrun, bind_of_ok (get_apply t)]
  exact continued_of_continues_eq_false (by rw [hpeek, hrest])

/-- An operand takes one level of nesting for each of its signs. -/
theorem Operand.stopsOn (operand : Operand) (hsigns : operand.signs.length ≤ n)
    (hs : s.stream = operand.tokens ++ₛ rest) (hroom : s.depth + n = s.maxDepth)
    (hrest : rest.head.kind.precedence.rank ≤ 5) :
    (start (.level n)).StopsOn s operand.tree operand.leaf.token rest := by
  obtain ⟨signs, leaf⟩ := operand
  induction signs generalizing n s with
  | nil => exact leaf.stopsOn hs
  | cons sign signs ih =>
      obtain ⟨m, rfl⟩ : ∃ m, n = m + 1 :=
        Nat.exists_eq_succ_of_ne_zero (Nat.ne_zero_of_lt hsigns)
      have hcurrent : s.current = sign.token := by rw [← s.head_stream, hs]; rfl
      have hstream : s.advance.enter.stream = (Operand.mk signs leaf).tokens ++ₛ rest := by
        rw [ParseState.stream_enter, s.stream_advance, hs]
        rfl
      have hright := ih (show s.depth + 1 + m = s.maxDepth by omega)
        (Nat.le_of_succ_le_succ hsigns) hstream
      have hstops : rest.head.kind.continues .unary = false := by
        rw [Bool.eq_false_iff, Ne, TokenKind.continues_iff]
        exact Nat.not_lt_of_le hrest
      have hoperand : ((Inner.level (m + 1)).expression .unary).StopsOn s.advance _ _ rest :=
        StopsOn.nested (show s.depth < s.maxDepth by omega) (expressionBody_of_start hright hstops)
      obtain ⟨t, hrun, hend⟩ := hoperand.unaryRest sign.operator
      refine ⟨t, ?_, hend⟩
      rw [hcurrent] at hrun
      rw [start_of_rule (by rw [hcurrent, StartRule.ofKind?_eq_unary_iff.mpr sign.ofKind?_eq])]
      exact hrun

/-! ### The loop over operators -/

/-- What the reader of inner expressions makes of a chain where `n` levels of nesting are left: its
tree, if the links bind tighter than `least` and `rest` does not. -/
def ReadBy (inner : Inner) (n : Nat) : Prop :=
  ∀ {least : Precedence} {first : Operand} {links : List Link} {s : ParseState}
    {rest : Stream' Token}, least.rank ≤ 4 → 5 + first.signs.length ≤ n + least.rank →
    (∀ link ∈ links, least.rank < link.level ∧ 5 + link.operand.signs.length ≤ n + least.rank) →
    s.stream = (first.tokens ++ linkTokens links) ++ₛ rest → s.depth + n = s.maxDepth →
    rest.head.kind.precedence.rank ≤ least.rank →
    (inner.expression least).StopsOn s (tree first links) (lastToken first links) rest

/-- The right operand of a link takes the tighter links behind it, up to one that is not. -/
theorem exists_tighter (link : Link) (links : List Link) :
    ∃ taken left, links = taken ++ left ∧ (∀ next ∈ taken, link.level < next.level) ∧
      ∀ next ∈ left.head?, next.level ≤ link.level := by
  refine ⟨links.takeWhile (link.level < ·.level), links.dropWhile (link.level < ·.level),
    List.takeWhile_append_dropWhile.symm, ?_, ?_⟩
  · intro next hmem
    simpa using List.mem_takeWhile_imp hmem
  · intro next hmem
    have hnot := List.head?_dropWhile_not (fun next : Link => link.level < next.level) links
    rw [Option.mem_def.mp hmem] at hnot
    simpa using hnot

theorem head_linkTokens_append (links : List Link) (rest : Stream' Token) {bound : Nat}
    (hlinks : ∀ link ∈ links.head?, link.level ≤ bound)
    (hrest : rest.head.kind.precedence.rank ≤ bound) :
    (linkTokens links ++ₛ rest).head.kind.precedence.rank ≤ bound := by
  cases links with
  | nil => exact hrest
  | cons link links =>
      change link.token.kind.precedence.rank ≤ bound
      rw [link.rank_eq]
      exact hlinks link rfl

theorem ReadBy.right (hinner : ReadBy inner n) {link : Link} {taken left : List Link}
    {t : ParseState} (before : Expr) (htight : least.rank < link.level)
    (hroom : ∀ next ∈ link :: taken, 5 + next.operand.signs.length ≤ n + 1 + least.rank)
    (htaken : ∀ next ∈ taken, link.level < next.level)
    (hleft : ∀ next ∈ left.head?, next.level ≤ link.level)
    (ht : t.stream.tail = linkTokens (link :: (taken ++ left)) ++ₛ rest)
    (hdepth : t.depth + n = t.maxDepth) (hrest : rest.head.kind.precedence.rank ≤ least.rank) :
    (binaryRest inner before link.operator).StopsOn t.advance
      (.binary link.token before link.operator (tree link.operand taken))
      (lastToken link.operand taken) (linkTokens left ++ₛ rest) := by
  have hlevel : link.level ≤ 4 := link.operator.level_le
  have hrank := link.rank_eq
  have hpeek : t.peek = link.token := t.peek_of_tail ht
  have hstream : t.advance.advance.stream
      = (link.operand.tokens ++ linkTokens taken) ++ₛ (linkTokens left ++ₛ rest) := by
    rw [ParseState.stream_advance, ParseState.stream_advance, ht]
    simp [linkTokens, Link.tokens, Stream'.cons_append_stream, Stream'.append_append_stream]
  rw [List.forall_mem_cons] at hroom
  have hoperand : (inner.expression t.advance.current.kind.precedence).StopsOn t.advance.advance
      (tree link.operand taken) (lastToken link.operand taken) (linkTokens left ++ₛ rest) := by
    rw [ParseState.current_advance, hpeek]
    refine hinner (by omega) (by omega) ?_ hstream hdepth ?_
    · intro next hmem
      have hsigns := hroom.2 next hmem
      have htighter := htaken next hmem
      omega
    · rw [hrank]
      exact head_linkTokens_append left rest hleft (by omega)
  have hright := hoperand.binaryRest before link.operator
  rw [ParseState.current_advance, hpeek] at hright
  exact hright

/-- No link passed is looser than the next one. -/
def Loosens (passed ahead : List Link) : Prop :=
  ∀ next ∈ ahead.head?, ∀ link ∈ passed, next.level ≤ link.level

theorem Loosens.pass {passed taken left : List Link} {link : Link}
    (h : Loosens passed (link :: (taken ++ left)))
    (htaken : ∀ next ∈ taken, link.level < next.level)
    (hleft : ∀ next ∈ left.head?, next.level ≤ link.level) :
    Loosens (passed ++ link :: taken) left := by
  intro next hmem
  have hle : next.level ≤ link.level := hleft next hmem
  have hloose : ∀ passing ∈ passed, link.level ≤ passing.level := h link rfl
  rw [List.forall_mem_append, List.forall_mem_cons]
  exact ⟨fun passing hpassing => Nat.le_trans hle (hloose passing hpassing), hle,
    fun passing hpassing => Nat.le_trans hle (Nat.le_of_lt (htaken passing hpassing))⟩

/-- The loop goes on from the tree of the links it has passed to that of all links. -/
theorem stopsOn_continued (hinner : ReadBy inner n) {first : Operand} {passed ahead : List Link}
    {steps : Nat} {t : ParseState} (hpassed : Loosens passed ahead)
    (hahead : ∀ link ∈ ahead, least.rank < link.level ∧
      5 + link.operand.signs.length ≤ n + 1 + least.rank)
    (ht : t.stream = Stream'.cons (lastToken first passed) (linkTokens ahead ++ₛ rest))
    (hsteps : ahead.length ≤ steps) (hdepth : t.depth + n = t.maxDepth)
    (hrest : rest.head.kind.precedence.rank ≤ least.rank) :
    (continued inner least steps (tree first passed)).StopsOn t (tree first (passed ++ ahead))
      (lastToken first (passed ++ ahead)) rest := by
  induction hlen : ahead.length using Nat.strong_induction_on generalizing passed ahead steps t with
  | _ count ih =>
  have htail : t.stream.tail = linkTokens ahead ++ₛ rest := by rw [ht, Stream'.tail_cons]
  have hpeek : t.peek = (linkTokens ahead ++ₛ rest).head := t.peek_of_tail htail
  cases ahead with
  | nil =>
      have hstops : t.peek.kind.continues least = false := by
        rw [hpeek, Bool.eq_false_iff, Ne, TokenKind.continues_iff]
        exact Nat.not_lt_of_le hrest
      rw [List.append_nil]
      exact ⟨t, continued_of_continues_eq_false hstops, ht, .refl t⟩
  | cons link links =>
      obtain ⟨more, rfl⟩ : ∃ more, steps = more + 1 :=
        Nat.exists_eq_succ_of_ne_zero (Nat.ne_zero_of_lt hsteps)
      obtain ⟨taken, left, rfl, htaken, hleft⟩ := exists_tighter link links
      have htight : least.rank < link.level := (hahead link (by simp)).1
      have hpeek : t.peek = link.token := hpeek
      have hcontinues : t.peek.kind.continues least = true := by
        rw [hpeek, TokenKind.continues_iff, link.rank_eq]
        exact htight
      -- the tree of what is passed and the right operand are the parts of a cut at this link
      obtain ⟨u, hrun, hu, halike⟩ := hinner.right (tree first passed) htight
        (fun next hmem => (hahead next (List.mem_append_left left hmem)).2) htaken hleft htail
        hdepth hrest
      rw [← tree_append_cons (hpassed link rfl) htaken] at hrun
      rw [← lastToken_append_cons first passed link taken] at hu
      have halike := halike.trans (.advance t)
      simp only [List.length_cons, List.length_append] at hlen hsteps
      have hloop : (continued inner least more (tree first (passed ++ link :: taken))).StopsOn u _ _
          rest :=
        ih left.length (by omega) (hpassed.pass htaken hleft)
          (fun next hmem => hahead next (by simp [hmem])) hu (by omega) (halike.room hdepth) rfl
      rw [List.append_assoc, List.cons_append] at hloop
      obtain ⟨v, hrun', hv, halike'⟩ := hloop
      refine ⟨v, ?_, hv, halike'.trans halike⟩
      have hrule : ContinueRule.ofKind? t.peek.kind = some (.binary link.operator) := by
        rw [hpeek]
        exact ContinueRule.ofKind?_eq_binary_iff.mpr link.ofKind?_eq
      rw [continued_of_rule hcontinues hrule, ContinueRule.parse, bind_of_ok hrun, hrun']

theorem length_le_linkTokens (links : List Link) : links.length ≤ (linkTokens links).length := by
  induction links with
  | nil => simp
  | cons link links ih =>
      simp only [linkTokens, List.flatMap_cons, List.length_append, List.length_cons,
        Link.tokens] at ih ⊢
      omega

theorem readBy_level (n : Nat) : ReadBy (.level n) n := by
  induction n with
  | zero =>
      intro least first links s rest hleast hfirst
      omega
  | succ n ih =>
      intro least first links s rest hleast hfirst hlinks hs hroom hrest
      have hroom' : s.enter.depth + n = s.enter.maxDepth := by
        change s.depth + 1 + n = s.maxDepth
        omega
      refine StopsOn.nested (by omega) ?_
      rw [Stream'.append_append_stream] at hs
      have hhead : (linkTokens links ++ₛ rest).head.kind.precedence.rank ≤ 5 :=
        head_linkTokens_append links rest
          (fun link _ => Nat.le_succ_of_le link.operator.level_le) (by omega)
      have hfirst : (start (.level n)).StopsOn s.enter first.tree first.leaf.token _ :=
        first.stopsOn (by omega) hs hroom' hhead
      obtain ⟨t, hrun, ht, halike⟩ := hfirst
      have hfuel : (linkTokens links).length ≤ t.remaining :=
        ParseState.length_le_remaining_of_tail (by rw [ht, Stream'.tail_cons])
          (real_linkTokens links)
      have hloop : (continued (.level n) least t.remaining (tree first [])).StopsOn t
          (tree first links) (lastToken first links) rest :=
        stopsOn_continued ih (by simp [Loosens]) hlinks ht
          ((length_le_linkTokens links).trans hfuel) (halike.room hroom') hrest
      rw [tree_nil] at hloop
      obtain ⟨u, hrun', hu, halike'⟩ := hloop
      refine ⟨u, ?_, hu, halike'.trans halike⟩
      rw [expressionBody, bind_of_ok hrun, bind_of_ok (get_apply t), hrun']

end Chain

open Chain in
/-- **Climbing makes the tree of a chain.** Started on the first token of a chain of operators that
is followed by nothing that carries it on, outside all nesting and with five levels more than any
operand has signs, the reader of expressions stops on the last token of the chain, and its tree is
got by cutting the chain at the last of its loosest operators, again and again. -/
theorem expression_of_chain (first : Operand) (links : List Link) {s : ParseState}
    {rest : Stream' Token} (hs : s.stream = (first.tokens ++ linkTokens links) ++ₛ rest)
    (hend : BinaryOp.ofKind? rest.head.kind = none) (hparen : rest.head.kind ≠ .leftParen)
    (hdepth : s.depth = 0)
    (hroom : ∀ operand ∈ first :: links.map (·.operand),
      5 + operand.signs.length ≤ s.maxDepth) :
    ∃ t, expression .lowest s = .ok (tree first links) t ∧
      (first.tokens ++ linkTokens links).getLast? = some t.current ∧
      t.stream = Stream'.cons t.current rest ∧ t.Alike s := by
  have hheadroom : s.headroom = s.maxDepth := by rw [ParseState.headroom, hdepth, Nat.sub_zero]
  rw [List.forall_mem_cons, List.forall_mem_map] at hroom
  have hlowest : rest.head.kind.precedence = .lowest :=
    TokenKind.precedence_of_ofKind?_eq_none hend hparen
  have hread : ((Inner.level s.maxDepth).expression .lowest).StopsOn s (tree first links)
      (lastToken first links) rest :=
    readBy_level s.maxDepth (Nat.zero_le _) hroom.1
      (fun link hmem => ⟨link.operator.level_pos, hroom.2 link hmem⟩) hs
      (by rw [hdepth, Nat.zero_add]) (by rw [hlowest])
  obtain ⟨t, hrun, ht, halike⟩ := hread
  have hcurrent : t.current = lastToken first links := by rw [← t.head_stream, ht]; rfl
  rw [← hcurrent] at ht
  refine ⟨t, ?_, ?_, ht, halike⟩
  · rw [expression, withInner, ParseState.inner, hheadroom, hrun]
  · rw [getLast?_tokens, hcurrent]

open Chain in
/-- Differences group to the left, products come before them and comparisons after them. -/
theorem expression_of_chain_of_difference :
    ∃ expr t, expression .lowest (.start 7 "a-b-c*!-5==true;") = .ok expr t ∧
      expr.text = "(((a - b) - (c * (!(-5)))) == true)" ∧ t.current.literal = "true" := by
  let name (literal : String) (span : Span) : Operand :=
    ⟨[], .name ⟨.identifier, literal, span⟩ rfl⟩
  let links : List Link :=
    [⟨⟨.minus, "-", ⟨1, 2, 1, 2⟩⟩, .minus, rfl, name "b" ⟨2, 3, 1, 3⟩⟩,
      ⟨⟨.minus, "-", ⟨3, 4, 1, 4⟩⟩, .minus, rfl, name "c" ⟨4, 5, 1, 5⟩⟩,
      ⟨⟨.star, "*", ⟨5, 6, 1, 6⟩⟩, .multiply, rfl,
        ⟨[⟨⟨.bang, "!", ⟨6, 7, 1, 7⟩⟩, .bang, rfl⟩, ⟨⟨.minus, "-", ⟨7, 8, 1, 8⟩⟩, .minus, rfl⟩],
          .integer ⟨.integer, "5", ⟨8, 9, 1, 9⟩⟩ rfl (by decide)⟩⟩,
      ⟨⟨.equal, "==", ⟨9, 11, 1, 10⟩⟩, .equal, rfl,
        ⟨[], .boolean ⟨.kwTrue, "true", ⟨11, 15, 1, 12⟩⟩ true rfl⟩⟩]
  let semicolon : Token := ⟨.semicolon, ";", ⟨15, 16, 1, 16⟩⟩
  let last : Token := ⟨.eof, "", ⟨16, 16, 1, 17⟩⟩
  have hsees : (ParseState.start 7 "a-b-c*!-5==true;").Sees
      ((name "a" ⟨0, 1, 1, 1⟩).tokens ++ linkTokens links ++ [semicolon]) last :=
    ParseState.start_sees (by decide +kernel)
  have hstream : (ParseState.start 7 "a-b-c*!-5==true;").stream
      = ((name "a" ⟨0, 1, 1, 1⟩).tokens ++ linkTokens links) ++ₛ
        Stream'.cons semicolon (Stream'.const last) := by
    rw [hsees.stream_eq, Stream'.append_append_stream]
    rfl
  obtain ⟨t, hrun, hlast, -⟩ := expression_of_chain (name "a" ⟨0, 1, 1, 1⟩) links hstream rfl
    (by decide) rfl (by decide)
  have hcurrent : (⟨.kwTrue, "true", ⟨11, 15, 1, 12⟩⟩ : Token) = t.current := Option.some.inj hlast
  exact ⟨_, t, hrun, by cbv, by rw [← hcurrent]⟩

end MonkeySyntax
