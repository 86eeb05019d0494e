import MonkeySyntax.Proofs.Layers
import MonkeySyntax.Proofs.Passage
import MonkeySyntax.Proofs.Stream

/-!
# What the parser reads without a fault, the grammar derives

A reader that succeeds has not always accepted its tokens: a block goes on after a faulty statement.
But such a fault is recorded, and what is recorded stays, so a parser that ends without a fault has
never recorded one. Under that assumption every reader is shown to have passed exactly the tokens of
a derivation of its value.

For the loop over operators the invariant is that what is read so far belongs to a layer which the
next token does not bind tighter than. The next operator then either belongs to that layer or to a
looser one, and in both cases its left operand is what is read so far.
-/

namespace MonkeySyntax

open ParseM

/-! ### Tokens passed -/

/-- The tokens after the current one are `ts`, and then the end marker. -/
def ParseState.Faces (s : ParseState) (ts : List Token) (last : Token) : Prop :=
  s.advance.Sees ts last

namespace ParseState

variable {s : ParseState} {t : Token} {ts : List Token} {last : Token} {kind : TokenKind}

theorem Sees.faces (h : s.Sees (t :: ts) last) : s.Faces ts last := h.advance

theorem Sees.eq_cons (h : s.Sees ts last) (hkind : s.current.kind ≠ .eof) :
    ∃ rest, ts = s.current :: rest ∧ s.Faces rest last := by
  cases ts with
  | nil => exact absurd (h.current_eof_iff.mpr rfl) hkind
  | cons t rest =>
      obtain rfl : s.current = t := h.current_eq
      exact ⟨rest, rfl, h.faces⟩

theorem Faces.length_le_remaining (h : s.Faces ts last) : ts.length ≤ s.remaining := by
  have htail := h.stream_eq
  rw [stream_advance] at htail
  exact length_le_remaining_of_tail htail h.real

theorem Faces.leave (h : s.Faces ts last) : s.leave.Faces ts last := by
  refine Sees.congr h ?_
  rw [stream_advance, stream_advance, stream_leave]

theorem Faces.peek_eq (h : s.Faces ts last) : s.peek = ts.headD last :=
  Sees.current_eq h

theorem Faces.eq_cons (h : s.Faces ts last) (hkind : s.peek.kind ≠ .eof) :
    ∃ rest, ts = s.peek :: rest ∧ s.advance.Faces rest last :=
  Sees.eq_cons h hkind

theorem Faces.expectPeek (h : s.Faces ts last) (heof : kind ≠ .eof) {value : Unit}
    {u : ParseState} (hrun : ParseM.expectPeek kind s = .ok value u) :
    ∃ rest, ts = s.peek :: rest ∧ s.peek.kind = kind ∧ u = s.advance ∧ u.Faces rest last := by
  obtain ⟨hpeek, rfl⟩ := expectPeek_eq_ok_iff.mp hrun
  obtain ⟨rest, hts, hfaces⟩ := h.eq_cons (by rwa [hpeek])
  exact ⟨rest, hts, hpeek, rfl, hfaces⟩

end ParseState

/-! ### No fault recorded -/

/-- Recorded faults stay recorded. -/
theorem Passage.faults : Passage fun s t => s.faults <+: t.faults where
  refl s := List.prefix_refl s.faults
  trans hst htu := hst.trans htu
  advance s := List.prefix_refl s.faults
  record s fault := List.prefix_append s.faults [fault]
  nested _ h := h

theorem ParseM.Keeps.clean {α : Type} {m : ParseM α} {a : α} {s t : ParseState}
    (h : m.Keeps fun s t => s.faults <+: t.faults) (hrun : m s = .ok a t) (ht : t.faults = []) :
    s.faults = [] := by
  have hle := h.of_ok hrun
  rw [ht] at hle
  exact List.prefix_nil.mp hle

/-- Inner phrases that are read without a fault derive from the grammar. -/
structure Inner.Sound (inner : Inner) : Prop where
  keeps : inner.Keeps fun s t => s.faults <+: t.faults
  expression : ∀ {least : Precedence} {s t : ParseState} {ts : List Token} {last : Token}
    {expr : Expr}, least.rank ≤ 5 → s.Sees ts last → inner.expression least s = .ok expr t →
    t.faults = [] → ∃ used rest layer, ts = used ++ rest ∧ t.Faces rest last ∧
      Layer.Admits layer least ∧ Derives .loose used (.expression layer expr) ∧
      t.peek.kind.continues least = false
  block : ∀ {s t : ParseState} {ts : List Token} {last : Token} {block : Block},
    s.Sees ts last → s.current.kind = .leftBrace → inner.block s = .ok block t → t.faults = [] →
    ∃ used rest, ts = used ++ rest ∧ t.Faces rest last ∧ Derives .loose used (.block block)

section Readers

variable {inner : Inner} {s t : ParseState} {ts : List Token} {last : Token}

theorem Inner.Sound.lowest (hinner : inner.Sound) {expr : Expr} (hs : s.Sees ts last)
    (hrun : inner.expression .lowest s = .ok expr t) (ht : t.faults = []) :
    ∃ used rest, ts = used ++ rest ∧ t.Faces rest last ∧
      Derives .loose used (.expression .equality expr) := by
  obtain ⟨used, rest, layer, hts, hfaces, -, hderives, -⟩ :=
    hinner.expression (by decide) hs hrun ht
  exact ⟨used, rest, hts, hfaces, hderives.loosen (by cases layer <;> decide)⟩

theorem sound_groupRest (hinner : inner.Sound) {expr : Expr} (hs : s.Faces ts last)
    (hrun : groupRest inner s = .ok expr t) (ht : t.faults = []) :
    ∃ used closing rest, ts = used ++ closing :: rest ∧ closing.kind = .rightParen ∧
      t.Faces rest last ∧ Derives .loose used (.expression .equality expr) := by
  obtain ⟨_, _, hadvance, hrun⟩ := bind_eq_ok_iff.mp hrun
  cases hadvance
  obtain ⟨found, t₁, hexpr, hrun⟩ := bind_eq_ok_iff.mp hrun
  obtain ⟨_, t₂, hclosing, hpure⟩ := bind_eq_ok_iff.mp hrun
  cases hpure
  have ht₁ : t₁.faults = [] := (Passage.faults.expectPeek _).clean hclosing ht
  obtain ⟨used, rest, rfl, hfaces, hderives⟩ := hinner.lowest hs hexpr ht₁
  obtain ⟨rest', rfl, hkind, rfl, hfaces'⟩ := hfaces.expectPeek (by decide) hclosing
  exact ⟨used, t₁.peek, rest', rfl, hkind, hfaces', hderives⟩

theorem sound_braced (hinner : inner.Sound) {block : Block} (hs : s.Faces ts last)
    (hrun : braced inner s = .ok block t) (ht : t.faults = []) :
    ∃ used rest, ts = used ++ rest ∧ t.Faces rest last ∧ Derives .loose used (.block block) := by
  obtain ⟨_, t₁, hopening, hblock⟩ := bind_eq_ok_iff.mp hrun
  obtain ⟨hkind, rfl⟩ := expectPeek_eq_ok_iff.mp hopening
  exact hinner.block hs hkind hblock ht

theorem sound_elseBranch (hinner : inner.Sound) {alternative : Option Block}
    (hs : s.Faces ts last) (hrun : elseBranch inner s = .ok alternative t) (ht : t.faults = []) :
    ∃ used rest, ts = used ++ rest ∧ t.Faces rest last ∧
      Derives .loose used (.alternative alternative) := by
  by_cases hkind : s.peek.kind = .kwElse
  · rw [elseBranch_of_else hkind] at hrun
    obtain ⟨block, hbraced, rfl⟩ := map_eq_ok_iff.mp hrun
    obtain ⟨us, rfl, hfaces⟩ := hs.eq_cons (by simp [hkind])
    obtain ⟨used, rest, rfl, hfaces', hderives⟩ := sound_braced hinner hfaces hbraced ht
    exact ⟨s.peek :: used, rest, rfl, hfaces', .alternative hkind hderives⟩
  · rw [elseBranch_of_else_ne hkind] at hrun
    cases hrun
    exact ⟨[], ts, rfl, hs, .noAlternative⟩

/-! ### Lists in parentheses -/

section Enumerations

variable {α : Type} {item : ParseM α} {more : Nat → ParseM (List α)} {items : ParseM (List α)}
  {One : List Token → α → Prop} {More All : List Token → List α → Prop}

/-- What the grammar says of a list in parentheses. -/
structure Enumerates (One : List Token → α → Prop) (More All : List Token → List α → Prop) :
    Prop where
  nil : More [] []
  cons : ∀ {comma us vs a as}, Token.kind comma = .comma → One us a → More vs as →
    More (comma :: (us ++ vs)) (a :: as)
  none : All [] []
  some : ∀ {us vs a as}, One us a → More vs as → All (us ++ vs) (a :: as)

/-- An item that is read without a fault derives from the grammar. -/
structure SoundItem (item : ParseM α) (One : List Token → α → Prop) : Prop where
  keeps : item.Keeps fun s t => s.faults <+: t.faults
  sound : ∀ {s t ts last a}, ParseState.Faces s ts last → item s = .ok a t → t.faults = [] →
    ∃ used rest, ts = used ++ rest ∧ t.Faces rest last ∧ One used a

theorem sound_more (henum : Enumeration item more items) (hitem : SoundItem item One)
    (hgrammar : Enumerates One More All) {found : List α} {steps : Nat} (hs : s.Faces ts last)
    (hrun : more steps s = .ok found t) (ht : t.faults = []) :
    ∃ used rest, ts = used ++ rest ∧ t.Faces rest last ∧ More used found := by
  induction steps generalizing s ts found with
  | zero =>
      rw [henum.more_zero] at hrun
      cases hrun
      exact ⟨[], ts, rfl, hs, hgrammar.nil⟩
  | succ steps ih =>
      by_cases hkind : s.peek.kind = .comma
      · rw [henum.more_of_comma hkind] at hrun
        obtain ⟨first, t₁, hfirst, hrun⟩ := bind_eq_ok_iff.mp hrun
        obtain ⟨others, t₂, hothers, hpure⟩ := bind_eq_ok_iff.mp hrun
        cases hpure
        have ht₁ := (Passage.faults.more henum hitem.keeps steps).clean hothers ht
        obtain ⟨us, rfl, hfaces⟩ := hs.eq_cons (by simp [hkind])
        obtain ⟨used₁, rest, rfl, hfaces, hone⟩ := hitem.sound hfaces hfirst ht₁
        obtain ⟨used₂, rest', rfl, hfaces, hmore⟩ := ih hfaces hothers
        refine ⟨s.peek :: (used₁ ++ used₂), rest', by simp, hfaces, ?_⟩
        exact hgrammar.cons hkind hone hmore
      · rw [henum.more_of_comma_ne hkind] at hrun
        cases hrun
        exact ⟨[], ts, rfl, hs, hgrammar.nil⟩

theorem sound_items (henum : Enumeration item more items) (hitem : SoundItem item One)
    (hgrammar : Enumerates One More All) {found : List α} (hs : s.Faces ts last)
    (hrun : items s = .ok found t) (ht : t.faults = []) :
    ∃ used closing rest, ts = used ++ closing :: rest ∧ closing.kind = .rightParen ∧
      t.Faces rest last ∧ All used found := by
  by_cases hkind : s.peek.kind = .rightParen
  · rw [henum.items_of_paren hkind] at hrun
    cases hrun
    obtain ⟨rest, rfl, hfaces⟩ := hs.eq_cons (by simp [hkind])
    exact ⟨[], s.peek, rest, rfl, hkind, hfaces, hgrammar.none⟩
  · rw [henum.items_of_paren_ne hkind] at hrun
    obtain ⟨first, t₁, hfirst, hrun⟩ := bind_eq_ok_iff.mp hrun
    obtain ⟨_, _, hget, hrun⟩ := bind_eq_ok_iff.mp hrun
    cases hget
    obtain ⟨others, t₂, hothers, hrun⟩ := bind_eq_ok_iff.mp hrun
    obtain ⟨_, t₃, hclosing, hpure⟩ := bind_eq_ok_iff.mp hrun
    cases hpure
    have ht₂ := (Passage.faults.expectPeek _).clean hclosing ht
    have ht₁ := (Passage.faults.more henum hitem.keeps _).clean hothers ht₂
    obtain ⟨used₁, rest, rfl, hfaces, hone⟩ := hitem.sound hs hfirst ht₁
    obtain ⟨used₂, rest', rfl, hfaces, hmore⟩ := sound_more henum hitem hgrammar hfaces hothers ht₂
    obtain ⟨rest'', rfl, hkind, rfl, hfaces⟩ := hfaces.expectPeek (by decide) hclosing
    exact ⟨used₁ ++ used₂, t₂.peek, rest'', by simp, hkind, hfaces, hgrammar.some hone hmore⟩

end Enumerations

def IsParameter (ts : List Token) (name : Identifier) : Prop :=
  ∃ token : Token, ts = [token] ∧ token.kind = .identifier ∧ name = .ofToken token

theorem soundItem_parameter : SoundItem parameter IsParameter where
  keeps := Passage.faults.parameter
  sound hs hrun _ := by
    obtain ⟨_, t₁, hpeek, hrun⟩ := bind_eq_ok_iff.mp hrun
    obtain ⟨rest, rfl, hkind, rfl, hfaces⟩ := hs.expectPeek (by decide) hpeek
    cases hrun
    exact ⟨[_], rest, rfl, hfaces, _, rfl, hkind, rfl⟩

theorem enumerates_parameters : Enumerates IsParameter MoreParameters Parameters where
  nil := .nil
  cons := by
    rintro comma _ vs _ names hcomma ⟨token, rfl, htoken, rfl⟩ hmore
    exact .cons hcomma htoken hmore
  none := .none
  some := by
    rintro _ vs _ names ⟨token, rfl, htoken, rfl⟩ hmore
    exact .some htoken hmore

theorem soundItem_argument (hinner : inner.Sound) :
    SoundItem (argument inner) fun ts expr => Derives .loose ts (.expression .equality expr) where
  keeps := Passage.faults.argument hinner.keeps
  sound hs hrun ht := hinner.lowest hs hrun ht

theorem enumerates_arguments : Enumerates
    (fun ts expr => Derives .loose ts (.expression .equality expr))
    (fun ts exprs => Derives .loose ts (.moreArguments exprs))
    (fun ts exprs => Derives .loose ts (.arguments exprs)) where
  nil := .noMoreArguments
  cons := .nextArgument
  none := .noArguments
  some := .someArguments

/-! ### Expressions -/

/-- Of the tokens `ts` all but `rest` are read, as an expression of a layer that the next token does
not bind tighter than. -/
structure Settled (ts rest : List Token) (last : Token) (expr : Expr) (layer : Layer)
    (t : ParseState) : Prop where
  derives : ∃ used, ts = used ++ rest ∧ Derives .loose used (.expression layer expr)
  faces : t.Faces rest last
  next : t.peek.kind.precedence.rank ≤ layer.rank

theorem settled_primary {used rest : List Token} {expr : Expr} (hfaces : t.Faces rest last)
    (h : Derives .loose used (.expression .primary expr)) :
    Settled (used ++ rest) rest last expr .primary t := by
  refine ⟨⟨used, rfl, h⟩, hfaces, ?_⟩
  cases t.peek.kind <;> decide

theorem sound_unaryRest (hinner : inner.Sound) {expr : Expr} {operator : UnaryOp}
    (hs : s.Sees ts last) (hsign : UnaryOp.ofKind? s.current.kind = some operator)
    (hrun : unaryRest inner operator s = .ok expr t) (ht : t.faults = []) :
    ∃ rest, Settled ts rest last expr .unary t := by
  obtain ⟨_, _, hcurrent, hrun⟩ := bind_eq_ok_iff.mp hrun
  cases hcurrent
  obtain ⟨_, _, hadvance, hrun⟩ := bind_eq_ok_iff.mp hrun
  cases hadvance
  obtain ⟨right, t₁, hright, hpure⟩ := bind_eq_ok_iff.mp hrun
  cases hpure
  obtain ⟨us, rfl, hfaces⟩ := hs.eq_cons (UnaryOp.usable_of_ofKind? hsign).1
  obtain ⟨used, rest, layer, rfl, hfaces, hadmits, hderives, hstops⟩ :=
    hinner.expression (by decide) hfaces hright ht
  refine ⟨rest, ⟨s.current :: used, rfl, .unary hsign (hderives.loosen ?_)⟩, hfaces, ?_⟩
  · have htight : 5 < layer.rank ∨ 5 ≤ layer.rank := hadmits.2
    change 5 ≤ layer.rank
    omega
  · rw [Bool.eq_false_iff, Ne, TokenKind.continues_iff] at hstops
    exact Nat.le_of_not_lt hstops

theorem sound_conditionalRest (hinner : inner.Sound) {expr : Expr} (hs : s.Sees ts last)
    (hkind : s.current.kind = .kwIf) (hrun : conditionalRest inner s = .ok expr t)
    (ht : t.faults = []) : ∃ rest, Settled ts rest last expr .primary t := by
  obtain ⟨_, _, hcurrent, hrun⟩ := bind_eq_ok_iff.mp hrun
  cases hcurrent
  obtain ⟨_, t₁, hopening, hrun⟩ := bind_eq_ok_iff.mp hrun
  obtain ⟨condition, t₂, hcondition, hrun⟩ := bind_eq_ok_iff.mp hrun
  obtain ⟨consequence, t₃, hconsequence, hrun⟩ := bind_eq_ok_iff.mp hrun
  obtain ⟨alternative, t₄, halternative, hpure⟩ := bind_eq_ok_iff.mp hrun
  cases hpure
  have ht₃ := (Passage.faults.elseBranch hinner.keeps).clean halternative ht
  have ht₂ := (Passage.faults.braced hinner.keeps).clean hconsequence ht₃
  obtain ⟨ts₁, rfl, hfaces⟩ := hs.eq_cons (by simp [hkind])
  obtain ⟨ts₂, rfl, hkind₁, rfl, hfaces⟩ := hfaces.expectPeek (by decide) hopening
  obtain ⟨used₁, closing, ts₃, rfl, hkind₂, hfaces, hderives₁⟩ :=
    sound_groupRest hinner hfaces hcondition ht₂
  obtain ⟨used₂, ts₄, rfl, hfaces, hderives₂⟩ := sound_braced hinner hfaces hconsequence ht₃
  obtain ⟨used₃, rest, rfl, hfaces, hderives₃⟩ := sound_elseBranch hinner hfaces halternative ht
  have hderives := Derives.conditional hkind hkind₁ hderives₁ hkind₂ hderives₂ hderives₃
  refine ⟨rest, ?_⟩
  simpa using settled_primary hfaces hderives

theorem sound_functionRest (hinner : inner.Sound) {expr : Expr} (hs : s.Sees ts last)
    (hkind : s.current.kind = .kwFn) (hrun : functionRest inner s = .ok expr t)
    (ht : t.faults = []) : ∃ rest, Settled ts rest last expr .primary t := by
  obtain ⟨_, _, hcurrent, hrun⟩ := bind_eq_ok_iff.mp hrun
  cases hcurrent
  obtain ⟨_, t₁, hopening, hrun⟩ := bind_eq_ok_iff.mp hrun
  obtain ⟨names, t₂, hnames, hrun⟩ := bind_eq_ok_iff.mp hrun
  obtain ⟨body, t₃, hbody, hpure⟩ := bind_eq_ok_iff.mp hrun
  cases hpure
  obtain ⟨ts₁, rfl, hfaces⟩ := hs.eq_cons (by simp [hkind])
  obtain ⟨ts₂, rfl, hkind₁, rfl, hfaces⟩ := hfaces.expectPeek (by decide) hopening
  have ht₂ := (Passage.faults.braced hinner.keeps).clean hbody ht
  obtain ⟨used₁, closing, ts₃, rfl, hkind₂, hfaces, hparameters⟩ :=
    sound_items enumeration_parameters soundItem_parameter enumerates_parameters hfaces hnames ht₂
  obtain ⟨used₂, rest, rfl, hfaces, hderives⟩ := sound_braced hinner hfaces hbody ht
  have hderives := Derives.function hkind hkind₁ hparameters hkind₂ hderives
  refine ⟨rest, ?_⟩
  simpa using settled_primary hfaces hderives

theorem sound_integerLiteral {expr : Expr} (hs : s.Sees ts last)
    (hrun : integerLiteral s = .ok expr t) :
    ∃ rest, Settled ts rest last expr .primary t := by
  obtain ⟨hkind, hvalue, rfl, rfl⟩ := of_integerLiteral_eq_ok hrun
  obtain ⟨rest, rfl, hfaces⟩ := hs.eq_cons (by simp [hkind])
  exact ⟨rest, settled_primary hfaces (.integer hkind (Nat.lt_of_le_pred (by decide) hvalue))⟩

theorem sound_startRule (hinner : inner.Sound) {expr : Expr} {rule : StartRule}
    (hs : s.Sees ts last) (hrule : StartRule.ofKind? s.current.kind = some rule)
    (hrun : rule.parse inner s = .ok expr t) (ht : t.faults = []) :
    ∃ layer rest, 5 ≤ Layer.rank layer ∧ Settled ts rest last expr layer t := by
  -- Only a unary operator makes an expression that is not primary.
  suffices h : (∃ rest, Settled ts rest last expr .unary t) ∨
      ∃ rest, Settled ts rest last expr .primary t by
    rcases h with ⟨rest, h⟩ | ⟨rest, h⟩
    · exact ⟨.unary, rest, by decide, h⟩
    · exact ⟨.primary, rest, by decide, h⟩
  cases hkind : s.current.kind <;>
    simp [hkind, StartRule.ofKind?] at hrule <;> subst hrule
  case identifier =>
    obtain ⟨rest, rfl, hfaces⟩ := hs.eq_cons (by simp [hkind])
    cases hrun
    exact .inr ⟨rest, settled_primary hfaces (.identifier hkind)⟩
  case integer => exact .inr (sound_integerLiteral hs hrun)
  case kwTrue =>
    obtain ⟨rest, rfl, hfaces⟩ := hs.eq_cons (by simp [hkind])
    cases hrun
    refine .inr ⟨rest, ?_⟩
    simpa [hkind] using settled_primary hfaces (.true hkind)
  case kwFalse =>
    obtain ⟨rest, rfl, hfaces⟩ := hs.eq_cons (by simp [hkind])
    cases hrun
    refine .inr ⟨rest, ?_⟩
    simpa [hkind] using settled_primary hfaces (.false hkind)
  case bang => exact .inl (sound_unaryRest hinner hs (by rw [hkind]; rfl) hrun ht)
  case minus => exact .inl (sound_unaryRest hinner hs (by rw [hkind]; rfl) hrun ht)
  case leftParen =>
    obtain ⟨us, rfl, hfaces⟩ := hs.eq_cons (by simp [hkind])
    obtain ⟨used, closing, rest, rfl, hclosing, hfaces, hderives⟩ :=
      sound_groupRest hinner hfaces hrun ht
    refine .inr ⟨rest, ?_⟩
    simpa using settled_primary hfaces (.group hkind hderives hclosing)
  case kwIf => exact .inr (sound_conditionalRest hinner hs hkind hrun ht)
  case kwFn => exact .inr (sound_functionRest hinner hs hkind hrun ht)

/-- A step of the loop: the operator takes what is read so far as its left operand. -/
theorem Settled.binary (hinner : inner.Sound) {rest : List Token} {left expr : Expr}
    {layer : Layer} {operator : BinaryOp} {u : ParseState} (h : Settled ts rest last left layer t)
    (hrule : ContinueRule.ofKind? t.peek.kind = some (.binary operator))
    (hrun : binaryRest inner left operator t.advance = .ok expr u) (hu : u.faults = []) :
    ∃ next rest', Layer.rank next = t.peek.kind.precedence.rank ∧ rest'.length < rest.length ∧
      Settled ts rest' last expr next u := by
  obtain ⟨_, _, hcurrent, hrun⟩ := bind_eq_ok_iff.mp hrun
  cases hcurrent
  obtain ⟨_, _, hadvance, hrun⟩ := bind_eq_ok_iff.mp hrun
  cases hadvance
  obtain ⟨right, t₁, hright, hpure⟩ := bind_eq_ok_iff.mp hrun
  cases hpure
  obtain ⟨next, operand, hoperand, hsign⟩ := Layer.exists_binary? hrule
  obtain ⟨hprecedence, hbinary, -⟩ := Layer.of_binary? hsign
  have hnext := Layer.rank_operand? hoperand
  obtain ⟨⟨used, rfl, hleft⟩, hfaces, hlayer⟩ := h
  obtain ⟨us, rfl, hfaces'⟩ := hfaces.eq_cons (Layer.usable_of_binary? hsign).1
  have hleast : t.advance.current.kind.precedence.rank ≤ 5 := by
    rw [t.current_advance]
    omega
  obtain ⟨used', rest', tight, rfl, hfaces'', hadmits, hderives, hstops⟩ :=
    hinner.expression hleast hfaces' hright hu
  rw [t.current_advance] at hadmits hstops
  have hshorter : rest'.length < (t.peek :: (used' ++ rest')).length := by
    simp only [List.length_cons, List.length_append]
    omega
  refine ⟨next, rest', hprecedence.symm, hshorter,
    ⟨used ++ t.peek :: used', by simp, ?_⟩, hfaces'', ?_⟩
  · refine .binary hoperand (hleft.loosen (by omega)) hsign (hderives.loosen ?_)
    have htight := hadmits.2
    omega
  · rw [Bool.eq_false_iff, Ne, TokenKind.continues_iff] at hstops
    omega

theorem Settled.call (hinner : inner.Sound) {rest : List Token} {left expr : Expr}
    {layer : Layer} {u : ParseState} (h : Settled ts rest last left layer t)
    (hkind : t.peek.kind = .leftParen) (hrun : callRest inner left t.advance = .ok expr u)
    (hu : u.faults = []) :
    ∃ rest', rest'.length < rest.length ∧ Settled ts rest' last expr .call u := by
  obtain ⟨_, _, hcurrent, hrun⟩ := bind_eq_ok_iff.mp hrun
  cases hcurrent
  obtain ⟨exprs, _, harguments, hpure⟩ := bind_eq_ok_iff.mp hrun
  cases hpure
  obtain ⟨⟨used, rfl, hleft⟩, hfaces, hlayer⟩ := h
  rw [hkind] at hlayer
  obtain ⟨us, rfl, hfaces'⟩ := hfaces.eq_cons (by simp [hkind])
  obtain ⟨used', closing, rest', rfl, hclosing, hfaces'', hderives⟩ :=
    sound_items (enumeration_arguments inner) (soundItem_argument hinner) enumerates_arguments
      hfaces' harguments hu
  have hcall := Derives.call (hleft.loosen hlayer) hkind hderives hclosing
  refine ⟨rest', by simp; omega, ⟨used ++ t.peek :: (used' ++ [closing]), by simp, hcall⟩,
    hfaces'', ?_⟩
  cases u.peek.kind <;> decide

/-- What a token continues an expression to belongs to the layer of that token. -/
theorem Settled.continueRule (hinner : inner.Sound) {rest : List Token} {left expr : Expr}
    {layer : Layer} {rule : ContinueRule} {u : ParseState} (h : Settled ts rest last left layer t)
    (hrule : ContinueRule.ofKind? t.peek.kind = some rule)
    (hrun : rule.parse inner left t.advance = .ok expr u) (hu : u.faults = []) :
    ∃ next rest', Layer.rank next = t.peek.kind.precedence.rank ∧ rest'.length < rest.length ∧
      Settled ts rest' last expr next u := by
  cases rule with
  | binary operator => exact h.binary hinner hrule hrun hu
  | call =>
      have hkind := ContinueRule.ofKind?_eq_call_iff.mp hrule
      obtain ⟨rest', hlength, hcall⟩ := h.call hinner hkind hrun hu
      exact ⟨.call, rest', by rw [hkind]; rfl, hlength, hcall⟩

theorem sound_continued (hinner : inner.Sound) {least : Precedence} (hleast : least.rank ≤ 5)
    {steps : Nat} {rest : List Token} {left expr : Expr} {layer : Layer} {u : ParseState}
    (h : Settled ts rest last left layer t) (hadmits : layer.Admits least)
    (hsteps : rest.length ≤ steps) (hrun : continued inner least steps left t = .ok expr u)
    (hu : u.faults = []) :
    ∃ next rest', Layer.Admits next least ∧ Settled ts rest' last expr next u ∧
      u.peek.kind.continues least = false := by
  induction steps generalizing left layer t rest with
  | zero =>
      cases hrun
      have hrest : rest = [] := List.eq_nil_of_length_eq_zero (Nat.le_zero.mp hsteps)
      have hpeek : u.peek.kind = .eof := by
        rw [h.faces.peek_eq, hrest]
        exact h.faces.last_eof
      refine ⟨layer, rest, hadmits, h, ?_⟩
      rw [hpeek]
      cases least <;> rfl
  | succ steps ih =>
      cases hcontinues : t.peek.kind.continues least with
      | false =>
          rw [continued_of_continues_eq_false hcontinues] at hrun
          cases hrun
          exact ⟨layer, rest, hadmits, h, hcontinues⟩
      | true =>
          have htight := TokenKind.continues_iff.mp hcontinues
          obtain ⟨rule, hrule⟩ := ContinueRule.exists_of_continues hcontinues
          rw [continued_of_rule hcontinues hrule] at hrun
          obtain ⟨longer, v, hlonger, hrun⟩ := bind_eq_ok_iff.mp hrun
          have hv := (Passage.faults.continued hinner.keeps least steps longer).clean hrun hu
          obtain ⟨next, rest', hrank, hlength, hsettled⟩ :=
            h.continueRule hinner hrule hlonger hv
          exact ih hsettled ⟨hleast, .inl (by omega)⟩ (by omega) hrun

theorem sound_start (hinner : inner.Sound) {expr : Expr} (hs : s.Sees ts last)
    (hrun : ParseM.start inner s = .ok expr t) (ht : t.faults = []) :
    ∃ layer rest, 5 ≤ Layer.rank layer ∧ Settled ts rest last expr layer t := by
  cases hrule : StartRule.ofKind? s.current.kind with
  | none =>
      rw [start_of_none hrule] at hrun
      cases hrun
  | some rule =>
      rw [start_of_rule hrule] at hrun
      exact sound_startRule hinner hs hrule hrun ht

theorem sound_expressionBody (hinner : inner.Sound) {least : Precedence}
    (hleast : least.rank ≤ 5) {expr : Expr} (hs : s.Sees ts last)
    (hrun : expressionBody inner least s = .ok expr t) (ht : t.faults = []) :
    ∃ used rest layer, ts = used ++ rest ∧ t.Faces rest last ∧ Layer.Admits layer least ∧
      Derives .loose used (.expression layer expr) ∧ t.peek.kind.continues least = false := by
  obtain ⟨left, t₁, hstart, hrun⟩ := bind_eq_ok_iff.mp hrun
  obtain ⟨_, _, hget, hrun⟩ := bind_eq_ok_iff.mp hrun
  cases hget
  have ht₁ := (Passage.faults.continued hinner.keeps least _ left).clean hrun ht
  obtain ⟨layer, rest, hrank, hsettled⟩ := sound_start hinner hs hstart ht₁
  obtain ⟨next, rest', hadmits, ⟨⟨used, hts, hderives⟩, hfaces, -⟩, hstops⟩ :=
    sound_continued hinner hleast hsettled ⟨hleast, .inr hrank⟩ hsettled.faces.length_le_remaining
      hrun ht
  exact ⟨used, rest', next, hts, hfaces, hadmits, hderives, hstops⟩

/-! ### Statements -/

theorem sound_skipSemicolon {value : Unit} (hs : s.Faces ts last)
    (hrun : skipSemicolon s = .ok value t) :
    ∃ separator rest, ts = separator ++ rest ∧ (∀ u ∈ separator, u.kind = .semicolon) ∧
      t.Faces rest last := by
  by_cases hkind : s.peek.kind = .semicolon
  · rw [skipSemicolon_of_kind hkind] at hrun
    cases hrun
    obtain ⟨rest, rfl, hfaces⟩ := hs.eq_cons (by simp [hkind])
    exact ⟨[s.peek], rest, rfl, by simpa using hkind, hfaces⟩
  · rw [skipSemicolon_of_kind_ne hkind] at hrun
    cases hrun
    exact ⟨[], ts, rfl, by simp, hs⟩

/-- The tokens passed from `ts` on are a statement and perhaps semicolons after it. -/
def ParseState.Passes (t : ParseState) (ts : List Token) (last : Token) (statement : Statement) :
    Prop :=
  ∃ used separator rest, ts = used ++ (separator ++ rest) ∧ used ≠ [] ∧
    Derives .loose used (.statement statement) ∧ (∀ u ∈ separator, u.kind = .semicolon) ∧
    t.Faces rest last

theorem sound_letStatement (hinner : inner.Sound) {found : Statement} (hs : s.Sees ts last)
    (hkind : s.current.kind = .kwLet) (hrun : letStatement inner s = .ok found t)
    (ht : t.faults = []) : t.Passes ts last found := by
  obtain ⟨_, _, hcurrent, hrun⟩ := bind_eq_ok_iff.mp hrun
  cases hcurrent
  obtain ⟨_, t₁, hname, hrun⟩ := bind_eq_ok_iff.mp hrun
  obtain ⟨_, _, hcurrent, hrun⟩ := bind_eq_ok_iff.mp hrun
  cases hcurrent
  obtain ⟨_, t₂, hassign, hrun⟩ := bind_eq_ok_iff.mp hrun
  obtain ⟨_, _, hadvance, hrun⟩ := bind_eq_ok_iff.mp hrun
  cases hadvance
  obtain ⟨value, t₃, hvalue, hrun⟩ := bind_eq_ok_iff.mp hrun
  obtain ⟨_, t₄, hskip, hpure⟩ := bind_eq_ok_iff.mp hrun
  cases hpure
  have ht₃ := Passage.faults.skipSemicolon.clean hskip ht
  obtain ⟨ts₁, rfl, hfaces⟩ := hs.eq_cons (by simp [hkind])
  obtain ⟨ts₂, rfl, hidentifier, rfl, hfaces⟩ := hfaces.expectPeek (by decide) hname
  obtain ⟨ts₃, rfl, hsign, rfl, hfaces⟩ := hfaces.expectPeek (by decide) hassign
  obtain ⟨used, ts₄, rfl, hfaces, hderives⟩ := hinner.lowest hfaces hvalue ht₃
  obtain ⟨separator, rest, rfl, hseparator, hfaces⟩ := sound_skipSemicolon hfaces hskip
  refine ⟨s.current :: s.peek :: s.advance.peek :: used, separator, rest, by simp, by simp, ?_,
    hseparator, hfaces⟩
  exact .binding hkind hidentifier hsign hderives

theorem sound_returnStatement (hinner : inner.Sound) {found : Statement} (hs : s.Sees ts last)
    (hkind : s.current.kind = .kwReturn) (hrun : returnStatement inner s = .ok found t)
    (ht : t.faults = []) : t.Passes ts last found := by
  obtain ⟨ts₁, rfl, hfaces⟩ := hs.eq_cons (by simp [hkind])
  by_cases hstops : s.peek.kind.Stops
  · rw [returnStatement_of_stops hstops] at hrun
    obtain ⟨_, hskip, rfl⟩ := map_eq_ok_iff.mp hrun
    obtain ⟨separator, rest, rfl, hseparator, hfaces⟩ := sound_skipSemicolon hfaces hskip
    exact ⟨[s.current], separator, rest, rfl, by simp, .noResult hkind, hseparator, hfaces⟩
  · rw [returnStatement_of_not_stops hstops] at hrun
    obtain ⟨value, t₁, hvalue, hrun⟩ := bind_eq_ok_iff.mp hrun
    obtain ⟨_, t₂, hskip, hpure⟩ := bind_eq_ok_iff.mp hrun
    cases hpure
    have ht₁ := Passage.faults.skipSemicolon.clean hskip ht
    obtain ⟨used, ts₂, rfl, hfaces, hderives⟩ := hinner.lowest hfaces hvalue ht₁
    obtain ⟨separator, rest, rfl, hseparator, hfaces⟩ := sound_skipSemicolon hfaces hskip
    exact ⟨s.current :: used, separator, rest, rfl, by simp, .result hkind hderives, hseparator,
      hfaces⟩

theorem Derives.expression_ne_nil {punctuation : Punctuation} {layer : Layer} {expr : Expr}
    (h : Derives punctuation ts (.expression layer expr)) : ts ≠ [] := by
  generalize hphrase : Phrase.expression layer expr = phrase at h
  induction h generalizing layer expr <;> simp_all

theorem sound_expressionStatement (hinner : inner.Sound) {found : Statement}
    (hs : s.Sees ts last) (hrun : expressionStatement inner s = .ok found t)
    (ht : t.faults = []) : t.Passes ts last found := by
  obtain ⟨_, _, hcurrent, hrun⟩ := bind_eq_ok_iff.mp hrun
  cases hcurrent
  obtain ⟨expr, t₁, hexpr, hrun⟩ := bind_eq_ok_iff.mp hrun
  obtain ⟨_, t₂, hskip, hpure⟩ := bind_eq_ok_iff.mp hrun
  cases hpure
  have ht₁ := Passage.faults.skipSemicolon.clean hskip ht
  obtain ⟨used, ts₁, rfl, hfaces, hderives⟩ := hinner.lowest hs hexpr ht₁
  obtain ⟨separator, rest, rfl, hseparator, hfaces⟩ := sound_skipSemicolon hfaces hskip
  refine ⟨used, separator, rest, rfl, hderives.expression_ne_nil, ?_, hseparator, hfaces⟩
  cases used with
  | nil => exact absurd rfl hderives.expression_ne_nil
  | cons token used =>
      obtain rfl : s.current = token := hs.current_eq
      exact .expression hderives

theorem Derives.separated {separator us : List Token} {statements : List Statement}
    (hseparator : ∀ u ∈ separator, u.kind = .semicolon)
    (h : Derives .loose us (.list statements)) :
    Derives .loose (separator ++ us) (.list statements) := by
  induction separator with
  | nil => exact h
  | cons u separator ih =>
      simp only [List.forall_mem_cons] at hseparator
      exact .empty hseparator.1 (ih hseparator.2)

/-- A statement reader passes the front of a list: whatever list follows, the two make a list. -/
theorem sound_statement (hinner : inner.Sound) {found : Option Statement} (hs : s.Sees ts last)
    (hrun : statement inner s = .ok found t) (ht : t.faults = []) :
    ∃ front rest, ts = front ++ rest ∧ front ≠ [] ∧ t.Faces rest last ∧
      ∀ us statements, Derives .loose us (.list statements) →
        Derives .loose (front ++ us) (.list (found.toList ++ statements)) := by
  by_cases hsemicolon : s.current.kind = .semicolon
  · rw [statement_of_semicolon hsemicolon] at hrun
    cases hrun
    obtain ⟨rest, rfl, hfaces⟩ := hs.eq_cons (by simp [hsemicolon])
    exact ⟨[s.current], rest, rfl, by simp, hfaces, fun us statements h => .empty hsemicolon h⟩
  suffices h : ∃ st, found = some st ∧ t.Passes ts last st by
    obtain ⟨st, rfl, used, separator, rest, rfl, hused, hderives, hseparator, hfaces⟩ := h
    refine ⟨used ++ separator, rest, by simp, by simp [hused], hfaces, fun us statements h => ?_⟩
    have hallows : Punctuation.loose.Allows (separator ++ us) := trivial
    simpa using Derives.cons hderives hallows (h.separated hseparator)
  by_cases hlet : s.current.kind = .kwLet
  · rw [statement_of_let hlet] at hrun
    obtain ⟨st, hst, rfl⟩ := map_eq_ok_iff.mp hrun
    exact ⟨st, rfl, sound_letStatement hinner hs hlet hst ht⟩
  by_cases hreturn : s.current.kind = .kwReturn
  · rw [statement_of_return hreturn] at hrun
    obtain ⟨st, hst, rfl⟩ := map_eq_ok_iff.mp hrun
    exact ⟨st, rfl, sound_returnStatement hinner hs hreturn hst ht⟩
  · rw [statement_of_other hlet hreturn hsemicolon] at hrun
    obtain ⟨st, hst, rfl⟩ := map_eq_ok_iff.mp hrun
    exact ⟨st, rfl, sound_expressionStatement hinner hs hst ht⟩

/-! ### Lists of statements -/

theorem faults_ne_nil_of_record {fault : Fault} (h : (s.record fault).faults <+: t.faults) :
    t.faults ≠ [] := by
  intro ht
  rw [ht, List.prefix_nil] at h
  simp [ParseState.record] at h

theorem sound_blockStatements (hinner : inner.Sound) {level steps : Nat}
    {statements : List Statement} (hs : s.Sees ts last)
    (hrun : blockStatements inner level steps s = .ok statements t) (ht : t.faults = []) :
    ∃ used closing rest, ts = used ++ closing :: rest ∧ closing.kind = .rightBrace ∧
      t.Faces rest last ∧ Derives .loose used (.list statements) := by
  induction steps generalizing s ts statements with
  | zero => cases hrun
  | succ steps ih =>
      by_cases hbrace : s.current.kind = .rightBrace
      · obtain ⟨rest, rfl, hfaces⟩ := hs.eq_cons (by simp [hbrace])
        rw [blockStatements_of_brace hbrace] at hrun
        cases hrun
        exact ⟨[], _, rest, rfl, hbrace, hfaces, .nil⟩
      by_cases heof : s.current.kind = .eof
      · rw [blockStatements_of_eof heof] at hrun
        cases hrun
      cases hstatement : statement inner s with
      | ok found u =>
          rw [blockStatements_of_ok hbrace heof hstatement] at hrun
          obtain ⟨more, hmore, rfl⟩ := map_eq_ok_iff.mp hrun
          have hkeeps := Passage.faults.blockStatements hinner.keeps level steps
          have hu : u.advance.faults = [] := hkeeps.clean hmore ht
          obtain ⟨front, us, rfl, -, hfaces, hlist⟩ := sound_statement hinner hs hstatement hu
          obtain ⟨used, closing, rest, rfl, hclosing, hfaces', hderives⟩ := ih hfaces hmore
          exact ⟨front ++ used, closing, rest, by simp, hclosing, hfaces', hlist _ _ hderives⟩
      | error fault u =>
          have hsync := Passage.faults.resync level (u.record fault)
          cases hclosed : ((u.record fault).resync level).1 with
          | true =>
              rw [blockStatements_of_error_of_closed hbrace heof hstatement hclosed] at hrun
              cases hrun
              exact absurd ht (faults_ne_nil_of_record hsync)
          | false =>
              rw [blockStatements_of_error_of_open hbrace heof hstatement hclosed] at hrun
              have hkeeps := Passage.faults.blockStatements hinner.keeps level steps
              exact absurd ht (faults_ne_nil_of_record (hsync.trans (hkeeps.of_ok hrun :)))

theorem sound_blockBody (hinner : inner.Sound) {block : Block} (hs : s.Sees ts last)
    (hkind : s.current.kind = .leftBrace) (hrun : blockBody inner s = .ok block t)
    (ht : t.faults = []) :
    ∃ used rest, ts = used ++ rest ∧ t.Faces rest last ∧ Derives .loose used (.block block) := by
  obtain ⟨_, _, hget, hrun⟩ := bind_eq_ok_iff.mp hrun
  cases hget
  obtain ⟨_, _, hadvance, hrun⟩ := bind_eq_ok_iff.mp hrun
  cases hadvance
  obtain ⟨_, _, hget, hrun⟩ := bind_eq_ok_iff.mp hrun
  cases hget
  obtain ⟨statements, _, hstatements, hpure⟩ := bind_eq_ok_iff.mp hrun
  cases hpure
  obtain ⟨us, rfl, hfaces⟩ := hs.eq_cons (by simp [hkind])
  obtain ⟨used, closing, rest, rfl, hclosing, hfaces', hderives⟩ :=
    sound_blockStatements hinner hfaces hstatements ht
  exact ⟨s.current :: (used ++ [closing]), rest, by simp, hfaces', .block hkind hderives hclosing⟩

theorem sound_programStatements (hinner : inner.Sound) {steps : Nat} (hs : s.Sees ts last)
    (hsteps : ts.length ≤ steps) (hfaults : (s.programStatements inner steps).2.faults = []) :
    Derives .loose ts (.list (s.programStatements inner steps).1) := by
  induction steps generalizing s ts with
  | zero =>
      obtain rfl : ts = [] := List.eq_nil_of_length_eq_zero (Nat.le_zero.mp hsteps)
      exact .nil
  | succ steps ih =>
      by_cases heof : s.current.kind = .eof
      · rw [programStatements_of_eof heof, hs.current_eof_iff.mp heof]
        exact .nil
      cases hstatement : statement inner s with
      | ok found u =>
          rw [programStatements_of_ok heof hstatement] at hfaults ⊢
          have hprefix := Passage.faults.programStatements hinner.keeps steps u.advance
          have hu : u.faults = [] := by
            rw [hfaults, List.prefix_nil] at hprefix
            exact hprefix
          obtain ⟨front, rest, rfl, hfront, hfaces, hlist⟩ :=
            sound_statement hinner hs hstatement hu
          have hlength := List.length_pos_iff.mpr hfront
          simp only [List.length_append] at hsteps
          exact hlist _ _ (ih hfaces (by omega) hfaults)
      | error fault u =>
          rw [programStatements_of_error heof hstatement] at hfaults
          have hsync := Passage.faults.resync 0 (u.record fault)
          have hrest := Passage.faults.programStatements hinner.keeps steps
            ((u.record fault).resync 0).2.advance
          exact absurd hfaults (faults_ne_nil_of_record (hsync.trans hrest))

end Readers

/-! ### The parser -/

theorem nested_eq_ok {α : Type} {step : ParseM α} {a : α} {s t : ParseState}
    (h : nested step s = .ok a t) : ∃ u, step s.enter = .ok a u ∧ t = u.leave := by
  unfold nested at h
  split at h
  · cases h
  · split at h
    · cases h
      exact ⟨_, ‹_›, rfl⟩
    · cases h

theorem Inner.sound_level (n : Nat) : (Inner.level n).Sound := by
  induction n with
  | zero =>
      refine ⟨Passage.faults.level 0, ?_, ?_⟩
      · intro least s t ts last expr hleast hs hrun ht
        cases hrun
      · intro s t ts last block hs hkind hrun ht
        cases hrun
  | succ n ih =>
      refine ⟨Passage.faults.level (n + 1), ?_, ?_⟩
      · intro least s t ts last expr hleast hs hrun ht
        obtain ⟨u, hbody, rfl⟩ := nested_eq_ok hrun
        have hs' : s.enter.Sees ts last := hs.congr s.stream_enter
        obtain ⟨used, rest, layer, hts, hfaces, hadmits, hderives, hstops⟩ :=
          sound_expressionBody ih hleast hs' hbody ht
        exact ⟨used, rest, layer, hts, hfaces.leave, hadmits, hderives, hstops⟩
      · intro s t ts last block hs hkind hrun ht
        obtain ⟨u, hbody, rfl⟩ := nested_eq_ok hrun
        have hs' : s.enter.Sees ts last := hs.congr s.stream_enter
        obtain ⟨used, rest, hts, hfaces, hderives⟩ := sound_blockBody ih hs' hkind hbody ht
        exact ⟨used, rest, hts, hfaces.leave, hderives⟩

theorem derives_of_program {s : ParseState} {ts : List Token} {last : Token}
    (hs : s.Sees ts last) (hfaults : s.program.2.faults = []) :
    Derives .loose ts (.list s.program.1.statements) :=
  sound_programStatements (Inner.sound_level _) hs hs.length_le_remaining hfaults

theorem Derives.sound_tokens {ts : List Token} {last : Token} {statements : List Statement}
    (h : Derives .loose ts (.list statements)) (hlast : last.kind = .eof) :
    (∀ t ∈ ts ++ [last], t.kind ≠ .illegal ∧
      (t.kind = .integer → decimalValue t.literal < 2 ^ 63)) ∧ Balanced (ts ++ [last]) := by
  constructor
  · simp only [List.forall_mem_append, List.forall_mem_singleton]
    exact ⟨fun t ht => (h.usable t ht).2, by simp [hlast]⟩
  · exact (h.neutral.append (.cons (fun _ => by rw [hlast]; rfl) .nil)) []

/-- **Soundness.** A source without a fault is, token by token and up to its end marker, a written
form of the program that is read from it, semicolons between statements being optional. So a source
with a foreign character, with an integer that is too large, or with a bracket that has no partner
always has a fault. -/
theorem derives_of_parse (maxDepth : Nat) (source : String) :
    ((parse maxDepth source).faults = [] → ∃ ts last, tokenize source = ts ++ [last] ∧
      last.kind = .eof ∧ Derives .loose ts (.list (parse maxDepth source).program.statements)) ∧
    ((∃ t ∈ tokenize source, t.kind = .illegal ∨
        t.kind = .integer ∧ 2 ^ 63 ≤ decimalValue t.literal) ∨ ¬ Balanced (tokenize source) →
      (parse maxDepth source).faults ≠ []) := by
  obtain ⟨ts, last, htokens⟩ := exists_tokenize_eq_append source
  have hs : (ParseState.start maxDepth source).Sees ts last := ParseState.start_sees htokens
  constructor
  · intro hfaults
    exact ⟨ts, last, htokens, hs.last_eof, derives_of_program hs hfaults⟩
  · intro hbad hfaults
    obtain ⟨hgood, hbalanced⟩ := (derives_of_program hs hfaults).sound_tokens hs.last_eof
    rw [← htokens] at hgood hbalanced
    rcases hbad with ⟨t, ht, hillegal | ⟨hinteger, hvalue⟩⟩ | hunbalanced
    · exact (hgood t ht).1 hillegal
    · exact absurd ((hgood t ht).2 hinteger) (Nat.not_lt.mpr hvalue)
    · exact hunbalanced hbalanced

/-- Two statements without a semicolon between them, and brackets whose pairs overlap. -/
theorem derives_of_parse_call_after_function :
    (∃ ts last, tokenize "fn(a) { -a * 2 } (1) let b = a" = ts ++ [last] ∧ last.kind = .eof ∧
      Derives .loose ts
        (.list (parse 9 "fn(a) { -a * 2 } (1) let b = a").program.statements)) ∧
    (parse 9 "if (a) { (b } c)").faults ≠ [] :=
  ⟨(derives_of_parse 9 "fn(a) { -a * 2 } (1) let b = a").1 (by decide +kernel),
    (derives_of_parse 9 "if (a) { (b } c)").2 (.inr (by decide +kernel))⟩

end MonkeySyntax
