import Mathlib.Algebra.Group.Nat.Defs
import MonkeySyntax.Parsing.Fault
import MonkeySyntax.Text.Decimal
import MonkeySyntax.Tree.Basic

/-!
# The grammar of the language

The language is given here without a parser: `Derives ts phrase` says that the tokens `ts`, all of
them and in this order, are written form of `phrase`. Expressions come in layers, each made of
operands of the next tighter one, so that grouping by precedence is a matter of which layer a
derivation goes through.

Two readings of lists of statements are in use. In the strict one every statement is followed by a
semicolon or by the end of its list; in the loose one the semicolon may be left out.
-/

namespace MonkeySyntax

/-- The layers of expressions, from the loosest to the tightest. -/
inductive Layer where
  | equality | relational | additive | multiplicative | unary | call | primary
deriving DecidableEq, Repr

namespace Layer

/-- The layer of what stands between the operators of a layer. -/
def operand? : Layer → Option Layer
  | equality => some relational
  | relational => some additive
  | additive => some multiplicative
  | multiplicative => some unary
  | unary => some call
  | call => some primary
  | primary => none

/-- The operator that a token of this kind is between two operands of the layer. -/
def binary? : Layer → TokenKind → Option BinaryOp
  | equality, .equal => some .equal
  | equality, .notEqual => some .notEqual
  | relational, .less => some .less
  | relational, .greater => some .greater
  | additive, .plus => some .plus
  | additive, .minus => some .minus
  | multiplicative, .star => some .multiply
  | multiplicative, .slash => some .divide
  | _, _ => none

end Layer

/-- What a stretch of tokens can be the written form of. -/
inductive Phrase where
  | expression (layer : Layer) (expr : Expr)
  /-- Arguments between the parentheses of a call. -/
  | arguments (exprs : List Expr)
  /-- Arguments after the first, each behind a comma. -/
  | moreArguments (exprs : List Expr)
  | block (block : Block)
  /-- What may follow the first block of a conditional. -/
  | alternative (block : Option Block)
  | statement (statement : Statement)
  /-- What a program and the inside of a block consist of. -/
  | list (statements : List Statement)

inductive Punctuation where
  | strict | loose
deriving DecidableEq, Repr

/-- Whether the rest of a list may follow a statement. -/
def Punctuation.Allows : Punctuation → List Token → Prop
  | strict, rest => ∀ t ∈ rest.head?, t.kind = .semicolon
  | loose, _ => True

/-- Names after the first in a list of parameters, each behind a comma. -/
inductive MoreParameters : List Token → List Identifier → Prop where
  | nil : MoreParameters [] []
  | cons {comma name : Token} {ts : List Token} {names : List Identifier}
      (hcomma : comma.kind = .comma) (hname : name.kind = .identifier)
      (hmore : MoreParameters ts names) :
      MoreParameters (comma :: name :: ts) (.ofToken name :: names)

/-- What stands between the parentheses of a function. -/
inductive Parameters : List Token → List Identifier → Prop where
  | none : Parameters [] []
  | some {name : Token} {ts : List Token} {names : List Identifier}
      (hname : name.kind = .identifier) (hmore : MoreParameters ts names) :
      Parameters (name :: ts) (.ofToken name :: names)

/-- The tokens are the written form of the phrase. -/
inductive Derives (punctuation : Punctuation) : List Token → Phrase → Prop where
  | operand {layer operand : Layer} {ts : List Token} {expr : Expr}
      (hlayer : layer.operand? = some operand)
      (hexpr : Derives punctuation ts (.expression operand expr)) :
      Derives punctuation ts (.expression layer expr)
  | binary {layer operand : Layer} {ts us : List Token} {sign : Token} {left right : Expr}
      {operator : BinaryOp} (hlayer : layer.operand? = some operand)
      (hleft : Derives punctuation ts (.expression layer left))
      (hsign : layer.binary? sign.kind = some operator)
      (hright : Derives punctuation us (.expression operand right)) :
      Derives punctuation (ts ++ sign :: us)
        (.expression layer (.binary sign left operator right))
  | unary {ts : List Token} {sign : Token} {right : Expr} {operator : UnaryOp}
      (hsign : UnaryOp.ofKind? sign.kind = some operator)
      (hright : Derives punctuation ts (.expression .unary right)) :
      Derives punctuation (sign :: ts) (.expression .unary (.unary sign operator right))
  | call {ts us : List Token} {opening closing : Token} {function : Expr} {exprs : List Expr}
      (hfunction : Derives punctuation ts (.expression .call function))
      (hopening : opening.kind = .leftParen)
      (harguments : Derives punctuation us (.arguments exprs))
      (hclosing : closing.kind = .rightParen) :
      Derives punctuation (ts ++ opening :: (us ++ [closing]))
        (.expression .call (.call opening function exprs))
  | identifier {token : Token} (htoken : token.kind = .identifier) :
      Derives punctuation [token] (.expression .primary (.identifier (.ofToken token)))
  | integer {token : Token} (htoken : token.kind = .integer)
      (hvalue : decimalValue token.literal < 2 ^ 63) :
      Derives punctuation [token]
        (.expression .primary (.integer token (.ofNat (decimalValue token.literal))))
  | true {token : Token} (htoken : token.kind = .kwTrue) :
      Derives punctuation [token] (.expression .primary (.boolean token Bool.true))
  | false {token : Token} (htoken : token.kind = .kwFalse) :
      Derives punctuation [token] (.expression .primary (.boolean token Bool.false))
  | group {ts : List Token} {opening closing : Token} {expr : Expr}
      (hopening : opening.kind = .leftParen)
      (hexpr : Derives punctuation ts (.expression .equality expr))
      (hclosing : closing.kind = .rightParen) :
      Derives punctuation (opening :: (ts ++ [closing])) (.expression .primary expr)
  | conditional {ts us vs : List Token} {token opening closing : Token} {condition : Expr}
      {consequence : Block} {alternative : Option Block} (htoken : token.kind = .kwIf)
      (hopening : opening.kind = .leftParen)
      (hcondition : Derives punctuation ts (.expression .equality condition))
      (hclosing : closing.kind = .rightParen)
      (hconsequence : Derives punctuation us (.block consequence))
      (halternative : Derives punctuation vs (.alternative alternative)) :
      Derives punctuation (token :: opening :: (ts ++ closing :: (us ++ vs)))
        (.expression .primary (.conditional token condition consequence alternative))
  | function {ts us : List Token} {token opening closing : Token} {names : List Identifier}
      {body : Block} (htoken : token.kind = .kwFn) (hopening : opening.kind = .leftParen)
      (hnames : Parameters ts names) (hclosing : closing.kind = .rightParen)
      (hbody : Derives punctuation us (.block body)) :
      Derives punctuation (token :: opening :: (ts ++ closing :: us))
        (.expression .primary (.function token names body))
  | noArguments : Derives punctuation [] (.arguments [])
  | someArguments {ts us : List Token} {expr : Expr} {exprs : List Expr}
      (hexpr : Derives punctuation ts (.expression .equality expr))
      (hmore : Derives punctuation us (.moreArguments exprs)) :
      Derives punctuation (ts ++ us) (.arguments (expr :: exprs))
  | noMoreArguments : Derives punctuation [] (.moreArguments [])
  | nextArgument {ts us : List Token} {comma : Token} {expr : Expr} {exprs : List Expr}
      (hcomma : comma.kind = .comma)
      (hexpr : Derives punctuation ts (.expression .equality expr))
      (hmore : Derives punctuation us (.moreArguments exprs)) :
      Derives punctuation (comma :: (ts ++ us)) (.moreArguments (expr :: exprs))
  | block {ts : List Token} {opening closing : Token} {statements : List Statement}
      (hopening : opening.kind = .leftBrace)
      (hlist : Derives punctuation ts (.list statements))
      (hclosing : closing.kind = .rightBrace) :
      Derives punctuation (opening :: (ts ++ [closing])) (.block (.mk opening statements))
  | noAlternative : Derives punctuation [] (.alternative none)
  | alternative {ts : List Token} {token : Token} {block : Block} (htoken : token.kind = .kwElse)
      (hblock : Derives punctuation ts (.block block)) :
      Derives punctuation (token :: ts) (.alternative (some block))
  | binding {ts : List Token} {token name sign : Token} {value : Expr}
      (htoken : token.kind = .kwLet) (hname : name.kind = .identifier)
      (hsign : sign.kind = .assign)
      (hvalue : Derives punctuation ts (.expression .equality value)) :
      Derives punctuation (token :: name :: sign :: ts)
        (.statement (.binding token (.ofToken name) value))
  | noResult {token : Token} (htoken : token.kind = .kwReturn) :
      Derives punctuation [token] (.statement (.result token none))
  | result {ts : List Token} {token : Token} {value : Expr} (htoken : token.kind = .kwReturn)
      (hvalue : Derives punctuation ts (.expression .equality value)) :
      Derives punctuation (token :: ts) (.statement (.result token (some value)))
  /-- An expression as a statement is known by its first token. -/
  | expression {ts : List Token} {token : Token} {expr : Expr}
      (hexpr : Derives punctuation (token :: ts) (.expression .equality expr)) :
      Derives punctuation (token :: ts) (.statement (.expression token expr))
  | nil : Derives punctuation [] (.list [])
  | empty {ts : List Token} {token : Token} {statements : List Statement}
      (htoken : token.kind = .semicolon) (hrest : Derives punctuation ts (.list statements)) :
      Derives punctuation (token :: ts) (.list statements)
  | cons {ts us : List Token} {statement : Statement} {statements : List Statement}
      (hstatement : Derives punctuation ts (.statement statement))
      (hallows : punctuation.Allows us) (hrest : Derives punctuation us (.list statements)) :
      Derives punctuation (ts ++ us) (.list (statement :: statements))

/-! ### The tokens of a phrase -/

/-- A token that the language has a use for. -/
def Token.Usable (token : Token) : Prop :=
  token.kind ≠ .eof ∧ token.kind ≠ .illegal ∧
    (token.kind = .integer → decimalValue token.literal < 2 ^ 63)

theorem MoreParameters.usable {ts : List Token} {names : List Identifier}
    (h : MoreParameters ts names) : ∀ t ∈ ts, t.Usable := by
  induction h with
  | nil => simp
  | cons hcomma hname _ ih =>
      simp only [List.forall_mem_cons]
      exact ⟨by simp [Token.Usable, hcomma], by simp [Token.Usable, hname], ih⟩

theorem Parameters.usable {ts : List Token} {names : List Identifier} (h : Parameters ts names) :
    ∀ t ∈ ts, t.Usable := by
  cases h with
  | none => simp
  | some hname hmore =>
      simp only [List.forall_mem_cons]
      exact ⟨by simp [Token.Usable, hname], hmore.usable⟩

theorem Layer.usable_of_binary? {layer : Layer} {sign : Token} {operator : BinaryOp}
    (h : layer.binary? sign.kind = some operator) : sign.Usable := by
  unfold Token.Usable
  cases layer <;> cases hkind : sign.kind <;> simp_all [Layer.binary?]

theorem UnaryOp.usable_of_ofKind? {sign : Token} {operator : UnaryOp}
    (h : UnaryOp.ofKind? sign.kind = some operator) : sign.Usable := by
  unfold Token.Usable
  cases hkind : sign.kind <;> simp_all [UnaryOp.ofKind?]

/-- Phrases hold no end marker, no foreign character and no integer that is too large. -/
theorem Derives.usable {punctuation : Punctuation} {ts : List Token} {phrase : Phrase}
    (h : Derives punctuation ts phrase) : ∀ t ∈ ts, t.Usable := by
  induction h with
  | operand _ _ ih | expression _ ih => exact ih
  | binary _ _ hsign _ ihleft ihright =>
      simp only [List.forall_mem_append, List.forall_mem_cons]
      exact ⟨ihleft, Layer.usable_of_binary? hsign, ihright⟩
  | unary hsign _ ih =>
      simp only [List.forall_mem_cons]
      exact ⟨UnaryOp.usable_of_ofKind? hsign, ih⟩
  | call _ hopening _ hclosing ihfunction iharguments =>
      simp only [List.forall_mem_append, List.forall_mem_cons]
      exact ⟨ihfunction, by simp [Token.Usable, hopening], iharguments,
        by simp [Token.Usable, hclosing], by simp⟩
  | identifier htoken | true htoken | false htoken | noResult htoken =>
      simp [Token.Usable, htoken]
  | integer htoken hvalue =>
      simp only [List.forall_mem_singleton]
      exact ⟨by simp [htoken], by simp [htoken], fun _ => hvalue⟩
  | group hopening _ hclosing ih | block hopening _ hclosing ih =>
      simp only [List.forall_mem_append, List.forall_mem_cons]
      exact ⟨by simp [Token.Usable, hopening], ih, by simp [Token.Usable, hclosing], by simp⟩
  | conditional htoken hopening _ hclosing _ _ ihcondition ihconsequence ihalternative =>
      simp only [List.forall_mem_append, List.forall_mem_cons]
      exact ⟨by simp [Token.Usable, htoken], by simp [Token.Usable, hopening], ihcondition,
        by simp [Token.Usable, hclosing], ihconsequence, ihalternative⟩
  | function htoken hopening hnames hclosing _ ih =>
      simp only [List.forall_mem_append, List.forall_mem_cons]
      exact ⟨by simp [Token.Usable, htoken], by simp [Token.Usable, hopening], hnames.usable,
        by simp [Token.Usable, hclosing], ih⟩
  | noArguments | noMoreArguments | noAlternative | nil => simp
  | someArguments _ _ ihexpr ihmore | cons _ _ _ ihexpr ihmore =>
      simp only [List.forall_mem_append]
      exact ⟨ihexpr, ihmore⟩
  | nextArgument hcomma _ _ ihexpr ihmore =>
      simp only [List.forall_mem_append, List.forall_mem_cons]
      exact ⟨by simp [Token.Usable, hcomma], ihexpr, ihmore⟩
  | alternative htoken _ ih | result htoken _ ih | empty htoken _ ih =>
      simp only [List.forall_mem_cons]
      exact ⟨by simp [Token.Usable, htoken], ih⟩
  | binding htoken hname hsign _ ih =>
      simp only [List.forall_mem_cons]
      exact ⟨by simp [Token.Usable, htoken], by simp [Token.Usable, hname],
        by simp [Token.Usable, hsign], ih⟩

/-! ### Brackets -/

inductive Bracket where
  | paren | brace
deriving DecidableEq, Repr

/-- The brackets that are open after a token, innermost first; a token that closes another bracket
than the innermost open one has no such list. -/
def TokenKind.brackets? (outer : List Bracket) : TokenKind → Option (List Bracket)
  | .leftParen => some (.paren :: outer)
  | .leftBrace => some (.brace :: outer)
  | .rightParen => if outer.head? = some .paren then some outer.tail else none
  | .rightBrace => if outer.head? = some .brace then some outer.tail else none
  | _ => some outer

/-- Every parenthesis and every brace has its partner, and pairs of them do not overlap. -/
def Balanced (ts : List Token) : Prop :=
  ts.foldlM (fun outer t => t.kind.brackets? outer) [] = some []

instance (ts : List Token) : Decidable (Balanced ts) :=
  inferInstanceAs (Decidable (_ = _))

/-- A stretch of tokens that leaves the open brackets as they are. -/
def Neutral (ts : List Token) : Prop :=
  ∀ outer, ts.foldlM (fun outer t => t.kind.brackets? outer) outer = some outer

namespace Neutral

variable {t : Token} {ts us : List Token}

theorem nil : Neutral [] := fun _ => rfl

theorem append (hts : Neutral ts) (hus : Neutral us) : Neutral (ts ++ us) := by
  intro outer
  rw [List.foldlM_append, hts outer]
  exact hus outer

theorem cons (ht : ∀ outer, t.kind.brackets? outer = some outer) (hts : Neutral ts) :
    Neutral (t :: ts) := by
  intro outer
  rw [List.foldlM_cons, ht outer]
  exact hts outer

theorem enclosed {opening closing : Token} {bracket : Bracket}
    (hopening : ∀ outer, opening.kind.brackets? outer = some (bracket :: outer))
    (hclosing : ∀ outer, closing.kind.brackets? (bracket :: outer) = some outer)
    (hts : Neutral ts) (hus : Neutral us) : Neutral (opening :: (ts ++ closing :: us)) := by
  intro outer
  rw [List.foldlM_cons, hopening, Option.bind_eq_bind, Option.bind_some, List.foldlM_append,
    hts, Option.bind_eq_bind, Option.bind_some, List.foldlM_cons, hclosing]
  exact hus outer

theorem parens {opening closing : Token} (hopening : opening.kind = .leftParen)
    (hclosing : closing.kind = .rightParen) (hts : Neutral ts) (hus : Neutral us) :
    Neutral (opening :: (ts ++ closing :: us)) :=
  enclosed (fun _ => by rw [hopening]; rfl) (fun _ => by rw [hclosing]; rfl) hts hus

theorem braces {opening closing : Token} (hopening : opening.kind = .leftBrace)
    (hclosing : closing.kind = .rightBrace) (hts : Neutral ts) (hus : Neutral us) :
    Neutral (opening :: (ts ++ closing :: us)) :=
  enclosed (fun _ => by rw [hopening]; rfl) (fun _ => by rw [hclosing]; rfl) hts hus

end Neutral

theorem MoreParameters.neutral {ts : List Token} {names : List Identifier}
    (h : MoreParameters ts names) : Neutral ts := by
  induction h with
  | nil => exact .nil
  | cons hcomma hname _ ih =>
      exact .cons (fun _ => by rw [hcomma]; rfl) (.cons (fun _ => by rw [hname]; rfl) ih)

theorem Parameters.neutral {ts : List Token} {names : List Identifier} (h : Parameters ts names) :
    Neutral ts := by
  cases h with
  | none => exact .nil
  | some hname hmore => exact .cons (fun _ => by rw [hname]; rfl) hmore.neutral

theorem Layer.brackets?_of_binary? {layer : Layer} {kind : TokenKind} {operator : BinaryOp}
    (h : layer.binary? kind = some operator) (outer : List Bracket) :
    kind.brackets? outer = some outer := by
  cases layer <;> cases kind <;> simp_all [Layer.binary?, TokenKind.brackets?]

theorem UnaryOp.brackets?_of_ofKind? {kind : TokenKind} {operator : UnaryOp}
    (h : UnaryOp.ofKind? kind = some operator) (outer : List Bracket) :
    kind.brackets? outer = some outer := by
  cases kind <;> simp_all [UnaryOp.ofKind?, TokenKind.brackets?]

/-- A phrase closes exactly the brackets that it opens. -/
theorem Derives.neutral {punctuation : Punctuation} {ts : List Token} {phrase : Phrase}
    (h : Derives punctuation ts phrase) : Neutral ts := by
  induction h with
  | operand _ _ ih | expression _ ih => exact ih
  | binary _ _ hsign _ ihleft ihright =>
      exact ihleft.append (.cons (Layer.brackets?_of_binary? hsign) ihright)
  | unary hsign _ ih => exact .cons (UnaryOp.brackets?_of_ofKind? hsign) ih
  | call _ hopening _ hclosing ihfunction iharguments =>
      exact ihfunction.append (.parens hopening hclosing iharguments .nil)
  | identifier htoken | integer htoken _ | true htoken | false htoken | noResult htoken =>
      exact .cons (fun _ => by rw [htoken]; rfl) .nil
  | group hopening _ hclosing ih => exact .parens hopening hclosing ih .nil
  | block hopening _ hclosing ih => exact .braces hopening hclosing ih .nil
  | conditional htoken hopening _ hclosing _ _ ihcondition ihconsequence ihalternative =>
      have hrest := ihconsequence.append ihalternative
      exact .cons (fun _ => by rw [htoken]; rfl) (.parens hopening hclosing ihcondition hrest)
  | function htoken hopening hnames hclosing _ ih =>
      exact .cons (fun _ => by rw [htoken]; rfl) (.parens hopening hclosing hnames.neutral ih)
  | noArguments | noMoreArguments | noAlternative | nil => exact .nil
  | someArguments _ _ ihexpr ihmore | cons _ _ _ ihexpr ihmore => exact ihexpr.append ihmore
  | nextArgument hcomma _ _ ihexpr ihmore =>
      exact .cons (fun _ => by rw [hcomma]; rfl) (ihexpr.append ihmore)
  | alternative htoken _ ih | result htoken _ ih | empty htoken _ ih =>
      exact .cons (fun _ => by rw [htoken]; rfl) ih
  | binding htoken hname hsign _ ih =>
      exact .cons (fun _ => by rw [htoken]; rfl)
        (.cons (fun _ => by rw [hname]; rfl) (.cons (fun _ => by rw [hsign]; rfl) ih))

end MonkeySyntax
