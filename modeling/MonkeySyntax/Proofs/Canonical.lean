import MonkeySyntax.Proofs.Completeness
import MonkeySyntax.Proofs.Provenance
import MonkeySyntax.Proofs.Relocation

/-!
# Canonical text is read back

The text of a program is written from its tree with a parenthesis for every operator. Where the tree
has neither conditionals nor functions, whose braces the text leaves out, and only the last
statement is an expression, which is written without a semicolon, the text is a source of the same
program.

The text is followed from the tree to the pieces it is written in (`Writes`): these keep apart, so
the lexer reads them as they are, and tokens that say the same derive the tree, up to places.
-/

namespace MonkeySyntax

/-! ### Programs without blocks -/

mutual

/-- The expression has no conditional and no function in it. -/
def Expr.isPlain : Expr → Bool
  | .identifier _ | .integer _ _ | .boolean _ _ => true
  | .unary _ _ right => right.isPlain
  | .binary _ left _ right => left.isPlain && right.isPlain
  | .conditional _ _ _ _ | .function _ _ _ => false
  | .call _ function arguments => function.isPlain && exprsPlain arguments

def exprsPlain : List Expr → Bool
  | [] => true
  | expr :: rest => expr.isPlain && exprsPlain rest

end

def Statement.isPlain : Statement → Bool
  | .binding _ _ value => value.isPlain
  | .result _ none => true
  | .result _ (some value) => value.isPlain
  | .expression _ expr => expr.isPlain

def Statement.isExpression : Statement → Bool
  | .expression _ _ => true
  | _ => false

/-! ### Trees without places -/

def Span.erased (_ : Span) : Span := .zero

/-- The statement without its places, and without the token that an expression begins with. -/
def Statement.erased : Statement → Statement
  | .expression _ expr => .expression default (expr.relocate Span.erased)
  | statement => statement.relocate Span.erased

def Program.erased (program : Program) : Program := ⟨program.statements.map Statement.erased⟩

theorem Token.relocate_erased_iff {a b : Token} :
    a.relocate Span.erased = b.relocate Span.erased ↔ a.content = b.content := by
  simp [relocate, content, Span.erased]

theorem Statement.text_erased (statement : Statement) :
    statement.erased.text = statement.text := by
  unfold erased
  split
  · exact Expr.text_relocate Span.erased _
  · exact Statement.text_relocate Span.erased _

theorem Program.text_erased (program : Program) : program.erased.text = program.text := by
  have hstatements : ∀ statements : List Statement,
      statementsText (statements.map Statement.erased) = statementsText statements := by
    intro statements
    induction statements with
    | nil => rfl
    | cons statement rest ih =>
        rw [List.map_cons, statementsText, statement.text_erased, ih, statementsText]
  exact hstatements program.statements

/-! ### Pieces that keep apart -/

/-- Kinds of tokens that keep apart from whatever stands next to them. -/
def TokenKind.isMark : TokenKind → Bool
  | leftParen | rightParen | comma | semicolon => true
  | _ => false

theorem TokenKind.not_fuses_of_isMark {a b : TokenKind} (h : a.isMark = true ∨ b.isMark = true) :
    ¬a.Fuses b := by
  rcases h with h | h
  · cases a <;> simp_all [isMark, Fuses, isWord, isKeyword]
  · cases b <;> simp_all [isMark, Fuses, isWord, isKeyword]

/-- A piece that may stand behind any other. -/
def Piece.Detached (piece : Piece) : Prop := piece.gap.text ≠ "" ∨ piece.kind.isMark = true

theorem Piece.Detached.mayPrecede {b : Piece} (h : b.Detached) (a : Piece) : a.MayPrecede b := by
  intro hgap
  exact TokenKind.not_fuses_of_isMark (.inr (h.resolve_left (not_not_intro hgap)))

theorem isChain_append_of_detached {before rest : List Piece}
    (hbefore : before.IsChain Piece.MayPrecede) (hrest : rest.IsChain Piece.MayPrecede)
    (hdetached : ∀ piece ∈ rest.head?, piece.Detached) :
    (before ++ rest).IsChain Piece.MayPrecede :=
  hbefore.append hrest fun a _ b hb => (hdetached b hb).mayPrecede a

theorem isChain_cons_of_isMark {mark : Piece} {rest : List Piece} (hmark : mark.kind.isMark = true)
    (hrest : rest.IsChain Piece.MayPrecede) : (mark :: rest).IsChain Piece.MayPrecede :=
  hrest.cons fun _ _ _ => TokenKind.not_fuses_of_isMark (.inl hmark)

/-! ### Writing -/

/-- The tokens say what the pieces say. -/
def Says (ts : List Token) (pieces : List Piece) : Prop :=
  ts.map Token.content = pieces.map Piece.content

namespace Says

variable {ts : List Token} {piece : Piece} {pieces rest : List Piece}

theorem exists_cons (h : Says ts (piece :: rest)) :
    ∃ t us, ts = t :: us ∧ t.content = piece.content ∧ Says us rest := by
  obtain ⟨t, us, rfl, ht, hus⟩ := List.map_eq_cons_iff.mp h
  exact ⟨t, us, rfl, ht, hus⟩

theorem exists_append (h : Says ts (pieces ++ rest)) :
    ∃ us vs, ts = us ++ vs ∧ Says us pieces ∧ Says vs rest := by
  rw [Says, List.map_append] at h
  obtain ⟨us, vs, rfl, hus, hvs⟩ := List.map_eq_append_iff.mp h
  exact ⟨us, vs, rfl, hus, hvs⟩

theorem exists_singleton (h : Says ts [piece]) : ∃ t, ts = [t] ∧ t.content = piece.content :=
  List.map_eq_singleton_iff.mp h

end Says

/-- The text, behind the gap, is written in pieces that keep apart, and tokens that say the same as
the pieces can be read as asked. -/
structure Writes (gap : Gap) (text : String) (Reads : List Token → Prop) (pieces : List Piece) :
    Prop where
  text_eq : ∀ tail rest, written tail (pieces ++ rest) = gap.text ++ (text ++ written tail rest)
  chain : pieces.IsChain Piece.MayPrecede
  reads : ∀ ts, Says ts pieces → Reads ts

namespace Gap

def none : Gap := ⟨"", by simp⟩

def space : Gap := ⟨" ", by simp⟩

end Gap

theorem Writes.nil {Reads : List Token → Prop} (h : Reads []) : Writes .none "" Reads [] := by
  refine ⟨fun _ _ => rfl, .nil, ?_⟩
  intro ts hts
  obtain rfl := List.map_eq_nil_iff.mp hts
  exact h

namespace Piece

def ofToken (gap : Gap) {token : Token} {kind : TokenKind} (h : token.Spells kind) : Piece :=
  ⟨gap, kind, token.literal, h.lexical⟩

theorem content_ofToken (gap : Gap) {token : Token} {kind : TokenKind} (h : token.Spells kind) :
    (ofToken gap h).content = token.content := by
  rw [Token.content, h.kind_eq]
  rfl

def openParen (gap : Gap) : Piece := ⟨gap, .leftParen, "(", .fixed rfl⟩

def closeParen : Piece := ⟨.none, .rightParen, ")", .fixed rfl⟩

def comma : Piece := ⟨.none, .comma, ",", .fixed rfl⟩

def assign : Piece := ⟨.space, .assign, "=", .fixed rfl⟩

def semicolon : Piece := ⟨.none, .semicolon, ";", .fixed rfl⟩

@[simp]
theorem detached_closeParen : closeParen.Detached := .inr rfl

@[simp]
theorem detached_comma : comma.Detached := .inr rfl

@[simp]
theorem detached_semicolon : semicolon.Detached := .inr rfl

@[simp]
theorem detached_openParen (gap : Gap) : (openParen gap).Detached := .inr rfl

end Piece

/-- The tokens derive the expression, up to places. -/
def Expr.ReadFrom (expr : Expr) (ts : List Token) : Prop :=
  ∃ found, Derives .strict ts (.expression .call found) ∧
    found.relocate Span.erased = expr.relocate Span.erased

def ArgumentsReadFrom (exprs : List Expr) (ts : List Token) : Prop :=
  ∃ found, Derives .strict ts (.arguments found) ∧
    relocateExprs Span.erased found = relocateExprs Span.erased exprs

/-- The pieces begin behind the gap, and not with an equals sign. -/
def Begins (gap : Gap) (pieces : List Piece) : Prop :=
  ∃ first rest, pieces = first :: rest ∧ first.gap = gap ∧ first.kind ≠ .assign ∧
    first.kind ≠ .equal

def Expr.Writable (expr : Expr) : Prop :=
  ∀ gap, ∃ pieces, Writes gap expr.text expr.ReadFrom pieces ∧ Begins gap pieces

theorem Begins.head_append {gap : Gap} {pieces : List Piece} (h : Begins gap pieces)
    (rest : List Piece) : ∀ first ∈ (pieces ++ rest).head?,
      first.gap = gap ∧ first.kind ≠ .assign ∧ first.kind ≠ .equal := by
  obtain ⟨first, others, rfl, hfirst⟩ := h
  simpa using hfirst

theorem Begins.detached {pieces : List Piece} (h : Begins .space pieces) (rest : List Piece) :
    ∀ first ∈ (pieces ++ rest).head?, first.Detached := by
  intro first hmem
  obtain ⟨hgap, -⟩ := h.head_append rest first hmem
  refine .inl ?_
  rw [hgap]
  decide

theorem Begins.append {gap : Gap} {pieces : List Piece} (h : Begins gap pieces)
    (rest : List Piece) : Begins gap (pieces ++ rest) := by
  obtain ⟨first, others, rfl, hfirst⟩ := h
  exact ⟨first, others ++ rest, rfl, hfirst⟩

theorem begins_openParen (gap : Gap) (rest : List Piece) : Begins gap (.openParen gap :: rest) :=
  ⟨_, rest, rfl, rfl, nofun, nofun⟩

theorem UnaryOp.not_fuses_of_ofKind? {kind other : TokenKind} {operator : UnaryOp}
    (h : UnaryOp.ofKind? kind = some operator) (hassign : other ≠ .assign)
    (hequal : other ≠ .equal) : ¬kind.Fuses other := by
  cases kind <;> simp_all [UnaryOp.ofKind?, TokenKind.Fuses, TokenKind.isWord, TokenKind.isKeyword]

/-- An expression that is a token and nothing else. -/
theorem Expr.Writable.of_token {expr : Expr} {token : Token} {kind : TokenKind}
    (h : token.Spells kind) (hassign : kind ≠ .assign) (hequal : kind ≠ .equal)
    (htext : expr.text = token.literal)
    (hreads : ∀ t : Token, t.content = token.content → expr.ReadFrom [t]) : expr.Writable := by
  intro gap
  refine ⟨[.ofToken gap h], ⟨?_, .singleton _, ?_⟩, _, [], rfl, rfl, hassign, hequal⟩
  · intro tail rest
    simp [written, Piece.ofToken, htext]
  · intro ts hts
    obtain ⟨t, rfl, ht⟩ := hts.exists_singleton
    exact hreads t (ht.trans (Piece.content_ofToken gap h))

theorem Expr.Writable.identifier {name : Identifier} (h : name.Fits) :
    (Expr.identifier name).Writable := by
  obtain ⟨hspells, hvalue⟩ := h
  refine .of_token hspells (by decide) (by decide) hvalue ?_
  intro t ht
  have hkind : t.kind = .identifier := (congrArg Prod.fst ht).trans hspells.kind_eq
  have hliteral : t.literal = name.value := (congrArg Prod.snd ht).trans hvalue.symm
  refine ⟨_, .loosen (.identifier hkind) (by decide), ?_⟩
  simp only [Expr.relocate, Identifier.relocate, Identifier.ofToken, hliteral,
    Token.relocate_erased_iff.mpr ht]

theorem Expr.Writable.integer {token : Token} {value : Int64}
    (h : (Expr.integer token value).Fits) : (Expr.integer token value).Writable := by
  obtain ⟨hspells, hbound, rfl⟩ := h
  refine .of_token hspells (by decide) (by decide) rfl ?_
  intro t ht
  have hkind : t.kind = .integer := (congrArg Prod.fst ht).trans hspells.kind_eq
  have hliteral : t.literal = token.literal := congrArg Prod.snd ht
  refine ⟨_, .loosen (.integer hkind (by rwa [hliteral])) (by decide), ?_⟩
  simp only [Expr.relocate, hliteral, Token.relocate_erased_iff.mpr ht]

theorem Expr.Writable.boolean {token : Token} {value : Bool}
    (h : (Expr.boolean token value).Fits) : (Expr.boolean token value).Writable := by
  obtain ⟨hspells, rfl⟩ | ⟨hspells, rfl⟩ := h
  · refine .of_token hspells (by decide) (by decide) rfl fun t ht => ?_
    have hkind : t.kind = .kwTrue := (congrArg Prod.fst ht).trans hspells.kind_eq
    refine ⟨_, .loosen (.true hkind) (by decide), ?_⟩
    simp only [Expr.relocate, Token.relocate_erased_iff.mpr ht]
  · refine .of_token hspells (by decide) (by decide) rfl fun t ht => ?_
    have hkind : t.kind = .kwFalse := (congrArg Prod.fst ht).trans hspells.kind_eq
    refine ⟨_, .loosen (.false hkind) (by decide), ?_⟩
    simp only [Expr.relocate, Token.relocate_erased_iff.mpr ht]

theorem Expr.Writable.unary {token : Token} {operator : UnaryOp} {right : Expr}
    (hspells : token.Spells token.kind) (hsign : UnaryOp.ofKind? token.kind = some operator)
    (hright : right.Writable) : (Expr.unary token operator right).Writable := by
  intro gap
  obtain ⟨pieces, hpieces, hbegins⟩ := hright .none
  have hliteral : token.literal = operator.spelling :=
    hspells.literal_eq (UnaryOp.spelling?_of_ofKind? hsign)
  refine ⟨.openParen gap :: .ofToken .none hspells :: (pieces ++ [.closeParen]), ⟨?_, ?_, ?_⟩,
    begins_openParen gap _⟩
  · intro tail rest
    simp [written, hpieces.text_eq, Expr.text, Piece.openParen, Piece.ofToken, Piece.closeParen,
      Gap.none, hliteral, String.append_assoc]
  · refine isChain_cons_of_isMark rfl (.cons ?_ ?_)
    · exact isChain_append_of_detached hpieces.chain (.singleton _) (by simp)
    · intro first hfirst _
      obtain ⟨-, hassign, hequal⟩ := hbegins.head_append _ first hfirst
      exact UnaryOp.not_fuses_of_ofKind? hsign hassign hequal
  · intro ts hts
    obtain ⟨opening, us, rfl, hopening, hus⟩ := hts.exists_cons
    obtain ⟨sign, vs, rfl, hsignContent, hvs⟩ := hus.exists_cons
    obtain ⟨ws, xs, rfl, hws, hxs⟩ := hvs.exists_append
    obtain ⟨closing, rfl, hclosing⟩ := hxs.exists_singleton
    obtain ⟨found, hderives, hfound⟩ := hpieces.reads ws hws
    have hsame := hsignContent.trans (Piece.content_ofToken _ hspells)
    have hsign' : UnaryOp.ofKind? sign.kind = some operator := by
      rw [← hsign]
      exact congrArg UnaryOp.ofKind? (congrArg Prod.fst hsame)
    have hunary := Derives.unary hsign' (hderives.loosen (by decide))
    refine ⟨_, .loosen (.group (congrArg Prod.fst hopening) (hunary.loosen (by decide))
      (congrArg Prod.fst hclosing)) (by decide), ?_⟩
    simp only [Expr.relocate, hfound, Token.relocate_erased_iff.mpr hsame]

theorem BinaryOp.derives_of_ofKind? {sign : Token} {operator : BinaryOp} {ts us : List Token}
    {left right : Expr} (h : BinaryOp.ofKind? sign.kind = some operator)
    (hleft : Derives .strict ts (.expression .call left))
    (hright : Derives .strict us (.expression .call right)) :
    Derives .strict (ts ++ sign :: us)
      (.expression .equality (.binary sign left operator right)) := by
  obtain ⟨layer, operand, hoperand, hlayer⟩ :=
    Layer.exists_binary? (ContinueRule.ofKind?_eq_binary_iff.mpr h)
  obtain ⟨-, hrank, -⟩ := Layer.of_binary? hlayer
  have hoperandRank := Layer.rank_operand? hoperand
  have hcall : Layer.call.rank = 6 := rfl
  refine (Derives.binary hoperand (hleft.loosen ?_) hlayer (hright.loosen ?_)).loosen ?_
  · omega
  · omega
  · cases layer <;> decide

theorem Expr.Writable.binary {token : Token} {operator : BinaryOp} {left right : Expr}
    (hspells : token.Spells token.kind) (hsign : BinaryOp.ofKind? token.kind = some operator)
    (hleft : left.Writable) (hright : right.Writable) :
    (Expr.binary token left operator right).Writable := by
  intro gap
  obtain ⟨before, hbefore, -⟩ := hleft .none
  obtain ⟨behind, hbehind, hbegins⟩ := hright .space
  have hliteral : token.literal = operator.spelling :=
    hspells.literal_eq (BinaryOp.spelling?_of_ofKind? hsign)
  refine ⟨.openParen gap :: (before ++ .ofToken .space hspells :: (behind ++ [.closeParen])),
    ⟨?_, ?_, ?_⟩, begins_openParen gap _⟩
  · intro tail rest
    simp [written, hbefore.text_eq, hbehind.text_eq, Expr.text, Piece.openParen, Piece.ofToken,
      Piece.closeParen, Gap.none, Gap.space, hliteral, String.append_assoc]
  · refine isChain_cons_of_isMark rfl (isChain_append_of_detached hbefore.chain (.cons ?_ ?_) ?_)
    · exact isChain_append_of_detached hbehind.chain (.singleton _) (by simp)
    · intro first hfirst
      exact (hbegins.detached _ first hfirst).mayPrecede _
    · simp [Piece.ofToken, Piece.Detached, Gap.space]
  · intro ts hts
    obtain ⟨opening, us, rfl, hopening, hus⟩ := hts.exists_cons
    obtain ⟨vs, ws, rfl, hvs, hws⟩ := hus.exists_append
    obtain ⟨sign, xs, rfl, hsignContent, hxs⟩ := hws.exists_cons
    obtain ⟨ys, zs, rfl, hys, hzs⟩ := hxs.exists_append
    obtain ⟨closing, rfl, hclosing⟩ := hzs.exists_singleton
    obtain ⟨foundLeft, hderivesLeft, hfoundLeft⟩ := hbefore.reads vs hvs
    obtain ⟨foundRight, hderivesRight, hfoundRight⟩ := hbehind.reads ys hys
    have hsame := hsignContent.trans (Piece.content_ofToken _ hspells)
    have hsign' : BinaryOp.ofKind? sign.kind = some operator := by
      rw [← hsign]
      exact congrArg BinaryOp.ofKind? (congrArg Prod.fst hsame)
    have hbinary := BinaryOp.derives_of_ofKind? hsign' hderivesLeft hderivesRight
    have hgroup := Derives.group (congrArg Prod.fst hopening) hbinary (congrArg Prod.fst hclosing)
    rw [List.append_assoc, List.cons_append] at hgroup
    refine ⟨_, hgroup.loosen (by decide), ?_⟩
    simp only [Expr.relocate, hfoundLeft, hfoundRight, Token.relocate_erased_iff.mpr hsame]

/-- Arguments as they stand behind a comma. -/
theorem Derives.moreArguments {comma : Token} {ts : List Token} {expr : Expr} {exprs : List Expr}
    (hcomma : comma.kind = .comma) (h : Derives .strict ts (.arguments (expr :: exprs))) :
    Derives .strict (comma :: ts) (.moreArguments (expr :: exprs)) := by
  cases h with
  | someArguments hexpr hmore => exact .nextArgument hcomma hexpr hmore

theorem exists_writes_arguments {expr : Expr} {exprs : List Expr}
    (h : ∀ e ∈ expr :: exprs, e.Writable) (gap : Gap) :
    ∃ pieces, Writes gap (", ".intercalate (argumentTexts (expr :: exprs)))
      (ArgumentsReadFrom (expr :: exprs)) pieces := by
  induction exprs generalizing expr gap with
  | nil =>
      obtain ⟨pieces, hpieces, -⟩ := h expr List.mem_cons_self gap
      refine ⟨pieces, ?_, hpieces.chain, ?_⟩
      · simpa [argumentTexts] using hpieces.text_eq
      · intro ts hts
        obtain ⟨found, hderives, hfound⟩ := hpieces.reads ts hts
        have harguments := Derives.someArguments (hderives.loosen (by decide)) .noMoreArguments
        rw [List.append_nil] at harguments
        exact ⟨[found], harguments, by simp only [relocateExprs, hfound]⟩
  | cons next exprs ih =>
      obtain ⟨hexpr, hexprs⟩ := List.forall_mem_cons.mp h
      obtain ⟨before, hbefore, -⟩ := hexpr gap
      obtain ⟨behind, hbehind⟩ := ih hexprs .space
      refine ⟨before ++ .comma :: behind, ?_, ?_, ?_⟩
      · intro tail rest
        have hbehindText := hbehind.text_eq tail rest
        have hcomma : ∀ text : String, "," ++ (" " ++ text) = ", " ++ text :=
          fun text => String.append_assoc.symm
        simp only [argumentTexts] at hbehindText
        simp [written, hbefore.text_eq, hbehindText, argumentTexts, Piece.comma, Gap.none,
          Gap.space, hcomma, String.append_assoc]
      · exact isChain_append_of_detached hbefore.chain
          (isChain_cons_of_isMark rfl hbehind.chain) (by simp)
      · intro ts hts
        obtain ⟨us, vs, rfl, hus, hvs⟩ := hts.exists_append
        obtain ⟨comma, ws, rfl, hcomma, hws⟩ := hvs.exists_cons
        obtain ⟨found, hderives, hfound⟩ := hbefore.reads us hus
        obtain ⟨others, hderivesOthers, hothers⟩ := hbehind.reads ws hws
        obtain ⟨second, others, rfl⟩ : ∃ second rest, others = second :: rest := by
          cases others with
          | nil => simp [relocateExprs] at hothers
          | cons second rest => exact ⟨second, rest, rfl⟩
        refine ⟨found :: second :: others, .someArguments (hderives.loosen (by decide))
          (hderivesOthers.moreArguments (congrArg Prod.fst hcomma)), ?_⟩
        rw [relocateExprs, hothers, hfound, ← relocateExprs]

theorem Expr.Writable.call {token : Token} {function : Expr} {arguments : List Expr}
    (hspells : token.Spells .leftParen) (hfunction : function.Writable)
    (harguments : ∀ expr ∈ arguments, expr.Writable) :
    (Expr.call token function arguments).Writable := by
  intro gap
  obtain ⟨before, hbefore, hbegins⟩ := hfunction gap
  obtain ⟨between, hbetween⟩ : ∃ pieces, Writes .none (", ".intercalate (argumentTexts arguments))
      (ArgumentsReadFrom arguments) pieces := by
    cases arguments with
    | nil => exact ⟨[], .nil ⟨[], .noArguments, rfl⟩⟩
    | cons expr exprs => exact exists_writes_arguments harguments .none
  refine ⟨before ++ .ofToken .none hspells :: (between ++ [.closeParen]), ⟨?_, ?_, ?_⟩,
    hbegins.append _⟩
  · intro tail rest
    have hliteral : token.literal = "(" := hspells.literal_eq rfl
    simp [written, hbefore.text_eq, hbetween.text_eq, Expr.text, Piece.ofToken, Piece.closeParen,
      Gap.none, hliteral, String.append_assoc]
  · refine isChain_append_of_detached hbefore.chain (isChain_cons_of_isMark rfl ?_) ?_
    · exact isChain_append_of_detached hbetween.chain (.singleton _) (by simp)
    · simp [Piece.ofToken, Piece.Detached, TokenKind.isMark]
  · intro ts hts
    obtain ⟨us, vs, rfl, hus, hvs⟩ := hts.exists_append
    obtain ⟨opening, ws, rfl, hopening, hws⟩ := hvs.exists_cons
    obtain ⟨xs, ys, rfl, hxs, hys⟩ := hws.exists_append
    obtain ⟨closing, rfl, hclosing⟩ := hys.exists_singleton
    obtain ⟨found, hderives, hfound⟩ := hbefore.reads us hus
    obtain ⟨others, hderivesOthers, hothers⟩ := hbetween.reads xs hxs
    have hsame := hopening.trans (Piece.content_ofToken _ hspells)
    refine ⟨_, .call hderives (congrArg Prod.fst hopening) hderivesOthers
      (congrArg Prod.fst hclosing), ?_⟩
    simp only [Expr.relocate, hfound, hothers, Token.relocate_erased_iff.mpr hsame]

mutual

theorem Expr.writable : ∀ {expr : Expr}, expr.Fits → expr.isPlain = true → expr.Writable
  | .identifier _, hfits, _ => .identifier hfits
  | .integer _ _, hfits, _ => .integer hfits
  | .boolean _ _, hfits, _ => .boolean hfits
  | .unary _ _ right, ⟨hspells, hsign, hright⟩, hplain =>
    .unary hspells hsign (right.writable hright hplain)
  | .binary _ left _ right, ⟨hspells, hsign, hleft, hright⟩, hplain => by
    simp only [Expr.isPlain, Bool.and_eq_true] at hplain
    exact .binary hspells hsign (left.writable hleft hplain.1) (right.writable hright hplain.2)
  | .call _ function arguments, ⟨hspells, hfunction, harguments⟩, hplain => by
    simp only [Expr.isPlain, Bool.and_eq_true] at hplain
    exact .call hspells (function.writable hfunction hplain.1)
      (exprsWritable harguments hplain.2)

theorem exprsWritable : ∀ {exprs : List Expr}, ExprsFit exprs → exprsPlain exprs = true →
    ∀ expr ∈ exprs, expr.Writable
  | [], _, _ => nofun
  | expr :: rest, ⟨hexpr, hrest⟩, hplain => by
    simp only [exprsPlain, Bool.and_eq_true] at hplain
    exact List.forall_mem_cons.mpr
      ⟨expr.writable hexpr hplain.1, exprsWritable hrest hplain.2⟩

end

/-! ### Statements -/

def Statement.ReadFrom (statement : Statement) (ts : List Token) : Prop :=
  ∃ found, Derives .strict ts (.statement found) ∧ found.erased = statement.erased

def StatementsReadFrom (statements : List Statement) (ts : List Token) : Prop :=
  ∃ found, Derives .strict ts (.list found) ∧
    found.map Statement.erased = statements.map Statement.erased

theorem exists_writes_binding {token : Token} {name : Identifier} {value : Expr}
    (hspells : token.Spells .kwLet) (hname : name.Fits) (hvalue : value.Writable) :
    ∃ pieces, Writes .none (token.literal ++ " " ++ name.text ++ " = " ++ value.text)
      (Statement.binding token name value).ReadFrom pieces := by
  obtain ⟨pieces, hpieces, hbegins⟩ := hvalue .space
  obtain ⟨hnameSpells, hnameValue⟩ := hname
  refine ⟨.ofToken .none hspells :: .ofToken .space hnameSpells :: .assign :: pieces, ?_, ?_, ?_⟩
  · intro tail rest
    have hassign : ∀ text : String, " " ++ ("=" ++ (" " ++ text)) = " = " ++ text := by
      intro text
      rw [← String.append_assoc, ← String.append_assoc]
      rfl
    simp [written, hpieces.text_eq, Piece.ofToken, Piece.assign, Gap.none, Gap.space, hassign,
      Identifier.text, hnameValue, String.append_assoc]
  · refine .cons (.cons (.cons hpieces.chain ?_) ?_) ?_
    · intro first hfirst
      rw [← List.append_nil pieces] at hfirst
      exact (hbegins.detached _ first hfirst).mayPrecede _
    · simp [Piece.MayPrecede, Piece.assign, Gap.space]
    · simp [Piece.MayPrecede, Piece.ofToken, Gap.space]
  · intro ts hts
    obtain ⟨first, us, rfl, hfirst, hus⟩ := hts.exists_cons
    obtain ⟨second, vs, rfl, hsecond, hvs⟩ := hus.exists_cons
    obtain ⟨sign, ws, rfl, hsign, hws⟩ := hvs.exists_cons
    obtain ⟨found, hderives, hfound⟩ := hpieces.reads ws hws
    have hfirstSame := hfirst.trans (Piece.content_ofToken _ hspells)
    have hsecondSame := hsecond.trans (Piece.content_ofToken _ hnameSpells)
    have hsecondLiteral : second.literal = name.value :=
      (congrArg Prod.snd hsecondSame).trans hnameValue.symm
    refine ⟨_, .binding (congrArg Prod.fst hfirst) (congrArg Prod.fst hsecond)
      (congrArg Prod.fst hsign) (hderives.loosen (by decide)), ?_⟩
    simp only [Statement.erased, Statement.relocate, Identifier.relocate, Identifier.ofToken,
      hfound, hsecondLiteral, Token.relocate_erased_iff.mpr hfirstSame,
      Token.relocate_erased_iff.mpr hsecondSame]

theorem exists_writes_noResult {token : Token} (hspells : token.Spells .kwReturn) :
    ∃ pieces, Writes .none token.literal (Statement.result token none).ReadFrom pieces := by
  refine ⟨[.ofToken .none hspells], ?_, .singleton _, ?_⟩
  · intro tail rest
    simp [written, Piece.ofToken]
  · intro ts hts
    obtain ⟨first, rfl, hfirst⟩ := hts.exists_singleton
    have hsame := hfirst.trans (Piece.content_ofToken _ hspells)
    refine ⟨_, .noResult (congrArg Prod.fst hfirst), ?_⟩
    simp only [Statement.erased, Statement.relocate, Token.relocate_erased_iff.mpr hsame]

theorem exists_writes_result {token : Token} {value : Expr} (hspells : token.Spells .kwReturn)
    (hvalue : value.Writable) :
    ∃ pieces, Writes .none (token.literal ++ " " ++ value.text)
      (Statement.result token (some value)).ReadFrom pieces := by
  obtain ⟨pieces, hpieces, hbegins⟩ := hvalue .space
  refine ⟨.ofToken .none hspells :: pieces, ?_, ?_, ?_⟩
  · intro tail rest
    simp [written, hpieces.text_eq, Piece.ofToken, Gap.none, Gap.space, String.append_assoc]
  · refine .cons hpieces.chain ?_
    intro first hfirst
    rw [← List.append_nil pieces] at hfirst
    exact (hbegins.detached _ first hfirst).mayPrecede _
  · intro ts hts
    obtain ⟨first, us, rfl, hfirst, hus⟩ := hts.exists_cons
    obtain ⟨found, hderives, hfound⟩ := hpieces.reads us hus
    have hsame := hfirst.trans (Piece.content_ofToken _ hspells)
    refine ⟨_, .result (congrArg Prod.fst hfirst) (hderives.loosen (by decide)), ?_⟩
    simp only [Statement.erased, Statement.relocate, hfound, Token.relocate_erased_iff.mpr hsame]

/-- A statement that is no expression is written with a semicolon at its end. -/
theorem exists_writes_statement {statement : Statement} (hfits : statement.Fits)
    (hplain : statement.isPlain = true) (hexpression : statement.isExpression = false) :
    ∃ body pieces, statement.text = body ++ ";" ∧ Writes .none body statement.ReadFrom pieces := by
  match statement with
  | .binding token name value =>
      obtain ⟨hspells, hname, hvalue⟩ := hfits
      obtain ⟨pieces, hpieces⟩ := exists_writes_binding hspells hname (value.writable hvalue hplain)
      exact ⟨_, pieces, rfl, hpieces⟩
  | .result token none =>
      obtain ⟨pieces, hpieces⟩ := exists_writes_noResult hfits
      exact ⟨_, pieces, rfl, hpieces⟩
  | .result token (some value) =>
      obtain ⟨hspells, hvalue⟩ := hfits
      obtain ⟨pieces, hpieces⟩ := exists_writes_result hspells (value.writable hvalue hplain)
      exact ⟨_, pieces, rfl, hpieces⟩
  | .expression _ _ => cases hexpression

/-- An expression may be the last statement; it is written as it is. -/
theorem exists_writes_expression {statement : Statement} (hfits : statement.Fits)
    (hplain : statement.isPlain = true) (hexpression : statement.isExpression = true) :
    ∃ pieces,
      Writes .none (statementsText [statement]) (StatementsReadFrom [statement]) pieces := by
  cases statement with
  | binding | result => cases hexpression
  | expression token expr =>
      obtain ⟨pieces, hpieces, hbegins⟩ := expr.writable hfits hplain .none
      refine ⟨pieces, ?_, hpieces.chain, ?_⟩
      · simpa [statementsText, Statement.text] using hpieces.text_eq
      · intro ts hts
        obtain ⟨found, hderives, hfound⟩ := hpieces.reads ts hts
        obtain ⟨first, rest, rfl, -⟩ := hbegins
        obtain ⟨t, us, rfl, -⟩ := hts.exists_cons
        have hlist := Derives.cons (.expression (hderives.loosen (by decide)))
          (by simp [Punctuation.Allows]) .nil
        rw [List.append_nil] at hlist
        refine ⟨_, hlist, ?_⟩
        simp only [List.map_cons, List.map_nil, Statement.erased, hfound]

theorem exists_writes_statements {statements : List Statement}
    (hfits : ∀ statement ∈ statements, statement.Fits)
    (hplain : ∀ statement ∈ statements, statement.isPlain = true)
    (hlast : ∀ statement ∈ statements.dropLast, statement.isExpression = false) :
    ∃ pieces, Writes .none (statementsText statements) (StatementsReadFrom statements) pieces := by
  induction statements with
  | nil => exact ⟨[], .nil ⟨[], .nil, rfl⟩⟩
  | cons statement rest ih =>
      obtain ⟨hstatement, hrest⟩ := List.forall_mem_cons.mp hfits
      obtain ⟨hplainStatement, hplainRest⟩ := List.forall_mem_cons.mp hplain
      cases hexpression : statement.isExpression with
      | true =>
          have hnil : rest = [] := by
            by_contra hsome
            rw [List.dropLast_cons_of_ne_nil hsome] at hlast
            have hother := hlast statement List.mem_cons_self
            rw [hexpression] at hother
            cases hother
          subst hnil
          exact exists_writes_expression hstatement hplainStatement hexpression
      | false =>
          have hlastRest : ∀ statement ∈ rest.dropLast, statement.isExpression = false := by
            intro other hother
            have hsome : rest ≠ [] := by
              rintro rfl
              cases hother
            rw [List.dropLast_cons_of_ne_nil hsome] at hlast
            exact hlast other (List.mem_cons_of_mem _ hother)
          obtain ⟨body, before, htext, hbefore⟩ :=
            exists_writes_statement hstatement hplainStatement hexpression
          obtain ⟨behind, hbehind⟩ := ih hrest hplainRest hlastRest
          refine ⟨before ++ .semicolon :: behind, ?_, ?_, ?_⟩
          · intro tail others
            simp [written, hbefore.text_eq, hbehind.text_eq, Piece.semicolon, Gap.none,
              statementsText, htext, String.append_assoc]
          · exact isChain_append_of_detached hbefore.chain
              (isChain_cons_of_isMark rfl hbehind.chain) (by simp)
          · intro ts hts
            obtain ⟨us, vs, rfl, hus, hvs⟩ := hts.exists_append
            obtain ⟨sep, ws, rfl, hsep, hws⟩ := hvs.exists_cons
            obtain ⟨found, hderives, hfound⟩ := hbefore.reads us hus
            obtain ⟨others, hderivesOthers, hothers⟩ := hbehind.reads ws hws
            have hkind : sep.kind = .semicolon := congrArg Prod.fst hsep
            refine ⟨found :: others, .cons hderives ?_ (.empty hkind hderivesOthers), ?_⟩
            · simpa [Punctuation.Allows] using hkind
            · rw [List.map_cons, List.map_cons, hfound, hothers]

/-! ### Reading back -/

theorem ParseState.program_of_derives {s : ParseState} {ts : List Token} {last : Token}
    {statements : List Statement} (h : Derives .strict ts (.list statements))
    (hs : s.Sees ts last) (hroom : s.depth + ts.length ≤ s.maxDepth) :
    s.program.1 = ⟨statements⟩ ∧ s.program.2.faults = s.faults := by
  have hheadroom : s.depth + s.headroom = s.maxDepth := by
    unfold headroom
    omega
  obtain ⟨t, hrun, -, halike⟩ := (h.readBy (Inner.complete_level s.headroom) (by omega) s _ _
    hs.stream_eq hheadroom).2 hs.last_eof hs.length_le_remaining
  have hprogram : s.program = (⟨statements⟩, t) := by
    rw [program, inner, hrun]
  rw [hprogram]
  exact ⟨rfl, halike.faults⟩

/-- **Canonical text is read back.** Whatever faults a source has: if its program has no conditional
and no function, and no expression as a statement but perhaps the last, then the text of the program
is a source without faults of the same program, apart from places, and so of the same text. -/
theorem parse_text (maxDepth : Nat) (source : String) (limit : Nat)
    (hplain : ∀ statement ∈ (parse maxDepth source).program.statements, statement.isPlain = true)
    (hlast : ∀ statement ∈ (parse maxDepth source).program.statements.dropLast,
      statement.isExpression = false)
    (hlimit : (tokenize (parse maxDepth source).program.text).length ≤ limit) :
    (parse limit (parse maxDepth source).program.text).faults = [] ∧
      (parse limit (parse maxDepth source).program.text).program.erased
        = (parse maxDepth source).program.erased ∧
      (parse limit (parse maxDepth source).program.text).program.text
        = (parse maxDepth source).program.text := by
  obtain ⟨pieces, hpieces⟩ := exists_writes_statements (fits_parse maxDepth source) hplain hlast
  generalize (parse maxDepth source).program = program at *
  have htext : program.text = written .none pieces := by
    have h := hpieces.text_eq .none []
    rw [List.append_nil] at h
    simpa [written, Gap.none, Program.text] using h.symm
  obtain ⟨ts, htokens⟩ := exists_tokenize_eq program.text
  have hsays : Says ts pieces := by
    have hcontent : (tokenize program.text).map Token.content
        = pieces.map Piece.content ++ [(.eof, "")] := by
      rw [htext]
      exact (Lexer.content_tokens_written_iff .none pieces rfl).mpr hpieces.chain
    rw [htokens, List.map_append] at hcontent
    exact (List.append_inj' hcontent rfl).1
  obtain ⟨found, hderives, hfound⟩ := hpieces.reads ts hsays
  have hroom : 0 + ts.length ≤ limit := by
    rw [htokens, List.length_append] at hlimit
    omega
  obtain ⟨hprogram, hfaults⟩ :=
    ParseState.program_of_derives hderives (ParseState.start_sees htokens) hroom
  have herased : (parse limit program.text).program.erased = program.erased := by
    rw [Program.erased, Program.erased, ← hfound]
    exact congrArg _ (congrArg (List.map Statement.erased) (congrArg Program.statements hprogram))
  refine ⟨hfaults, herased, ?_⟩
  rw [← Program.text_erased, herased, Program.text_erased]

/-- The statement with a fault is left out of the text; the callee keeps its parentheses. -/
theorem parse_text_call_after_fault :
    (parse 9 "let 1; let x = -a(007) * !b; (x == 1)(2)").program.text
        = "let x = ((-a(007)) * (!b));(x == 1)(2)" ∧
      (parse 9 "let 1; let x = -a(007) * !b; (x == 1)(2)").faults ≠ [] ∧
      (parse 30 "let x = ((-a(007)) * (!b));(x == 1)(2)").faults = [] ∧
      (parse 30 "let x = ((-a(007)) * (!b));(x == 1)(2)").program.erased
        = (parse 9 "let 1; let x = -a(007) * !b; (x == 1)(2)").program.erased := by
  have htext : (parse 9 "let 1; let x = -a(007) * !b; (x == 1)(2)").program.text
      = "let x = ((-a(007)) * (!b));(x == 1)(2)" := by decide +kernel
  have h := parse_text 9 "let 1; let x = -a(007) * !b; (x == 1)(2)" 30 (by decide +kernel)
    (by decide +kernel) (by decide +kernel)
  rw [htext] at h
  exact ⟨htext, by decide +kernel, h.1, h.2.1⟩

end MonkeySyntax
