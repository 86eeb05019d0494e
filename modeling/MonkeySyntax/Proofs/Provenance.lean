import MonkeySyntax.Proofs.Lexemes
import MonkeySyntax.Proofs.Soundness

/-!
# Trees fit the tokens they are made of

A node of a tree holds a token, and says the rest of what it says in fields of its own: an operator,
a value, a name. The fields are what the token spells, also in trees that were built around faults.
Tokens come from the lexer alone, so they are spelled as their kind demands.
-/

namespace MonkeySyntax

open ParseM

/-- The token is one of the kind, spelled as the kind demands. -/
structure Token.Spells (token : Token) (kind : TokenKind) : Prop where
  kind_eq : token.kind = kind
  lexical : Lexical kind token.literal

theorem Token.Spells.literal_eq {token : Token} {kind : TokenKind} {literal : String}
    (h : token.Spells kind) (hspelling : kind.spelling? = some literal) :
    token.literal = literal := by
  have hlexical := h.lexical
  generalize token.literal = spelled at hlexical ⊢
  cases hlexical with
  | fixed hfixed => exact Option.some.inj (hfixed.symm.trans hspelling)
  | name | number | foreign => cases hspelling

/-- To ask for the kind of a token and to read its text as a number come to the same. -/
theorem Token.integer?_eq_decimal? {token : Token} (h : Lexical token.kind token.literal) :
    token.integer? = ((decimal? token.literal).filter (· ≤ maxInteger)).map .ofNat := by
  by_cases hkind : token.kind = .integer
  · have hdecimal : decimal? token.literal = some (decimalValue token.literal) := by
      rw [hkind] at h
      generalize token.literal = literal at h ⊢
      cases h with
      | fixed hspelling => cases hspelling
      | number hsome hdigit => exact decimal?_of_forall_isDigit hsome hdigit
    by_cases hle : decimalValue token.literal ≤ maxInteger <;>
      simp [integer?, Option.filter, hkind, hdecimal, hle]
  · have hdecimal : decimal? token.literal = none := by
      rw [Option.eq_none_iff_forall_ne_some]
      intro value hvalue
      obtain ⟨c, hmem, hdigit⟩ := exists_isDigit_of_decimal? hvalue
      exact hkind ((Lexeme.Shape.of_lexical h).eq_integer_of_mem hmem hdigit)
    simp [integer?, hkind, hdecimal]

def Identifier.Fits (name : Identifier) : Prop :=
  name.token.Spells .identifier ∧ name.value = name.token.literal

mutual

/-- What the nodes of an expression say is what their tokens spell. -/
def Expr.Fits : Expr → Prop
  | .identifier name => name.Fits
  | .integer token value => token.Spells .integer ∧ decimalValue token.literal < 2 ^ 63 ∧
      value = .ofNat (decimalValue token.literal)
  | .boolean token value =>
    token.Spells .kwTrue ∧ value = true ∨ token.Spells .kwFalse ∧ value = false
  | .unary token operator right =>
    token.Spells token.kind ∧ UnaryOp.ofKind? token.kind = some operator ∧ right.Fits
  | .binary token left operator right =>
    token.Spells token.kind ∧ BinaryOp.ofKind? token.kind = some operator ∧ left.Fits ∧ right.Fits
  | .conditional token condition consequence none =>
    token.Spells .kwIf ∧ condition.Fits ∧ consequence.Fits
  | .conditional token condition consequence (some alternative) =>
    token.Spells .kwIf ∧ condition.Fits ∧ consequence.Fits ∧ alternative.Fits
  | .function token parameters body =>
    token.Spells .kwFn ∧ (∀ name ∈ parameters, name.Fits) ∧ body.Fits
  | .call token function arguments =>
    token.Spells .leftParen ∧ function.Fits ∧ ExprsFit arguments

def ExprsFit : List Expr → Prop
  | [] => True
  | expr :: rest => expr.Fits ∧ ExprsFit rest

def Statement.Fits : Statement → Prop
  | .binding token name value => token.Spells .kwLet ∧ name.Fits ∧ value.Fits
  | .result token none => token.Spells .kwReturn
  | .result token (some value) => token.Spells .kwReturn ∧ value.Fits
  | .expression _ expression => expression.Fits

def Block.Fits : Block → Prop
  | .mk token statements => token.Spells .leftBrace ∧ StatementsFit statements

def StatementsFit : List Statement → Prop
  | [] => True
  | statement :: rest => statement.Fits ∧ StatementsFit rest

end

theorem exprsFit_iff {exprs : List Expr} : ExprsFit exprs ↔ ∀ expr ∈ exprs, expr.Fits := by
  induction exprs with
  | nil => simp [ExprsFit]
  | cons expr rest ih => simp [ExprsFit, ih]

theorem statementsFit_iff {statements : List Statement} :
    StatementsFit statements ↔ ∀ statement ∈ statements, statement.Fits := by
  induction statements with
  | nil => simp [StatementsFit]
  | cons statement rest ih => simp [StatementsFit, ih]

/-! ### The tokens ahead -/

/-- The tokens ahead, up to the end marker, are spelled as their kinds demand. -/
def ParseState.Lexical (s : ParseState) : Prop :=
  ∀ n, (s.stream.get n).kind ≠ .eof → (s.stream.get n).Spells (s.stream.get n).kind

theorem Lexer.spells_of_stream (lexer : Lexer) (n : Nat) (h : (lexer.stream.get n).kind ≠ .eof) :
    (lexer.stream.get n).Spells (lexer.stream.get n).kind := by
  induction n generalizing lexer with
  | zero =>
      rw [stream_eq_cons] at h ⊢
      exact ⟨rfl, (lexer.lexical_next).resolve_left h⟩
  | succ n ih =>
      rw [stream_eq_cons] at h ⊢
      exact ih lexer.next.2 h

namespace ParseState.Lexical

variable {s : ParseState} {kind : TokenKind}

theorem start (maxDepth : Nat) (source : String) : (ParseState.start maxDepth source).Lexical := by
  intro n hreal
  rw [ParseState.stream_start] at hreal ⊢
  exact Lexer.spells_of_stream _ n hreal

theorem advance (h : s.Lexical) : s.advance.Lexical := by
  intro n hreal
  rw [s.stream_advance] at hreal ⊢
  exact h (n + 1) hreal

theorem current (h : s.Lexical) (hkind : s.current.kind = kind) (hreal : kind ≠ .eof) :
    s.current.Spells kind := by
  subst hkind
  exact h 0 hreal

end ParseState.Lexical

theorem Passage.lexical : Passage fun s t => s.Lexical → t.Lexical where
  refl _ := id
  trans hst htu hs := htu (hst hs)
  advance _ := ParseState.Lexical.advance
  record _ _ := id
  nested _ h := h

/-! ### Readers -/

/-- What is read of tokens that are spelled well fits. -/
structure Inner.Fits (inner : Inner) : Prop where
  keeps : inner.Keeps fun s t => s.Lexical → t.Lexical
  expression : ∀ {least s t expr}, ParseState.Lexical s → inner.expression least s = .ok expr t →
    expr.Fits
  block : ∀ {s t block}, ParseState.Lexical s → s.current.kind = .leftBrace →
    inner.block s = .ok block t → block.Fits

section Readers

variable {inner : Inner} {s t : ParseState}

theorem fits_unaryRest (hinner : inner.Fits) {operator : UnaryOp} {expr : Expr} (hs : s.Lexical)
    (hsign : UnaryOp.ofKind? s.current.kind = some operator)
    (hrun : unaryRest inner operator s = .ok expr t) : expr.Fits := by
  obtain ⟨_, _, hcurrent, hrun⟩ := bind_eq_ok_iff.mp hrun
  cases hcurrent
  obtain ⟨_, _, hadvance, hrun⟩ := bind_eq_ok_iff.mp hrun
  cases hadvance
  obtain ⟨right, t₁, hright, hpure⟩ := bind_eq_ok_iff.mp hrun
  cases hpure
  have hreal : s.current.kind ≠ .eof := by
    intro heof
    rw [heof] at hsign
    cases hsign
  exact ⟨hs.current rfl hreal, hsign, hinner.expression hs.advance hright⟩

theorem fits_groupRest (hinner : inner.Fits) {expr : Expr} (hs : s.Lexical)
    (hrun : groupRest inner s = .ok expr t) : expr.Fits := by
  obtain ⟨_, _, hadvance, hrun⟩ := bind_eq_ok_iff.mp hrun
  cases hadvance
  obtain ⟨found, t₁, hexpr, hrun⟩ := bind_eq_ok_iff.mp hrun
  obtain ⟨_, t₂, hclosing, hpure⟩ := bind_eq_ok_iff.mp hrun
  cases hpure
  exact hinner.expression hs.advance hexpr

theorem fits_braced (hinner : inner.Fits) {block : Block} (hs : s.Lexical)
    (hrun : braced inner s = .ok block t) : block.Fits := by
  obtain ⟨_, t₁, hopening, hblock⟩ := bind_eq_ok_iff.mp hrun
  obtain ⟨hkind, rfl⟩ := expectPeek_eq_ok_iff.mp hopening
  exact hinner.block hs.advance hkind hblock

theorem fits_elseBranch (hinner : inner.Fits) {alternative : Option Block} (hs : s.Lexical)
    (hrun : elseBranch inner s = .ok alternative t) : ∀ block ∈ alternative, block.Fits := by
  by_cases hkind : s.peek.kind = .kwElse
  · rw [elseBranch_of_else hkind] at hrun
    obtain ⟨block, hbraced, rfl⟩ := map_eq_ok_iff.mp hrun
    simpa using fits_braced hinner hs.advance hbraced
  · rw [elseBranch_of_else_ne hkind] at hrun
    cases hrun
    simp

theorem fits_conditionalRest (hinner : inner.Fits) {expr : Expr} (hs : s.Lexical)
    (hkind : s.current.kind = .kwIf) (hrun : conditionalRest inner s = .ok expr t) :
    expr.Fits := by
  obtain ⟨_, _, hcurrent, hrun⟩ := bind_eq_ok_iff.mp hrun
  cases hcurrent
  obtain ⟨_, t₁, hopening, hrun⟩ := bind_eq_ok_iff.mp hrun
  obtain ⟨-, rfl⟩ := expectPeek_eq_ok_iff.mp hopening
  obtain ⟨condition, t₂, hcondition, hrun⟩ := bind_eq_ok_iff.mp hrun
  obtain ⟨consequence, t₃, hconsequence, hrun⟩ := bind_eq_ok_iff.mp hrun
  obtain ⟨alternative, t₄, halternative, hpure⟩ := bind_eq_ok_iff.mp hrun
  cases hpure
  have ht₂ := (Passage.lexical.groupRest hinner.keeps).of_ok hcondition hs.advance
  have ht₃ := (Passage.lexical.braced hinner.keeps).of_ok hconsequence ht₂
  have hrest := fits_elseBranch hinner ht₃ halternative
  have htoken := hs.current hkind (by decide)
  have hfirst := fits_groupRest hinner hs.advance hcondition
  have hsecond := fits_braced hinner ht₂ hconsequence
  cases alternative with
  | none => exact ⟨htoken, hfirst, hsecond⟩
  | some block => exact ⟨htoken, hfirst, hsecond, hrest block rfl⟩

section Enumerations

variable {α : Type} {item : ParseM α} {more : Nat → ParseM (List α)} {items : ParseM (List α)}
  {P : α → Prop}

theorem forall_mem_of_more (henum : Enumeration item more items)
    (hkeeps : item.Keeps fun s t => s.Lexical → t.Lexical)
    (hitem : ∀ {s t a}, ParseState.Lexical s → item s = .ok a t → P a) {found : List α}
    {steps : Nat} (hs : s.Lexical) (hrun : more steps s = .ok found t) : ∀ a ∈ found, P a := by
  induction steps generalizing s found with
  | zero =>
      rw [henum.more_zero] at hrun
      cases hrun
      simp
  | succ steps ih =>
      by_cases hkind : s.peek.kind = .comma
      · rw [henum.more_of_comma hkind] at hrun
        obtain ⟨first, t₁, hfirst, hrun⟩ := bind_eq_ok_iff.mp hrun
        obtain ⟨others, t₂, hothers, hpure⟩ := bind_eq_ok_iff.mp hrun
        cases hpure
        have ht₁ := hkeeps.of_ok hfirst hs.advance
        exact List.forall_mem_cons.mpr ⟨hitem hs.advance hfirst, ih ht₁ hothers⟩
      · rw [henum.more_of_comma_ne hkind] at hrun
        cases hrun
        simp

theorem forall_mem_of_items (henum : Enumeration item more items)
    (hkeeps : item.Keeps fun s t => s.Lexical → t.Lexical)
    (hitem : ∀ {s t a}, ParseState.Lexical s → item s = .ok a t → P a) {found : List α}
    (hs : s.Lexical) (hrun : items s = .ok found t) : ∀ a ∈ found, P a := by
  by_cases hkind : s.peek.kind = .rightParen
  · rw [henum.items_of_paren hkind] at hrun
    cases hrun
    simp
  · rw [henum.items_of_paren_ne hkind] at hrun
    obtain ⟨first, t₁, hfirst, hrun⟩ := bind_eq_ok_iff.mp hrun
    obtain ⟨_, _, hget, hrun⟩ := bind_eq_ok_iff.mp hrun
    cases hget
    obtain ⟨others, t₂, hothers, hrun⟩ := bind_eq_ok_iff.mp hrun
    obtain ⟨_, t₃, hclosing, hpure⟩ := bind_eq_ok_iff.mp hrun
    cases hpure
    have hrest := forall_mem_of_more henum hkeeps hitem (hkeeps.of_ok hfirst hs) hothers
    exact List.forall_mem_cons.mpr ⟨hitem hs hfirst, hrest⟩

end Enumerations

theorem fits_parameter {name : Identifier} (hs : s.Lexical) (hrun : parameter s = .ok name t) :
    name.Fits := by
  obtain ⟨_, t₁, hpeek, hrun⟩ := bind_eq_ok_iff.mp hrun
  obtain ⟨hkind, rfl⟩ := expectPeek_eq_ok_iff.mp hpeek
  cases hrun
  exact ⟨hs.advance.current hkind (by decide), rfl⟩

theorem fits_argument (hinner : inner.Fits) {expr : Expr} (hs : s.Lexical)
    (hrun : argument inner s = .ok expr t) : expr.Fits := by
  obtain ⟨_, _, hadvance, hrun⟩ := bind_eq_ok_iff.mp hrun
  cases hadvance
  exact hinner.expression hs.advance hrun

theorem fits_functionRest (hinner : inner.Fits) {expr : Expr} (hs : s.Lexical)
    (hkind : s.current.kind = .kwFn) (hrun : functionRest inner s = .ok expr t) : expr.Fits := by
  obtain ⟨_, _, hcurrent, hrun⟩ := bind_eq_ok_iff.mp hrun
  cases hcurrent
  obtain ⟨_, t₁, hopening, hrun⟩ := bind_eq_ok_iff.mp hrun
  obtain ⟨-, rfl⟩ := expectPeek_eq_ok_iff.mp hopening
  obtain ⟨names, t₂, hnames, hrun⟩ := bind_eq_ok_iff.mp hrun
  obtain ⟨body, t₃, hbody, hpure⟩ := bind_eq_ok_iff.mp hrun
  cases hpure
  have hkeeps := Passage.lexical.parameter
  have ht₂ := (Passage.lexical.items enumeration_parameters hkeeps).of_ok hnames hs.advance
  refine ⟨hs.current hkind (by decide), ?_, fits_braced hinner ht₂ hbody⟩
  exact forall_mem_of_items enumeration_parameters hkeeps fits_parameter hs.advance hnames

theorem fits_integerLiteral {expr : Expr} (hs : s.Lexical)
    (hrun : integerLiteral s = .ok expr t) : expr.Fits := by
  obtain ⟨hkind, hvalue, rfl, rfl⟩ := of_integerLiteral_eq_ok hrun
  exact ⟨hs.current hkind (by decide), Nat.lt_of_le_pred (by decide) hvalue, rfl⟩

theorem fits_start (hinner : inner.Fits) {expr : Expr} (hs : s.Lexical)
    (hrun : ParseM.start inner s = .ok expr t) : expr.Fits := by
  cases hrule : StartRule.ofKind? s.current.kind with
  | none =>
      rw [start_of_none hrule] at hrun
      cases hrun
  | some rule =>
      rw [start_of_rule hrule] at hrun
      cases hkind : s.current.kind <;>
        simp [hkind, StartRule.ofKind?] at hrule <;> subst hrule
      case identifier =>
        cases hrun
        exact ⟨hs.current hkind (by decide), rfl⟩
      case integer => exact fits_integerLiteral hs hrun
      case kwTrue =>
        cases hrun
        exact .inl ⟨hs.current hkind (by decide), by simp [hkind]⟩
      case kwFalse =>
        cases hrun
        exact .inr ⟨hs.current hkind (by decide), by simp [hkind]⟩
      case bang => exact fits_unaryRest hinner hs (by rw [hkind]; rfl) hrun
      case minus => exact fits_unaryRest hinner hs (by rw [hkind]; rfl) hrun
      case leftParen => exact fits_groupRest hinner hs hrun
      case kwIf => exact fits_conditionalRest hinner hs hkind hrun
      case kwFn => exact fits_functionRest hinner hs hkind hrun

theorem fits_continueRule (hinner : inner.Fits) {left expr : Expr} {rule : ContinueRule}
    (hleft : left.Fits) (hs : s.Lexical) (hrule : ContinueRule.ofKind? s.current.kind = some rule)
    (hrun : rule.parse inner left s = .ok expr t) : expr.Fits := by
  cases rule with
  | binary operator =>
      obtain ⟨_, _, hcurrent, hrun⟩ := bind_eq_ok_iff.mp hrun
      cases hcurrent
      obtain ⟨_, _, hadvance, hrun⟩ := bind_eq_ok_iff.mp hrun
      cases hadvance
      obtain ⟨right, t₁, hright, hpure⟩ := bind_eq_ok_iff.mp hrun
      cases hpure
      have hsign := ContinueRule.ofKind?_eq_binary_iff.mp hrule
      have hreal : s.current.kind ≠ .eof := by
        intro heof
        rw [heof] at hsign
        cases hsign
      exact ⟨hs.current rfl hreal, hsign, hleft, hinner.expression hs.advance hright⟩
  | call =>
      obtain ⟨_, _, hcurrent, hrun⟩ := bind_eq_ok_iff.mp hrun
      cases hcurrent
      obtain ⟨exprs, _, harguments, hpure⟩ := bind_eq_ok_iff.mp hrun
      cases hpure
      have hkind := ContinueRule.ofKind?_eq_call_iff.mp hrule
      refine ⟨hs.current hkind (by decide), hleft, exprsFit_iff.mpr ?_⟩
      exact forall_mem_of_items (enumeration_arguments inner)
        (Passage.lexical.argument hinner.keeps) (fits_argument hinner) hs harguments

theorem fits_continued (hinner : inner.Fits) {least : Precedence} {steps : Nat} {left expr : Expr}
    (hleft : left.Fits) (hs : s.Lexical) (hrun : continued inner least steps left s = .ok expr t) :
    expr.Fits := by
  induction steps generalizing s left with
  | zero =>
      cases hrun
      exact hleft
  | succ steps ih =>
      cases hcontinues : s.peek.kind.continues least with
      | false =>
          rw [continued_of_continues_eq_false hcontinues] at hrun
          cases hrun
          exact hleft
      | true =>
          obtain ⟨rule, hrule⟩ := ContinueRule.exists_of_continues hcontinues
          rw [continued_of_rule hcontinues hrule] at hrun
          obtain ⟨longer, u, hlonger, hrun⟩ := bind_eq_ok_iff.mp hrun
          have hu := (Passage.lexical.continueRule hinner.keeps left rule).of_ok hlonger hs.advance
          exact ih (fits_continueRule hinner hleft hs.advance hrule hlonger) hu hrun

theorem fits_expressionBody (hinner : inner.Fits) {least : Precedence} {expr : Expr}
    (hs : s.Lexical) (hrun : expressionBody inner least s = .ok expr t) : expr.Fits := by
  obtain ⟨left, t₁, hstart, hrun⟩ := bind_eq_ok_iff.mp hrun
  obtain ⟨_, _, hget, hrun⟩ := bind_eq_ok_iff.mp hrun
  cases hget
  have ht₁ := (Passage.lexical.start hinner.keeps).of_ok hstart hs
  exact fits_continued hinner (fits_start hinner hs hstart) ht₁ hrun

theorem fits_letStatement (hinner : inner.Fits) {statement : Statement} (hs : s.Lexical)
    (hkind : s.current.kind = .kwLet) (hrun : letStatement inner s = .ok statement t) :
    statement.Fits := by
  obtain ⟨_, _, hcurrent, hrun⟩ := bind_eq_ok_iff.mp hrun
  cases hcurrent
  obtain ⟨_, t₁, hname, hrun⟩ := bind_eq_ok_iff.mp hrun
  obtain ⟨hnameKind, rfl⟩ := expectPeek_eq_ok_iff.mp hname
  obtain ⟨_, _, hcurrent, hrun⟩ := bind_eq_ok_iff.mp hrun
  cases hcurrent
  obtain ⟨_, t₂, hsign, hrun⟩ := bind_eq_ok_iff.mp hrun
  obtain ⟨-, rfl⟩ := expectPeek_eq_ok_iff.mp hsign
  obtain ⟨_, _, hadvance, hrun⟩ := bind_eq_ok_iff.mp hrun
  cases hadvance
  obtain ⟨value, t₃, hvalue, hrun⟩ := bind_eq_ok_iff.mp hrun
  obtain ⟨_, t₄, -, hpure⟩ := bind_eq_ok_iff.mp hrun
  cases hpure
  exact ⟨hs.current hkind (by decide), ⟨hs.advance.current hnameKind (by decide), rfl⟩,
    hinner.expression hs.advance.advance.advance hvalue⟩

theorem fits_returnStatement (hinner : inner.Fits) {statement : Statement} (hs : s.Lexical)
    (hkind : s.current.kind = .kwReturn) (hrun : returnStatement inner s = .ok statement t) :
    statement.Fits := by
  by_cases hstops : s.peek.kind.Stops
  · rw [returnStatement_of_stops hstops] at hrun
    obtain ⟨_, -, rfl⟩ := map_eq_ok_iff.mp hrun
    exact hs.current hkind (by decide)
  · rw [returnStatement_of_not_stops hstops] at hrun
    obtain ⟨value, t₁, hvalue, hrun⟩ := bind_eq_ok_iff.mp hrun
    obtain ⟨_, t₂, -, hpure⟩ := bind_eq_ok_iff.mp hrun
    cases hpure
    exact ⟨hs.current hkind (by decide), hinner.expression hs.advance hvalue⟩

theorem fits_statement (hinner : inner.Fits) {found : Option Statement} (hs : s.Lexical)
    (hrun : statement inner s = .ok found t) : ∀ statement ∈ found, statement.Fits := by
  by_cases hlet : s.current.kind = .kwLet
  · rw [statement_of_let hlet] at hrun
    obtain ⟨statement, hread, rfl⟩ := map_eq_ok_iff.mp hrun
    simpa using fits_letStatement hinner hs hlet hread
  by_cases hreturn : s.current.kind = .kwReturn
  · rw [statement_of_return hreturn] at hrun
    obtain ⟨statement, hread, rfl⟩ := map_eq_ok_iff.mp hrun
    simpa using fits_returnStatement hinner hs hreturn hread
  by_cases hsemicolon : s.current.kind = .semicolon
  · rw [statement_of_semicolon hsemicolon] at hrun
    cases hrun
    simp
  · rw [statement_of_other hlet hreturn hsemicolon] at hrun
    obtain ⟨statement, hread, rfl⟩ := map_eq_ok_iff.mp hrun
    obtain ⟨_, _, hcurrent, hread⟩ := bind_eq_ok_iff.mp hread
    cases hcurrent
    obtain ⟨expr, t₁, hexpr, hread⟩ := bind_eq_ok_iff.mp hread
    obtain ⟨_, t₂, -, hpure⟩ := bind_eq_ok_iff.mp hread
    cases hpure
    simpa [Statement.Fits] using hinner.expression hs hexpr

theorem fits_blockStatements (hinner : inner.Fits) {level steps : Nat}
    {statements : List Statement} (hs : s.Lexical)
    (hrun : blockStatements inner level steps s = .ok statements t) :
    ∀ statement ∈ statements, statement.Fits := by
  induction steps generalizing s statements with
  | zero => cases hrun
  | succ steps ih =>
      by_cases hbrace : s.current.kind = .rightBrace
      · rw [blockStatements_of_brace hbrace] at hrun
        cases hrun
        simp
      by_cases heof : s.current.kind = .eof
      · rw [blockStatements_of_eof heof] at hrun
        cases hrun
      cases hfirst : statement inner s with
      | ok found u =>
          rw [blockStatements_of_ok hbrace heof hfirst] at hrun
          obtain ⟨rest, hrest, rfl⟩ := map_eq_ok_iff.mp hrun
          have hu := (Passage.lexical.statement hinner.keeps).of_ok hfirst hs
          refine List.forall_mem_append.mpr ⟨?_, ih hu.advance hrest⟩
          simpa using fits_statement hinner hs hfirst
      | error fault u =>
          have hu := (Passage.lexical.statement hinner.keeps).of_error hfirst hs
          have hsync := Passage.lexical.resync level (u.record fault) hu
          cases hclosed : ((u.record fault).resync level).1 with
          | true =>
              rw [blockStatements_of_error_of_closed hbrace heof hfirst hclosed] at hrun
              cases hrun
              simp
          | false =>
              rw [blockStatements_of_error_of_open hbrace heof hfirst hclosed] at hrun
              exact ih hsync.advance hrun

theorem fits_blockBody (hinner : inner.Fits) {block : Block} (hs : s.Lexical)
    (hkind : s.current.kind = .leftBrace) (hrun : blockBody inner s = .ok block t) :
    block.Fits := by
  obtain ⟨_, _, hget, hrun⟩ := bind_eq_ok_iff.mp hrun
  cases hget
  obtain ⟨_, _, hadvance, hrun⟩ := bind_eq_ok_iff.mp hrun
  cases hadvance
  obtain ⟨_, _, hget, hrun⟩ := bind_eq_ok_iff.mp hrun
  cases hget
  obtain ⟨statements, _, hstatements, hpure⟩ := bind_eq_ok_iff.mp hrun
  cases hpure
  refine ⟨hs.current hkind (by decide), statementsFit_iff.mpr ?_⟩
  exact fits_blockStatements hinner hs.advance hstatements

theorem fits_programStatements (hinner : inner.Fits) (steps : Nat) (hs : s.Lexical) :
    ∀ statement ∈ (s.programStatements inner steps).1, statement.Fits := by
  induction steps generalizing s with
  | zero => simp [ParseState.programStatements]
  | succ steps ih =>
      by_cases heof : s.current.kind = .eof
      · simp [programStatements_of_eof heof]
      cases hfirst : statement inner s with
      | ok found u =>
          rw [programStatements_of_ok heof hfirst]
          have hu := (Passage.lexical.statement hinner.keeps).of_ok hfirst hs
          refine List.forall_mem_append.mpr ⟨?_, ih hu.advance⟩
          simpa using fits_statement hinner hs hfirst
      | error fault u =>
          rw [programStatements_of_error heof hfirst]
          have hu := (Passage.lexical.statement hinner.keeps).of_error hfirst hs
          exact ih (Passage.lexical.resync 0 (u.record fault) hu).advance

end Readers

theorem Inner.fits_level (n : Nat) : (Inner.level n).Fits := by
  induction n with
  | zero => exact ⟨Passage.lexical.level 0, nofun, nofun⟩
  | succ n ih =>
      refine ⟨Passage.lexical.level (n + 1), ?_, ?_⟩
      · intro least s t expr hs hrun
        obtain ⟨u, hbody, -⟩ := nested_eq_ok hrun
        have henter : s.enter.Lexical := hs
        exact fits_expressionBody ih henter hbody
      · intro s t block hs hkind hrun
        obtain ⟨u, hbody, -⟩ := nested_eq_ok hrun
        have henter : s.enter.Lexical := hs
        exact fits_blockBody ih henter hkind hbody

/-- The program of a source, whatever faults the source has, fits its tokens. -/
theorem fits_parse (maxDepth : Nat) (source : String) :
    ∀ statement ∈ (parse maxDepth source).program.statements, statement.Fits :=
  fits_programStatements (Inner.fits_level _) _ (.start maxDepth source)

end MonkeySyntax
