import MonkeySyntax.Parsing.Fault
import MonkeySyntax.Tree.Text

/-!
# The same text at another place

A text can stand inside a longer one. Its tokens, trees and faults are then the same up to where
they are: `Span.moved` translates a place in the text to the place in the longer one, and `relocate`
does so for every token of a tree.
-/

namespace MonkeySyntax

/-! ### Places -/

/-- The bytes of a text before its first line feed. -/
def firstLine (text : List Char) : Nat := byteLength (text.takeWhile (· ≠ '\n'))

/-- The place, when the text starts at `origin`, of what is at `span` in the text alone. Only the
columns of the first line of the text, which is `firstLine` bytes long, depend on the column that
the text starts in. -/
def Span.moved (origin : Position) (firstLine : Nat) (span : Span) : Span where
  start := origin.offset + span.start
  stop := origin.offset + span.stop
  line := span.line + (origin.line - 1)
  column := if span.start ≤ firstLine then span.column + (origin.column - 1) else span.column

theorem Span.moved_first (n : Nat) : Span.moved .first n = id := by
  funext span
  cases span
  simp [moved, Position.first]

namespace Position

theorem line_afterAll_of_eq {p q : Position} {d : UInt32} (h : q.line = p.line + d)
    (cs : List Char) : (q.afterAll cs).line = (p.afterAll cs).line + d := by
  induction cs generalizing p q with
  | nil => exact h
  | cons c cs ih =>
      refine ih ?_
      simp only [after]
      split
      · rw [h, UInt32.add_assoc, UInt32.add_comm d 1, ← UInt32.add_assoc]
      · exact h

theorem column_afterAll_of_eq {p q : Position} {d : UInt32} (h : q.column = p.column + d)
    {cs : List Char} (hcs : '\n' ∉ cs) :
    (q.afterAll cs).column = (p.afterAll cs).column + d := by
  induction cs generalizing p q with
  | nil => exact h
  | cons c cs ih =>
      rw [List.mem_cons, not_or] at hcs
      obtain ⟨hc, hcs⟩ := hcs
      refine ih ?_ hcs
      simp only [after, Ne.symm hc, ↓reduceIte]
      rw [h, UInt32.add_assoc, UInt32.add_comm d 1, ← UInt32.add_assoc]

theorem column_afterAll_of_mem {p q : Position} {cs : List Char} (hcs : '\n' ∈ cs) :
    (q.afterAll cs).column = (p.afterAll cs).column := by
  induction cs generalizing p q with
  | nil => simp at hcs
  | cons c cs ih =>
      by_cases hmem : '\n' ∈ cs
      · exact ih hmem
      · obtain rfl : '\n' = c := by simpa [hmem] using hcs
        have hcolumn : (q.after '\n').column = (p.after '\n').column + 0 := by simp [after]
        simpa using column_afterAll_of_eq hcolumn hmem

end Position

theorem takeWhile_append_of_newline_not_mem {before : List Char} (h : '\n' ∉ before)
    (rest : List Char) :
    (before ++ rest).takeWhile (· ≠ '\n') = before ++ rest.takeWhile (· ≠ '\n') := by
  refine List.takeWhile_append_of_pos fun c hc => ?_
  simpa using ne_of_mem_of_not_mem hc h

theorem le_firstLine_iff {before rest : List Char} :
    byteLength before ≤ firstLine (before ++ rest) ↔ '\n' ∉ before := by
  unfold firstLine
  constructor
  · intro hle hmem
    obtain ⟨cs, ds, rfl, hcs⟩ := List.eq_append_cons_of_mem hmem
    rw [List.append_assoc, takeWhile_append_of_newline_not_mem hcs, List.cons_append,
      List.takeWhile_cons_of_neg (by simp), List.append_nil, byteLength_append,
      byteLength_cons] at hle
    have hpos := Char.utf8Size_pos '\n'
    omega
  · intro hbefore
    rw [takeWhile_append_of_newline_not_mem hbefore, byteLength_append]
    exact Nat.le_add_right _ _

/-- What is read from a text alone and what is read from it at `origin` are at corresponding
places. -/
theorem Span.moved_between (origin : Position) (before lexeme rest : List Char) :
    (Span.between (Position.first.afterAll before)
        ((Position.first.afterAll before).afterAll lexeme)).moved origin
          (firstLine (before ++ rest))
      = Span.between (origin.afterAll before) ((origin.afterAll before).afterAll lexeme) := by
  have hoffset : (Position.first.afterAll before).offset = byteLength before := by
    rw [Position.offset_afterAll]
    exact Nat.zero_add _
  have hline : origin.line = Position.first.line + (origin.line - 1) := by
    rw [UInt32.add_comm]
    exact (UInt32.sub_add_cancel _ _).symm
  have hcolumn : origin.column = Position.first.column + (origin.column - 1) := by
    rw [UInt32.add_comm]
    exact (UInt32.sub_add_cancel _ _).symm
  simp only [Span.moved, Span.between, Span.mk.injEq]
  refine ⟨?_, ?_, (Position.line_afterAll_of_eq hline before).symm, ?_⟩
  · rw [hoffset, Position.offset_afterAll]
  · simp only [Position.offset_afterAll]
    simp only [Position.first]
    omega
  · by_cases hbefore : '\n' ∈ before
    · have hfar : ¬ (Position.first.afterAll before).offset ≤ firstLine (before ++ rest) := by
        rw [hoffset, le_firstLine_iff]
        exact fun hnot => hnot hbefore
      exact (if_neg hfar).trans (Position.column_afterAll_of_mem hbefore)
    · have hnear : (Position.first.afterAll before).offset ≤ firstLine (before ++ rest) := by
        rw [hoffset]
        exact le_firstLine_iff.mpr hbefore
      exact (if_pos hnear).trans (Position.column_afterAll_of_eq hcolumn hbefore).symm

/-! ### Tokens and trees -/

def Token.relocate (place : Span → Span) (token : Token) : Token :=
  { token with span := place token.span }

@[simp]
theorem Token.kind_relocate (place : Span → Span) (token : Token) :
    (token.relocate place).kind = token.kind := rfl

@[simp]
theorem Token.literal_relocate (place : Span → Span) (token : Token) :
    (token.relocate place).literal = token.literal := rfl

def Identifier.relocate (place : Span → Span) (name : Identifier) : Identifier :=
  ⟨name.token.relocate place, name.value⟩

mutual

def Expr.relocate (place : Span → Span) : Expr → Expr
  | .identifier name => .identifier (name.relocate place)
  | .integer token value => .integer (token.relocate place) value
  | .boolean token value => .boolean (token.relocate place) value
  | .unary token operator right => .unary (token.relocate place) operator (right.relocate place)
  | .binary token left operator right =>
    .binary (token.relocate place) (left.relocate place) operator (right.relocate place)
  | .conditional token condition consequence none =>
    .conditional (token.relocate place) (condition.relocate place) (consequence.relocate place)
      none
  | .conditional token condition consequence (some alternative) =>
    .conditional (token.relocate place) (condition.relocate place) (consequence.relocate place)
      (some (alternative.relocate place))
  | .function token names body =>
    .function (token.relocate place) (names.map (·.relocate place)) (body.relocate place)
  | .call token function arguments =>
    .call (token.relocate place) (function.relocate place) (relocateExprs place arguments)

def relocateExprs (place : Span → Span) : List Expr → List Expr
  | [] => []
  | expr :: rest => expr.relocate place :: relocateExprs place rest

def Statement.relocate (place : Span → Span) : Statement → Statement
  | .binding token name value =>
    .binding (token.relocate place) (name.relocate place) (value.relocate place)
  | .result token none => .result (token.relocate place) none
  | .result token (some value) => .result (token.relocate place) (some (value.relocate place))
  | .expression token expression =>
    .expression (token.relocate place) (expression.relocate place)

def Block.relocate (place : Span → Span) : Block → Block
  | .mk token statements => .mk (token.relocate place) (relocateStatements place statements)

def relocateStatements (place : Span → Span) : List Statement → List Statement
  | [] => []
  | statement :: rest => statement.relocate place :: relocateStatements place rest

end

theorem relocateExprs_eq_map (place : Span → Span) (exprs : List Expr) :
    relocateExprs place exprs = exprs.map (·.relocate place) := by
  induction exprs with
  | nil => simp [relocateExprs]
  | cons expr rest ih => simp [relocateExprs, ih]

theorem relocateStatements_eq_map (place : Span → Span) (statements : List Statement) :
    relocateStatements place statements = statements.map (·.relocate place) := by
  induction statements with
  | nil => simp [relocateStatements]
  | cons statement rest ih => simp [relocateStatements, ih]

theorem Expr.relocate_conditional (place : Span → Span) (token : Token) (condition : Expr)
    (consequence : Block) (alternative : Option Block) :
    (Expr.conditional token condition consequence alternative).relocate place
      = .conditional (token.relocate place) (condition.relocate place)
          (consequence.relocate place) (alternative.map (·.relocate place)) := by
  cases alternative <;> simp [Expr.relocate]

mutual

theorem Expr.relocate_id : ∀ expr : Expr, expr.relocate id = expr
  | .identifier _ | .integer _ _ | .boolean _ _ => rfl
  | .unary _ _ right => by rw [Expr.relocate, right.relocate_id]; rfl
  | .binary _ left _ right => by rw [Expr.relocate, left.relocate_id, right.relocate_id]; rfl
  | .conditional _ condition consequence none => by
    rw [Expr.relocate, condition.relocate_id, consequence.relocate_id]; rfl
  | .conditional _ condition consequence (some alternative) => by
    rw [Expr.relocate, condition.relocate_id, consequence.relocate_id, alternative.relocate_id]
    rfl
  | .function _ names body => by
    have hnames : names.map (·.relocate id) = names := List.map_id names
    rw [Expr.relocate, body.relocate_id, hnames]; rfl
  | .call _ function arguments => by
    rw [Expr.relocate, function.relocate_id, relocateExprs_id arguments]; rfl

theorem relocateExprs_id : ∀ exprs : List Expr, relocateExprs id exprs = exprs
  | [] => rfl
  | expr :: rest => by rw [relocateExprs, expr.relocate_id, relocateExprs_id rest]

theorem Statement.relocate_id : ∀ statement : Statement, statement.relocate id = statement
  | .binding _ _ value => by rw [Statement.relocate, value.relocate_id]; rfl
  | .result _ none => rfl
  | .result _ (some value) => by rw [Statement.relocate, value.relocate_id]; rfl
  | .expression _ expression => by rw [Statement.relocate, expression.relocate_id]; rfl

theorem Block.relocate_id : ∀ block : Block, block.relocate id = block
  | .mk _ statements => by rw [Block.relocate, relocateStatements_id statements]; rfl

theorem relocateStatements_id : ∀ statements : List Statement,
    relocateStatements id statements = statements
  | [] => rfl
  | statement :: rest => by
    rw [relocateStatements, statement.relocate_id, relocateStatements_id rest]

end

mutual

theorem Expr.relocate_relocate (f g : Span → Span) : ∀ expr : Expr,
    (expr.relocate f).relocate g = expr.relocate (g ∘ f)
  | .identifier _ | .integer _ _ | .boolean _ _ => rfl
  | .unary _ _ right => by
    simp only [Expr.relocate, right.relocate_relocate f g]; rfl
  | .binary _ left _ right => by
    simp only [Expr.relocate, left.relocate_relocate f g, right.relocate_relocate f g]; rfl
  | .conditional _ condition consequence none => by
    simp only [Expr.relocate, condition.relocate_relocate f g,
      consequence.relocate_relocate f g]; rfl
  | .conditional _ condition consequence (some alternative) => by
    simp only [Expr.relocate, condition.relocate_relocate f g, consequence.relocate_relocate f g,
      alternative.relocate_relocate f g]; rfl
  | .function _ _ body => by
    simp only [Expr.relocate, List.map_map, body.relocate_relocate f g]; rfl
  | .call _ function arguments => by
    simp only [Expr.relocate, function.relocate_relocate f g,
      relocateExprs_relocateExprs f g arguments]; rfl

theorem relocateExprs_relocateExprs (f g : Span → Span) : ∀ exprs : List Expr,
    relocateExprs g (relocateExprs f exprs) = relocateExprs (g ∘ f) exprs
  | [] => rfl
  | expr :: rest => by
    simp only [relocateExprs, expr.relocate_relocate f g, relocateExprs_relocateExprs f g rest]

theorem Statement.relocate_relocate (f g : Span → Span) : ∀ statement : Statement,
    (statement.relocate f).relocate g = statement.relocate (g ∘ f)
  | .binding _ _ value => by
    simp only [Statement.relocate, value.relocate_relocate f g]; rfl
  | .result _ none => rfl
  | .result _ (some value) => by
    simp only [Statement.relocate, value.relocate_relocate f g]; rfl
  | .expression _ expression => by
    simp only [Statement.relocate, expression.relocate_relocate f g]; rfl

theorem Block.relocate_relocate (f g : Span → Span) : ∀ block : Block,
    (block.relocate f).relocate g = block.relocate (g ∘ f)
  | .mk _ statements => by
    simp only [Block.relocate, relocateStatements_relocateStatements f g statements]; rfl

theorem relocateStatements_relocateStatements (f g : Span → Span) : ∀ statements : List Statement,
    relocateStatements g (relocateStatements f statements) = relocateStatements (g ∘ f) statements
  | [] => rfl
  | statement :: rest => by
    simp only [relocateStatements, statement.relocate_relocate f g,
      relocateStatements_relocateStatements f g rest]

end

/-! ### Text -/

theorem Statement.span_relocate (place : Span → Span) : ∀ statement : Statement,
    (statement.relocate place).span = place statement.span
  | .binding _ _ _ | .result _ none | .result _ (some _) | .expression _ _ => rfl

mutual

theorem Expr.text_relocate (place : Span → Span) : ∀ expr : Expr,
    (expr.relocate place).text = expr.text
  | .identifier _ | .integer _ _ | .boolean _ _ => rfl
  | .unary _ _ right => by rw [Expr.relocate, Expr.text, right.text_relocate, Expr.text]
  | .binary _ left _ right => by
    rw [Expr.relocate, Expr.text, left.text_relocate, right.text_relocate, Expr.text]
  | .conditional _ condition consequence none => by
    rw [Expr.relocate, Expr.text, condition.text_relocate, consequence.text_relocate, Expr.text]
  | .conditional _ condition consequence (some alternative) => by
    rw [Expr.relocate, Expr.text, condition.text_relocate, consequence.text_relocate,
      alternative.text_relocate, Expr.text]
  | .function _ names body => by
    have hnames : (names.map (·.relocate place)).map Identifier.text
        = names.map Identifier.text := by
      simp [Identifier.relocate, Identifier.text]
    rw [Expr.relocate, Expr.text, body.text_relocate, hnames, Expr.text]
    rfl
  | .call _ function arguments => by
    rw [Expr.relocate, Expr.text, function.text_relocate, argumentTexts_relocate place arguments,
      Expr.text]

theorem argumentTexts_relocate (place : Span → Span) : ∀ exprs : List Expr,
    argumentTexts (relocateExprs place exprs) = argumentTexts exprs
  | [] => rfl
  | expr :: rest => by
    rw [relocateExprs, argumentTexts, expr.text_relocate, argumentTexts_relocate place rest,
      argumentTexts]

theorem Statement.text_relocate (place : Span → Span) : ∀ statement : Statement,
    (statement.relocate place).text = statement.text
  | .binding _ _ value => by
    rw [Statement.relocate, Statement.text, value.text_relocate, Statement.text]
    rfl
  | .result _ none => rfl
  | .result _ (some value) => by
    rw [Statement.relocate, Statement.text, value.text_relocate, Statement.text]
    rfl
  | .expression _ expression => by
    rw [Statement.relocate, Statement.text, expression.text_relocate, Statement.text]

theorem Block.text_relocate (place : Span → Span) : ∀ block : Block,
    (block.relocate place).text = block.text
  | .mk _ statements => by
    rw [Block.relocate, Block.text, statementsText_relocate place statements, Block.text]

theorem statementsText_relocate (place : Span → Span) : ∀ statements : List Statement,
    statementsText (relocateStatements place statements) = statementsText statements
  | [] => rfl
  | statement :: rest => by
    rw [relocateStatements, statementsText, statement.text_relocate,
      statementsText_relocate place rest, statementsText]

end

/-! ### Faults -/

def Fault.relocate (place : Span → Span) : Fault → Fault
  | .unexpectedToken expected found literal span =>
    .unexpectedToken expected found literal (place span)
  | .unexpectedEnd expected span => .unexpectedEnd expected (place span)
  | .noStart kind literal span => .noStart kind literal (place span)
  | .illegalCharacter literal span => .illegalCharacter literal (place span)
  | .integerTooLarge literal span => .integerTooLarge literal (place span)
  | .tooDeep limit span => .tooDeep limit (place span)

/-- The fault, found at a token where it was found at the end of the source before. -/
def Fault.blameOn (token : Token) : Fault → Fault
  | .unexpectedEnd expected _ =>
    .unexpectedToken expected token.kind token.literal token.span
  | .noStart _ _ _ => .noStart token.kind token.literal token.span
  | .tooDeep limit _ => .tooDeep limit token.span
  | fault => fault

/-- Puts the blame on `token` if it is on `marker`. -/
def Fault.reblame (marker token : Token) (fault : Fault) : Fault :=
  if fault.span = marker.span then fault.blameOn token else fault

/-- The fault under a limit of nesting that is higher by `more`. -/
def Fault.deepen (more : Nat) : Fault → Fault
  | .tooDeep limit span => .tooDeep (limit + more) span
  | fault => fault

theorem Fault.span_relocate (place : Span → Span) (fault : Fault) :
    (fault.relocate place).span = place fault.span := by
  cases fault <;> rfl

theorem Fault.relocate_id (fault : Fault) : fault.relocate id = fault := by
  cases fault <;> rfl

theorem Fault.relocate_relocate (f g : Span → Span) (fault : Fault) :
    (fault.relocate f).relocate g = fault.relocate (g ∘ f) := by
  cases fault <;> rfl

theorem Fault.deepen_zero (fault : Fault) : fault.deepen 0 = fault := by
  cases fault <;> rfl

end MonkeySyntax
