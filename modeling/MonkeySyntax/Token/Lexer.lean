import MonkeySyntax.Token.Basic

/-!
# Reading tokens off a text

A `Lexer` is what is left of a source and the place reached in it. `Lexer.next` skips blanks and
cuts off the longest lexeme; at the end it yields end markers for as long as it is asked.
-/

namespace MonkeySyntax

def isBlank (c : Char) : Bool := c == ' ' || c == '\t' || c == '\n' || c == '\r'

def isWordChar (c : Char) : Bool := c.isAlpha || c == '_'

/-- The kind of a token that consists of the one character `c`. -/
def TokenKind.ofSymbol : Char → TokenKind
  | '=' => .assign
  | '!' => .bang
  | ';' => .semicolon
  | ',' => .comma
  | '(' => .leftParen
  | ')' => .rightParen
  | '\x7b' => .leftBrace
  | '\x7d' => .rightBrace
  | '+' => .plus
  | '-' => .minus
  | '*' => .star
  | '/' => .slash
  | '<' => .less
  | '>' => .greater
  | _ => .illegal

/-- The kind of a token that consists of `c` followed by an equals sign. -/
def TokenKind.withEquals? : Char → Option TokenKind
  | '=' => some .equal
  | '!' => some .notEqual
  | _ => none

/-- A lexeme cut off a text, and the text after it. -/
structure Lexeme where
  kind : TokenKind
  chars : List Char
  rest : List Char

namespace Lexeme

/-- The text of the token: the spelling of its kind if there is only one, or else what was cut
off. -/
def literal (lexeme : Lexeme) : String := lexeme.kind.spelling?.getD (String.ofList lexeme.chars)

def symbol (c : Char) (cs : List Char) : Lexeme :=
  match TokenKind.withEquals? c, cs with
  | some kind, '=' :: rest => ⟨kind, [c, '='], rest⟩
  | _, _ => ⟨.ofSymbol c, [c], cs⟩

/-- The lexeme that a text starting with `c` starts with. -/
def scan (c : Char) (cs : List Char) : Lexeme :=
  if isWordChar c then
    let word := c :: cs.takeWhile isWordChar
    ⟨.ofWord (String.ofList word), word, cs.dropWhile isWordChar⟩
  else if c.isDigit then
    ⟨.integer, c :: cs.takeWhile Char.isDigit, cs.dropWhile Char.isDigit⟩
  else symbol c cs

theorem symbol_chars_append_rest (c : Char) (cs : List Char) :
    (symbol c cs).chars ++ (symbol c cs).rest = c :: cs := by
  unfold symbol
  split <;> rfl

theorem scan_chars_append_rest (c : Char) (cs : List Char) :
    (scan c cs).chars ++ (scan c cs).rest = c :: cs := by
  unfold scan
  split
  · simp
  split
  · simp
  · exact symbol_chars_append_rest c cs

theorem symbol_chars_ne_nil (c : Char) (cs : List Char) : (symbol c cs).chars ≠ [] := by
  unfold symbol
  split <;> simp

theorem scan_chars_ne_nil (c : Char) (cs : List Char) : (scan c cs).chars ≠ [] := by
  unfold scan
  split
  · simp
  split
  · simp
  · exact symbol_chars_ne_nil c cs

theorem literal_word (word rest : List Char) :
    literal ⟨.ofWord (String.ofList word), word, rest⟩ = String.ofList word := by
  unfold literal
  by_cases hname : TokenKind.ofWord (String.ofList word) = .identifier
  · rw [hname]
    rfl
  · rw [TokenKind.spelling?_ofWord hname, Option.getD_some]

theorem literal_symbol (c : Char) (cs : List Char) :
    (symbol c cs).literal = String.ofList (symbol c cs).chars := by
  unfold symbol literal
  split
  · rename_i kind _ hpair
    have hspelling : kind.spelling? = some (String.ofList [c, '=']) := by
      unfold TokenKind.withEquals? at hpair
      split at hpair <;> cases hpair <;> rfl
    rw [hspelling, Option.getD_some]
  · unfold TokenKind.ofSymbol
    split <;> rfl

/-- A lexeme is spelled in the source as its kind demands, so the text of the token is what was cut
off. -/
theorem literal_scan (c : Char) (cs : List Char) :
    (scan c cs).literal = String.ofList (scan c cs).chars := by
  unfold scan
  split
  · exact literal_word (c :: cs.takeWhile isWordChar) _
  split
  · rfl
  · exact literal_symbol c cs

theorem scan_rest_length_le (c : Char) (cs : List Char) :
    (scan c cs).rest.length ≤ cs.length := by
  have happend := congrArg List.length (scan_chars_append_rest c cs)
  have hpos := List.length_pos_iff.mpr (scan_chars_ne_nil c cs)
  simp only [List.length_append, List.length_cons] at happend
  omega

theorem ofWord_ne_eof (word : String) : TokenKind.ofWord word ≠ .eof := by
  intro h
  have hspelling := TokenKind.spelling?_ofWord (by simp [h] : TokenKind.ofWord word ≠ .identifier)
  simp [h, TokenKind.spelling?] at hspelling

theorem symbol_kind_ne_eof (c : Char) (cs : List Char) : (symbol c cs).kind ≠ .eof := by
  unfold symbol
  split
  · rename_i kind _ h
    unfold TokenKind.withEquals? at h
    split at h <;> simp_all
    all_goals subst h; simp
  · simp only [TokenKind.ofSymbol]
    split <;> simp

theorem scan_kind_ne_eof (c : Char) (cs : List Char) : (scan c cs).kind ≠ .eof := by
  unfold scan
  split
  · exact ofWord_ne_eof _
  split
  · simp
  · exact symbol_kind_ne_eof c cs

end Lexeme

structure Lexer where
  source : String
  rest : List Char
  position : Position

namespace Lexer

def ofSource (source : String) : Lexer := ⟨source, source.toList, .first⟩

/-- Skips blanks; what follows is a lexeme or the end of the source. -/
def skipBlanks (lexer : Lexer) : Lexer :=
  { lexer with
    rest := lexer.rest.dropWhile isBlank
    position := lexer.position.afterAll (lexer.rest.takeWhile isBlank) }

/-- Reads the lexeme that the rest of the source starts with. -/
def read (lexer : Lexer) : Token × Lexer :=
  match lexer.rest with
  | [] => (.fixed .eof (.between lexer.position lexer.position), lexer)
  | c :: cs =>
    let lexeme := Lexeme.scan c cs
    let stop := lexer.position.afterAll lexeme.chars
    (⟨lexeme.kind, lexeme.literal, .between lexer.position stop⟩,
      { lexer with rest := lexeme.rest, position := stop })

def next (lexer : Lexer) : Token × Lexer := lexer.skipBlanks.read

@[simp]
theorem source_next (lexer : Lexer) : lexer.next.2.source = lexer.source := by
  unfold next read
  split <;> rfl

theorem skipBlanks_rest_length_le (lexer : Lexer) :
    lexer.skipBlanks.rest.length ≤ lexer.rest.length :=
  (List.dropWhile_sublist isBlank).length_le

theorem read_kind_eq_eof_iff {lexer : Lexer} : lexer.read.1.kind = .eof ↔ lexer.rest = [] := by
  unfold read
  split
  · simp_all
  · rename_i c cs h
    simp [h, Lexeme.scan_kind_ne_eof c cs]

theorem read_rest_length_le (lexer : Lexer) : lexer.read.2.rest.length ≤ lexer.rest.length := by
  unfold read
  split
  · exact Nat.le_refl _
  · rename_i c cs h
    have hscan := Lexeme.scan_rest_length_le c cs
    simp only [h, List.length_cons]
    omega

theorem read_rest_length_lt {lexer : Lexer} (h : lexer.read.1.kind ≠ .eof) :
    lexer.read.2.rest.length < lexer.rest.length := by
  unfold read at h ⊢
  split
  · simp_all
  · rename_i c cs hrest
    have hscan := Lexeme.scan_rest_length_le c cs
    simp only [hrest, List.length_cons]
    omega

theorem next_rest_length_le (lexer : Lexer) : lexer.next.2.rest.length ≤ lexer.rest.length :=
  Nat.le_trans lexer.skipBlanks.read_rest_length_le lexer.skipBlanks_rest_length_le

/-- A token that is not an end marker takes at least one character. -/
theorem next_rest_length_lt {lexer : Lexer} (h : lexer.next.1.kind ≠ .eof) :
    lexer.next.2.rest.length < lexer.rest.length :=
  Nat.lt_of_lt_of_le (read_rest_length_lt h) lexer.skipBlanks_rest_length_le

/-- All tokens from here on, through the first end marker. -/
def tokens (lexer : Lexer) : List Token :=
  if lexer.next.1.kind = .eof then [lexer.next.1]
  else lexer.next.1 :: lexer.next.2.tokens
termination_by lexer.rest.length
decreasing_by exact next_rest_length_lt ‹_›

/-- The first `n` tokens and the lexer after them; past the end the end marker repeats. -/
def take (lexer : Lexer) : Nat → List Token × Lexer
  | 0 => ([], lexer)
  | n + 1 =>
    let (token, lexer) := lexer.next
    let (rest, lexer) := lexer.take n
    (token :: rest, lexer)

end Lexer

/-- The tokens of a source, the end marker last. -/
def tokenize (source : String) : List Token := (Lexer.ofSource source).tokens

end MonkeySyntax
