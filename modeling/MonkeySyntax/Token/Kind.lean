/-!
# Kinds of token

The closed set of kinds the lexer can produce, with the three ways a kind is named: `name` in token
listings, `tag` in dumps, and `describe` inside messages.
-/

namespace MonkeySyntax

inductive TokenKind where
  | illegal | eof
  | identifier | integer
  | assign | plus | minus | bang | star | slash | less | greater | equal | notEqual
  | comma | semicolon | leftParen | rightParen | leftBrace | rightBrace
  | kwFn | kwLet | kwTrue | kwFalse | kwIf | kwElse | kwReturn
deriving DecidableEq, Repr, Inhabited

namespace TokenKind

def all : List TokenKind :=
  [illegal, eof, identifier, integer, assign, plus, minus, bang, star, slash, less, greater,
    equal, notEqual, comma, semicolon, leftParen, rightParen, leftBrace, rightBrace,
    kwFn, kwLet, kwTrue, kwFalse, kwIf, kwElse, kwReturn]

/-- The one text of kinds that are always written the same way. -/
def spelling? : TokenKind → Option String
  | illegal | eof | identifier | integer => none
  | assign => some "="
  | plus => some "+"
  | minus => some "-"
  | bang => some "!"
  | star => some "*"
  | slash => some "/"
  | less => some "<"
  | greater => some ">"
  | equal => some "=="
  | notEqual => some "!="
  | comma => some ","
  | semicolon => some ";"
  | leftParen => some "("
  | rightParen => some ")"
  | leftBrace => some "\x7b"
  | rightBrace => some "\x7d"
  | kwFn => some "fn"
  | kwLet => some "let"
  | kwTrue => some "true"
  | kwFalse => some "false"
  | kwIf => some "if"
  | kwElse => some "else"
  | kwReturn => some "return"

/-- The name used by token listings. -/
def name : TokenKind → String
  | illegal => "ILLEGAL"
  | eof => "EOF"
  | identifier => "IDENT"
  | integer => "INT"
  | assign => "ASSIGN"
  | plus => "PLUS"
  | minus => "MINUS"
  | bang => "BANG"
  | star => "ASTERISK"
  | slash => "SLASH"
  | less => "LT"
  | greater => "GT"
  | equal => "EQ"
  | notEqual => "NOT_EQ"
  | comma => "COMMA"
  | semicolon => "SEMICOLON"
  | leftParen => "LPAREN"
  | rightParen => "RPAREN"
  | leftBrace => "LBRACE"
  | rightBrace => "RBRACE"
  | kwFn => "FUNCTION"
  | kwLet => "LET"
  | kwTrue => "TRUE"
  | kwFalse => "FALSE"
  | kwIf => "IF"
  | kwElse => "ELSE"
  | kwReturn => "RETURN"

/-- The name used by dumps and log records. -/
def tag : TokenKind → String
  | illegal => "Illegal"
  | eof => "Eof"
  | identifier => "Identifier"
  | integer => "IntLiteral"
  | assign => "Equal"
  | plus => "Plus"
  | minus => "Minus"
  | bang => "Bang"
  | star => "Star"
  | slash => "Slash"
  | less => "Less"
  | greater => "Greater"
  | equal => "EqualEqual"
  | notEqual => "BangEqual"
  | comma => "Comma"
  | semicolon => "Semicolon"
  | leftParen => "LeftParen"
  | rightParen => "RightParen"
  | leftBrace => "LeftBrace"
  | rightBrace => "RightBrace"
  | kwFn => "Function"
  | kwLet => "Let"
  | kwTrue => "True"
  | kwFalse => "False"
  | kwIf => "If"
  | kwElse => "Else"
  | kwReturn => "Return"

def ofTag? (tag : String) : Option TokenKind := all.find? (·.tag == tag)

/-- How a message speaks of the kind: the spelling between backticks if there is one. -/
def describe : TokenKind → String
  | illegal => "ILLEGAL"
  | eof => "EOF"
  | identifier => "identifier"
  | integer => "integer"
  | kind => "`" ++ kind.spelling?.getD "" ++ "`"

def isKeyword : TokenKind → Bool
  | kwFn | kwLet | kwTrue | kwFalse | kwIf | kwElse | kwReturn => true
  | _ => false

def isOperator : TokenKind → Bool
  | assign | plus | minus | bang | star | slash | less | greater | equal | notEqual => true
  | _ => false

def keywords : List TokenKind := all.filter isKeyword

/-- A word is a keyword only if it is spelled exactly like one. -/
def ofWord (word : String) : TokenKind :=
  (keywords.find? fun kind => kind.spelling? == some word).getD identifier

theorem spelling?_ofWord {word : String} (h : ofWord word ≠ identifier) :
    (ofWord word).spelling? = some word := by
  unfold ofWord at h ⊢
  cases hfind : keywords.find? fun kind => kind.spelling? == some word with
  | none => simp [hfind] at h
  | some kind => simpa using List.find?_some hfind

end TokenKind

end MonkeySyntax
