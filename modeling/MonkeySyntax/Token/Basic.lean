import MonkeySyntax.Source.Span
import MonkeySyntax.Text.Quoted
import MonkeySyntax.Token.Kind

/-!
# Tokens

A token is a kind, the text it was read from and the place of that text.
-/

namespace MonkeySyntax

structure Token where
  kind : TokenKind
  literal : String
  span : Span
deriving DecidableEq, Repr, Inhabited

namespace Token

/-- The token of a kind that is always spelled the same; other kinds get an empty literal. -/
def fixed (kind : TokenKind) (span : Span) : Token :=
  ⟨kind, kind.spelling?.getD "", span⟩

def isEof (token : Token) : Bool := token.kind == .eof

def text (token : Token) : String := token.kind.name ++ " " ++ quoted token.literal

/-- The token with its place, as token listings show it. -/
def listing (token : Token) : String := token.span.text ++ " " ++ token.text

@[simp]
theorem kind_fixed (kind : TokenKind) (span : Span) : (fixed kind span).kind = kind := rfl

@[simp]
theorem isEof_iff {token : Token} : token.isEof = true ↔ token.kind = .eof := by
  simp [isEof]

end Token

end MonkeySyntax
