import MonkeySyntax.Token.Basic

/-!
# What can be wrong with a source

A `Fault` is the cause for which a statement is given up, with the place it is blamed on.
-/

namespace MonkeySyntax

inductive Fault where
  /-- Another kind of token had to follow. -/
  | unexpectedToken (expected found : TokenKind) (literal : String) (span : Span)
  /-- The source ended where a token had to follow. -/
  | unexpectedEnd (expected : TokenKind) (span : Span)
  /-- A token that no expression starts with. -/
  | noStart (kind : TokenKind) (literal : String) (span : Span)
  /-- A character outside the language where an expression had to start. -/
  | illegalCharacter (literal : String) (span : Span)
  /-- An integer of more than 63 bits. -/
  | integerTooLarge (literal : String) (span : Span)
  /-- Expressions and blocks nested beyond the limit. -/
  | tooDeep (limit : Nat) (span : Span)
deriving DecidableEq, Repr, Inhabited

/-- The greatest value of an integer literal. -/
def maxInteger : Nat := Nat.pow 2 63 - 1

namespace Fault

def span : Fault → Span
  | unexpectedToken _ _ _ span => span
  | unexpectedEnd _ span => span
  | noStart _ _ span => span
  | illegalCharacter _ span => span
  | integerTooLarge _ span => span
  | tooDeep _ span => span

def code : Fault → String
  | unexpectedToken .. => "P0001"
  | unexpectedEnd .. => "P0002"
  | noStart .. => "P0003"
  | illegalCharacter .. => "P0004"
  | integerTooLarge .. => "P0005"
  | tooDeep .. => "P0006"

/-- What is wrong, without the place. -/
def description : Fault → String
  | unexpectedToken expected _ literal _ =>
    "expected " ++ expected.describe ++ ", found `" ++ literal ++ "`"
  | unexpectedEnd expected _ => "unexpected end of input, expected " ++ expected.describe
  | noStart kind _ _ => "no prefix parse rule for " ++ kind.describe
  | illegalCharacter literal _ => "illegal character `" ++ literal ++ "`"
  | integerTooLarge literal _ => "could not parse `" ++ literal ++ "` as integer"
  | tooDeep limit _ => "expression nesting exceeds the limit of " ++ toString limit

def message (fault : Fault) : String := fault.span.text ++ ": " ++ fault.description

/-- Advice on how to mend the source, where there is any to give. -/
def hint? : Fault → Option String
  | unexpectedToken .identifier _ _ _ => some "bindings and parameters must be plain names"
  | unexpectedToken .rightParen _ _ _ => some "add a closing `)`"
  | unexpectedToken .rightBrace _ _ _ => some "add a closing `\x7d`"
  | unexpectedToken _ _ _ _ => none
  | unexpectedEnd expected _ =>
    some ("the input ended before " ++ expected.describe ++ " was found")
  | integerTooLarge _ _ => some ("integers must be between 0 and " ++ toString maxInteger)
  | tooDeep _ _ => some "split the expression into smaller `let` bindings"
  | noStart _ _ _ | illegalCharacter _ _ => none

/-- The note written under the blamed place. -/
def label : Fault → String
  | unexpectedToken expected _ _ _ => "expected " ++ expected.describe
  | unexpectedEnd expected _ => "expected " ++ expected.describe ++ " before here"
  | noStart _ _ _ => "cannot start an expression"
  | illegalCharacter _ _ => "not part of the language"
  | integerTooLarge _ _ => "out of range"
  | tooDeep _ _ => "nesting limit reached here"

end Fault

end MonkeySyntax
