import MonkeySyntax.Token.Kind

/-!
# Operators of expressions
-/

namespace MonkeySyntax

inductive UnaryOp where
  | bang | minus
deriving DecidableEq, Repr, Inhabited

namespace UnaryOp

def all : List UnaryOp := [bang, minus]

def ofKind? : TokenKind → Option UnaryOp
  | .bang => some bang
  | .minus => some minus
  | _ => none

def spelling : UnaryOp → String
  | bang => "!"
  | minus => "-"

/-- The name used by dumps. -/
def tag : UnaryOp → String
  | bang => "Bang"
  | minus => "Minus"

def ofTag? (tag : String) : Option UnaryOp := all.find? (·.tag == tag)

theorem spelling?_of_ofKind? {kind : TokenKind} {op : UnaryOp} (h : ofKind? kind = some op) :
    kind.spelling? = some op.spelling := by
  cases kind <;> simp [ofKind?] at h <;> subst h <;> rfl

end UnaryOp

inductive BinaryOp where
  | plus | minus | multiply | divide | less | greater | equal | notEqual
deriving DecidableEq, Repr, Inhabited

namespace BinaryOp

def all : List BinaryOp := [plus, minus, multiply, divide, less, greater, equal, notEqual]

def ofKind? : TokenKind → Option BinaryOp
  | .plus => some plus
  | .minus => some minus
  | .star => some multiply
  | .slash => some divide
  | .less => some less
  | .greater => some greater
  | .equal => some equal
  | .notEqual => some notEqual
  | _ => none

def spelling : BinaryOp → String
  | plus => "+"
  | minus => "-"
  | multiply => "*"
  | divide => "/"
  | less => "<"
  | greater => ">"
  | equal => "=="
  | notEqual => "!="

/-- The name used by dumps. -/
def tag : BinaryOp → String
  | plus => "Plus"
  | minus => "Minus"
  | multiply => "Multiply"
  | divide => "Divide"
  | less => "Less"
  | greater => "Greater"
  | equal => "Equal"
  | notEqual => "NotEqual"

def ofTag? (tag : String) : Option BinaryOp := all.find? (·.tag == tag)

theorem spelling?_of_ofKind? {kind : TokenKind} {op : BinaryOp} (h : ofKind? kind = some op) :
    kind.spelling? = some op.spelling := by
  cases kind <;> simp [ofKind?] at h <;> subst h <;> rfl

end BinaryOp

end MonkeySyntax
