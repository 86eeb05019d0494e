/-!
# JSON values

Objects keep their fields in the order in which they were given.
-/

namespace MonkeySyntax

inductive Json where
  | null
  | bool (value : Bool)
  | int (value : Int)
  | str (value : String)
  | arr (items : List Json)
  | obj (fields : List (String × Json))
deriving Inhabited

namespace Json

def ofOption {α : Type} (toJson : α → Json) : Option α → Json
  | none => null
  | some a => toJson a

def nat (n : Nat) : Json := int n

end Json

end MonkeySyntax
