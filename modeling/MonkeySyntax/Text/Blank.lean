import MonkeySyntax.Text.Ranges

/-!
# White space in the sense of Unicode, and the words it separates
-/

namespace MonkeySyntax

def whiteRanges : List (Nat × Nat) :=
  [(0x9, 0xd), (0x20, 0x20), (0x85, 0x85), (0xa0, 0xa0), (0x1680, 0x1680), (0x2000, 0x200a),
    (0x2028, 0x2029), (0x202f, 0x202f), (0x205f, 0x205f), (0x3000, 0x3000)]

def isWhite (c : Char) : Bool := inRanges whiteRanges c

theorem isWhite_of_isWhitespace {c : Char} (h : c.isWhitespace = true) : isWhite c = true := by
  simp only [Char.isWhitespace, Bool.or_eq_true, decide_eq_true_eq] at h
  rcases h with ((rfl | rfl) | rfl) | rfl <;> decide

/-- Drops white space at both ends. -/
def trim (line : String) : String :=
  String.ofList (((line.toList.dropWhile isWhite).reverse.dropWhile isWhite).reverse)

/-- The maximal runs of characters that are not white. -/
def words (line : String) : List String :=
  ((line.toList.splitBy fun a b => isWhite a == isWhite b).filter fun run =>
    run.any fun c => !isWhite c).map String.ofList

end MonkeySyntax
