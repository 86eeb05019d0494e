/-!
# Numbers in decimal
-/

namespace MonkeySyntax

/-- The number that decimal digits denote. -/
def decimalValue (digits : String) : Nat := Nat.ofDigitChars 10 digits.toList 0

/-- The number that a text of decimal digits, perhaps behind a plus sign, denotes. -/
def decimal? (text : String) : Option Nat :=
  let digits := match text.toList with
    | '+' :: rest => rest
    | all => all
  if !digits.isEmpty && digits.all Char.isDigit then some (decimalValue (String.ofList digits))
  else none

theorem decimal?_of_forall_isDigit {text : String} (hsome : text ≠ "")
    (h : ∀ c ∈ text.toList, c.isDigit = true) : decimal? text = some (decimalValue text) := by
  have hdigits : (match text.toList with
      | '+' :: rest => rest
      | all => all) = text.toList := by
    split
    · next rest htext => exact absurd (h '+' (by simp [htext])) (by decide)
    · rfl
  have hnonempty : text.toList.isEmpty = false := by simpa using hsome
  simp [decimal?, hdigits, hnonempty, List.all_eq_true.mpr h]

theorem exists_isDigit_of_decimal? {text : String} {value : Nat} (h : decimal? text = some value) :
    ∃ c ∈ text.toList, c.isDigit = true := by
  generalize hdigits : (match text.toList with
      | '+' :: rest => rest
      | all => all) = digits
  have hsublist : digits ⊆ text.toList := by
    subst hdigits
    split
    · next rest htext => simp [htext]
    · exact List.Subset.refl _
  simp only [decimal?, hdigits] at h
  match digits with
  | [] => cases h
  | c :: rest =>
      refine ⟨c, hsublist List.mem_cons_self, ?_⟩
      split at h
      · next hall => simp_all
      · cases h

/-- An exponent: a letter, perhaps a sign, and digits. -/
def isExponent : List Char → Bool
  | mark :: sign :: rest =>
    (mark == 'e' || mark == 'E') &&
      if sign == '+' || sign == '-' then !rest.isEmpty && rest.all Char.isDigit
      else (sign :: rest).all Char.isDigit
  | _ => false

/-- Whether a text is a number in decimal without a sign: digits with perhaps a point among or
around them, perhaps followed by an exponent. -/
def isDecimalNumber (text : List Char) : Bool :=
  let whole := text.takeWhile Char.isDigit
  let rest := text.dropWhile Char.isDigit
  let (fraction, rest) := match rest with
    | '.' :: after => (after.takeWhile Char.isDigit, after.dropWhile Char.isDigit)
    | _ => ([], rest)
  (!whole.isEmpty || !fraction.isEmpty) && (rest.isEmpty || isExponent rest)

end MonkeySyntax
