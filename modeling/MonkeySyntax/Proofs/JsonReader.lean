import Mathlib.Data.List.TakeWhile
import MonkeySyntax.Json.Pretty

/-!
# Reading JSON back

A reader for values as they are laid out, with blanks allowed where the layout has line breaks and
indentation. It reads a value back from its layout whatever follows there, as long as no digit
carries on what may be a number. Strings and numbers are told apart from the rest by their first
characters; a list is a run of elements with commas between them, and so is an object, so both come
down to one statement about reading such runs.
-/

namespace MonkeySyntax

namespace Json

/-- Induction where the items of a list, and the values in an object, come before the whole. -/
theorem induct {motive : Json → Prop} (hnull : motive null) (hbool : ∀ value, motive (bool value))
    (hint : ∀ value, motive (int value)) (hstr : ∀ value, motive (str value))
    (harr : ∀ items : List Json, (∀ item ∈ items, motive item) → motive (arr items))
    (hobj : ∀ fields : List (String × Json), (∀ field ∈ fields, motive field.2) →
      motive (obj fields)) :
    ∀ json, motive json
  | .null => hnull
  | .bool value => hbool value
  | .int value => hint value
  | .str value => hstr value
  | .arr items => harr items fun item _ => induct hnull hbool hint hstr harr hobj item
  | .obj fields => hobj fields fun field _ => induct hnull hbool hint hstr harr hobj field.2
termination_by json => sizeOf json
decreasing_by
  · have hlt := List.sizeOf_lt_of_mem ‹item ∈ items›
    simp only [arr.sizeOf_spec]
    omega
  · have hlt := List.sizeOf_lt_of_mem ‹field ∈ fields›
    have hfield : sizeOf field = 1 + sizeOf field.1 + sizeOf field.2 := rfl
    simp only [obj.sizeOf_spec]
    omega

/-! ### The reader -/

def isBlank (c : Char) : Bool := c == ' ' || c == '\n'

def afterBlanks (text : List Char) : List Char := text.dropWhile isBlank

/-- What a character stands for behind a backslash. -/
def unescape? : Char → Option Char
  | '"' => some '"'
  | '\\' => some '\\'
  | 'n' => some '\n'
  | 'r' => some '\r'
  | 't' => some '\t'
  | 'b' => some '\x08'
  | 'f' => some '\x0c'
  | _ => none

def hexValue (digit : Char) : Nat := if digit.isDigit then digit.toNat - 48 else digit.toNat - 87

/-- The text up to the closing quote, and what follows that. -/
def readText? : List Char → Option (List Char × List Char)
  | [] => none
  | '"' :: rest => some ([], rest)
  | '\\' :: 'u' :: '0' :: '0' :: high :: low :: rest => do
    let (text, rest) ← readText? rest
    return (Char.ofNat (16 * hexValue high + hexValue low) :: text, rest)
  | '\\' :: mark :: rest => do
    let c ← unescape? mark
    let (text, rest) ← readText? rest
    return (c :: text, rest)
  | c :: rest => do
    let (text, rest) ← readText? rest
    return (c :: text, rest)

def readNumber? (text : List Char) : Option (Nat × List Char) :=
  let digits := text.takeWhile Char.isDigit
  if digits.isEmpty then none
  else some (Nat.ofDigitChars 10 digits 0, text.dropWhile Char.isDigit)

/-- Elements with commas between them, up to the closing bracket. -/
def readList? {α : Type} (read? : List Char → Option (α × List Char)) (close : Char) :
    Nat → List Char → Option (List α × List Char)
  | 0, _ => none
  | steps + 1, text => do
    let (first, rest) ← read? text
    match afterBlanks rest with
    | [] => none
    | c :: rest =>
      if c = ',' then
        let (others, rest) ← readList? read? close steps rest
        return (first :: others, rest)
      else if c = close then return ([first], rest)
      else none

/-- A name in quotes, a colon and a value. -/
def readField? (read? : List Char → Option (Json × List Char)) (text : List Char) :
    Option ((String × Json) × List Char) :=
  match afterBlanks text with
  | '"' :: rest => do
    let (name, rest) ← readText? rest
    match rest with
    | ':' :: rest =>
      let (value, rest) ← read? rest
      return ((String.ofList name, value), rest)
    | _ => none
  | _ => none

/-- A value that nests less than `fuel` deep. -/
def readValue? : Nat → List Char → Option (Json × List Char)
  | 0, _ => none
  | fuel + 1, text =>
    match afterBlanks text with
    | 'n' :: 'u' :: 'l' :: 'l' :: rest => some (null, rest)
    | 't' :: 'r' :: 'u' :: 'e' :: rest => some (bool true, rest)
    | 'f' :: 'a' :: 'l' :: 's' :: 'e' :: rest => some (bool false, rest)
    | '"' :: rest => do
      let (text, rest) ← readText? rest
      return (str (String.ofList text), rest)
    | '[' :: ']' :: rest => some (arr [], rest)
    | '[' :: rest => do
      let (items, rest) ← readList? (readValue? fuel) ']' rest.length rest
      return (arr items, rest)
    | '\x7b' :: '\x7d' :: rest => some (obj [], rest)
    | '\x7b' :: rest => do
      let (fields, rest) ← readList? (readField? (readValue? fuel)) '\x7d' rest.length rest
      return (obj fields, rest)
    | '-' :: rest => do
      let (n, rest) ← readNumber? rest
      return (int (-n), rest)
    | rest => do
      let (n, rest) ← readNumber? rest
      return (int n, rest)

/-- The value that a text is the layout of. -/
def ofPretty? (text : String) : Option Json :=
  match readValue? (text.length + 1) text.toList with
  | some (json, []) => some json
  | _ => none

/-! ### Blanks, strings and numbers -/

theorem afterBlanks_append {gap text : List Char} (h : ∀ c ∈ gap, isBlank c = true) :
    afterBlanks (gap ++ text) = afterBlanks text :=
  List.dropWhile_append_of_pos h

theorem isBlank_of_mem_lineAt {depth : Nat} : ∀ c ∈ lineAt depth, isBlank c = true := by
  rintro c (_ | ⟨_, hmem⟩)
  · rfl
  · rw [List.eq_of_mem_replicate hmem]
    rfl

theorem hexValue_digitChar : ∀ n < 16, hexValue (Nat.digitChar n) = n := by
  decide

theorem readText?_mark {mark c : Char} (hmark : unescape? mark = some c) (hne : mark ≠ 'u')
    (rest : List Char) : readText? ('\\' :: mark :: rest)
      = (readText? rest).map fun found => (c :: found.1, found.2) := by
  cases h : readText? rest <;> simp [readText?, hmark, hne, h]

theorem readText?_hexEscape {c : Char} (hc : c.toNat < 0x20) (rest : List Char) :
    readText? (hexEscape c ++ rest)
      = (readText? rest).map fun found => (c :: found.1, found.2) := by
  have hcode : 16 * (c.toNat / 16) + c.toNat % 16 = c.toNat := Nat.div_add_mod _ _
  cases h : readText? rest <;>
    simp [hexEscape, readText?, hexValue_digitChar _ (Nat.mod_lt c.toNat _),
      hexValue_digitChar (c.toNat / 16) (by omega), hcode, h]

theorem readText?_plain {c : Char} (hquote : c ≠ '"') (hslash : c ≠ '\\') (rest : List Char) :
    readText? (c :: rest) = (readText? rest).map fun found => (c :: found.1, found.2) := by
  cases h : readText? rest <;> simp [readText?, hslash, h]

theorem readText?_escaped (c : Char) (rest : List Char) :
    readText? (jsonEscaped c ++ rest)
      = (readText? rest).map fun found => (c :: found.1, found.2) := by
  unfold jsonEscaped
  split_ifs with hquote hslash _ _ _ _ _ hcontrol
  any_goals
    subst c
    exact readText?_mark rfl (by decide) rest
  · exact readText?_hexEscape hcontrol rest
  · exact readText?_plain hquote hslash rest

theorem readText?_quoted (text rest : List Char) :
    readText? (text.flatMap jsonEscaped ++ '"' :: rest) = some (text, rest) := by
  induction text with
  | nil => rfl
  | cons c text ih =>
      rw [List.flatMap_cons, List.append_assoc, readText?_escaped, ih]
      rfl

/-- A number in front of the text ends there. -/
def NoDigit (text : List Char) : Prop := ∀ c ∈ text.head?, c.isDigit = false

theorem readNumber?_toDigits (n : Nat) {rest : List Char} (hrest : NoDigit rest) :
    readNumber? (Nat.toDigits 10 n ++ rest) = some (n, rest) := by
  have hdigits : ∀ c ∈ Nat.toDigits 10 n, c.isDigit = true := fun c hmem =>
    Nat.isDigit_of_mem_toDigits (by decide) (by decide) hmem
  have htake : rest.takeWhile Char.isDigit = [] ∧ rest.dropWhile Char.isDigit = rest := by
    cases rest with
    | nil => exact ⟨rfl, rfl⟩
    | cons c rest => simp [hrest c rfl]
  rw [readNumber?, List.takeWhile_append_of_pos hdigits, List.dropWhile_append_of_pos hdigits,
    htake.1, htake.2]
  simp [Nat.ofDigitChars_toDigits]

theorem toList_toString_ofNat (n : Nat) : (toString (Int.ofNat n)).toList = Nat.toDigits 10 n := by
  change (Nat.repr n).toList = _
  rw [Nat.repr_eq_ofList_toDigits, String.toList_ofList]

theorem toList_toString_negSucc (n : Nat) :
    (toString (Int.negSucc n)).toList = '-' :: Nat.toDigits 10 (n + 1) := by
  change ("-" ++ Nat.repr (n + 1)).toList = _
  simp [Nat.repr_eq_ofList_toDigits]

/-! ### Lists -/

/-- The texts of some elements, with commas between them. -/
def separated {α : Type} (write : α → List Char) (first : α) (others : List α) : List Char :=
  write first ++ others.flatMap fun a => ',' :: write a

section Separated

variable {α : Type} {write : α → List Char} {first : α} {others : List α}

theorem separated_cons (next : α) :
    separated write first (next :: others) = write first ++ ',' :: separated write next others := by
  simp [separated]

theorem length_write_le_separated {a : α} (h : a ∈ first :: others) :
    (write a).length ≤ (separated write first others).length := by
  induction others generalizing first with
  | nil =>
      rw [List.mem_singleton.mp h]
      simp [separated]
  | cons next others ih =>
      rw [separated_cons, List.length_append, List.length_cons]
      rcases List.mem_cons.mp h with rfl | h
      · omega
      · have hle := ih h
        omega

theorem length_others_le_separated : others.length ≤ (separated write first others).length := by
  induction others generalizing first with
  | nil => simp
  | cons next others ih =>
      have hle := @ih next
      rw [separated_cons, List.length_append, List.length_cons, List.length_cons]
      omega

end Separated

def itemLine (depth : Nat) (item : Json) : List Char := lineAt depth ++ item.layout depth

def fieldLine (depth : Nat) (field : String × Json) : List Char :=
  lineAt depth ++ jsonQuoted field.1 ++ [':', ' '] ++ field.2.layout depth

theorem layoutItems_eq (depth : Nat) (items : List Json) :
    layoutItems depth items = items.flatMap fun item => ',' :: itemLine depth item := by
  induction items with
  | nil => rfl
  | cons item items ih => simp [layoutItems, itemLine, ih]

theorem layoutFields_eq (depth : Nat) (fields : List (String × Json)) :
    layoutFields depth fields = fields.flatMap fun field => ',' :: fieldLine depth field := by
  induction fields with
  | nil => rfl
  | cons field fields ih => simp [layoutFields, fieldLine, ih]

theorem layout_arr_cons (depth : Nat) (first : Json) (others : List Json) :
    (arr (first :: others)).layout depth
      = '[' :: (separated (itemLine (depth + 1)) first others ++ (lineAt depth ++ [']'])) := by
  simp [layout, layoutItems_eq, separated, itemLine]

theorem layout_obj_cons (depth : Nat) (first : String × Json) (others : List (String × Json)) :
    (obj (first :: others)).layout depth
      = '\x7b' :: (separated (fieldLine (depth + 1)) first others ++
        (lineAt depth ++ ['\x7d'])) := by
  simp [layout, layoutFields_eq, separated, fieldLine]

theorem noDigit_lineAt (depth : Nat) (rest : List Char) : NoDigit (lineAt depth ++ rest) := by
  rintro c ⟨⟩
  rfl

/-- If each element is read back, so is a list of them. -/
theorem readList?_separated {α : Type} {read? : List Char → Option (α × List Char)}
    {write : α → List Char} {close : Char} {first : α} {others : List α} {steps depth : Nat}
    (hread : ∀ a ∈ first :: others, ∀ rest, NoDigit rest → read? (write a ++ rest) = some (a, rest))
    (hcomma : close ≠ ',') (hblank : isBlank close = false) (hsteps : others.length < steps)
    (rest : List Char) :
    readList? read? close steps (separated write first others ++ (lineAt depth ++ close :: rest))
      = some (first :: others, rest) := by
  induction others generalizing first steps with
  | nil =>
      obtain ⟨more, rfl⟩ : ∃ more, steps = more + 1 :=
        Nat.exists_eq_succ_of_ne_zero (Nat.ne_zero_of_lt hsteps)
      have hfirst := hread first (by simp) _ (noDigit_lineAt depth (close :: rest))
      have hclose : afterBlanks (lineAt depth ++ close :: rest) = close :: rest := by
        rw [afterBlanks_append isBlank_of_mem_lineAt]
        exact List.dropWhile_cons_of_neg (by simp [hblank])
      rw [separated, List.flatMap_nil, List.append_nil, readList?, hfirst]
      simp [hclose, hcomma]
  | cons next others ih =>
      obtain ⟨more, rfl⟩ : ∃ more, steps = more + 1 :=
        Nat.exists_eq_succ_of_ne_zero (Nat.ne_zero_of_lt hsteps)
      rw [List.forall_mem_cons] at hread
      have hothers := ih hread.2 (Nat.lt_of_succ_lt_succ hsteps)
      rw [separated_cons, List.append_assoc, List.cons_append, readList?,
        hread.1 _ (by rintro c ⟨⟩; rfl)]
      simp [afterBlanks, isBlank, hothers]

/-! ### Values -/

theorem readValue?_append {fuel : Nat} {gap text : List Char} (h : ∀ c ∈ gap, isBlank c = true) :
    readValue? fuel (gap ++ text) = readValue? fuel text := by
  cases fuel with
  | zero => rfl
  | succ fuel => rw [readValue?, afterBlanks_append h, ← readValue?]

theorem readValue?_openBracket {fuel : Nat} {rest : List Char} (h : ∀ c ∈ rest.head?, c ≠ ']') :
    readValue? (fuel + 1) ('[' :: rest) = (readList? (readValue? fuel) ']' rest.length rest).map
      fun found => (arr found.1, found.2) := by
  cases rest with
  | nil => rfl
  | cons c rest =>
      have hc : c ≠ ']' := h c rfl
      cases hlist : readList? (readValue? fuel) ']' (c :: rest).length (c :: rest) <;>
        simp_all [readValue?, afterBlanks, isBlank]

theorem readValue?_openBrace {fuel : Nat} {rest : List Char} (h : ∀ c ∈ rest.head?, c ≠ '\x7d') :
    readValue? (fuel + 1) ('\x7b' :: rest)
      = (readList? (readField? (readValue? fuel)) '\x7d' rest.length rest).map
        fun found => (obj found.1, found.2) := by
  cases rest with
  | nil => rfl
  | cons c rest =>
      have hc : c ≠ '\x7d' := h c rfl
      cases hlist : readList? (readField? (readValue? fuel)) '\x7d' (c :: rest).length
        (c :: rest) <;> simp_all [readValue?, afterBlanks, isBlank]

theorem readValue?_digit {fuel : Nat} {c : Char} {rest : List Char} (hc : c.isDigit = true) :
    readValue? (fuel + 1) (c :: rest)
      = (readNumber? (c :: rest)).map fun found => (int found.1, found.2) := by
  have hother : ∀ mark : Char, mark.isDigit = false → c ≠ mark := by
    rintro mark hmark rfl
    rw [hc] at hmark
    cases hmark
  have hblanks : afterBlanks (c :: rest) = c :: rest :=
    List.dropWhile_cons_of_neg (by simp [isBlank, hother])
  -- a digit is none of the first characters that tell the other values
  rw [readValue?, hblanks]
  cases hnumber : readNumber? (c :: rest) <;> split <;> simp_all

theorem readField?_fieldLine {read? : List Char → Option (Json × List Char)} {depth : Nat}
    {field : String × Json} {rest : List Char}
    (h : read? (' ' :: (field.2.layout depth ++ rest)) = some (field.2, rest)) :
    readField? read? (fieldLine depth field ++ rest) = some (field, rest) := by
  have hname : afterBlanks (fieldLine depth field ++ rest)
      = '"' :: (field.1.toList.flatMap jsonEscaped ++
        '"' :: ':' :: ' ' :: (field.2.layout depth ++ rest)) := by
    simp only [fieldLine, List.append_assoc]
    rw [afterBlanks_append isBlank_of_mem_lineAt]
    simp [jsonQuoted, afterBlanks, isBlank]
  rw [readField?, hname]
  simp [readText?_quoted, h]

/-- Laid out in front of what does not carry a number on, the value is read back. -/
def ReadsBack (json : Json) : Prop :=
  ∀ (depth fuel : Nat) (rest : List Char), (json.layout depth).length < fuel → NoDigit rest →
    readValue? fuel (json.layout depth ++ rest) = some (json, rest)

theorem readsBack_of_succ {json : Json}
    (h : ∀ (depth fuel : Nat) (rest : List Char), (json.layout depth).length ≤ fuel → NoDigit rest →
      readValue? (fuel + 1) (json.layout depth ++ rest) = some (json, rest)) : json.ReadsBack := by
  intro depth fuel rest hfuel hrest
  obtain ⟨more, rfl⟩ : ∃ more, fuel = more + 1 :=
    Nat.exists_eq_succ_of_ne_zero (Nat.ne_zero_of_lt hfuel)
  exact h depth more rest (Nat.le_of_lt_succ hfuel) hrest

theorem readsBack_null : null.ReadsBack :=
  readsBack_of_succ fun _ _ _ _ _ => rfl

theorem readsBack_bool (value : Bool) : (bool value).ReadsBack := by
  cases value <;> exact readsBack_of_succ fun _ _ _ _ _ => rfl

theorem readsBack_str (text : String) : (str text).ReadsBack := by
  refine readsBack_of_succ fun depth fuel rest _ _ => ?_
  simp [layout, jsonQuoted, readValue?, afterBlanks, isBlank, readText?_quoted]

theorem readsBack_int (value : Int) : (int value).ReadsBack := by
  refine readsBack_of_succ fun depth fuel rest _ hrest => ?_
  cases value with
  | ofNat n =>
      have hne : Nat.toDigits 10 n ≠ [] := Nat.toDigits_ne_nil
      obtain ⟨c, digits, hdigits⟩ := List.exists_cons_of_ne_nil hne
      have hc : c.isDigit = true :=
        Nat.isDigit_of_mem_toDigits (by decide) (by decide) (hdigits ▸ List.mem_cons_self)
      have hnumber := readNumber?_toDigits n hrest
      rw [hdigits] at hnumber
      rw [layout, toList_toString_ofNat, hdigits, List.cons_append, readValue?_digit hc,
        ← List.cons_append, hnumber]
      rfl
  | negSucc n =>
      rw [layout, toList_toString_negSucc]
      simp [readValue?, afterBlanks, isBlank, readNumber?_toDigits _ hrest, Int.negSucc_eq]

/-- The list between brackets of either kind, where there is fuel for each of its elements. -/
theorem readList?_layout {α : Type} {read? : List Char → Option (α × List Char)}
    {write : α → List Char} {close : Char} {first : α} {others : List α} {depth : Nat}
    (hread : ∀ a ∈ first :: others, ∀ rest, NoDigit rest → read? (write a ++ rest) = some (a, rest))
    (hcomma : close ≠ ',') (hblank : isBlank close = false) (rest : List Char) :
    readList? read? close
        (separated write first others ++ (lineAt depth ++ close :: rest)).length
        (separated write first others ++ (lineAt depth ++ close :: rest))
      = some (first :: others, rest) := by
  refine readList?_separated hread hcomma hblank ?_ rest
  have hle := @length_others_le_separated _ write first others
  simp only [List.length_append, List.length_cons]
  omega

theorem readsBack_arr {items : List Json} (h : ∀ item ∈ items, item.ReadsBack) :
    (arr items).ReadsBack := by
  cases items with
  | nil => exact readsBack_of_succ fun _ _ _ _ _ => rfl
  | cons first others =>
      refine readsBack_of_succ fun depth fuel rest hfuel _ => ?_
      have hread : ∀ item ∈ first :: others, ∀ rest, NoDigit rest →
          readValue? fuel (itemLine (depth + 1) item ++ rest) = some (item, rest) := by
        intro item hmem rest hrest
        have hle := @length_write_le_separated _ (itemLine (depth + 1)) _ _ _ hmem
        simp only [layout_arr_cons, List.length_cons, List.length_append] at hfuel
        rw [itemLine, List.length_append] at hle
        rw [itemLine, List.append_assoc, readValue?_append isBlank_of_mem_lineAt]
        exact h item hmem _ _ _ (by omega) hrest
      have htext : (arr (first :: others)).layout depth ++ rest
          = '[' :: (separated (itemLine (depth + 1)) first others ++
            (lineAt depth ++ ']' :: rest)) := by
        simp [layout_arr_cons]
      rw [htext, readValue?_openBracket (by rintro c ⟨⟩; decide),
        readList?_layout hread (by decide) rfl rest]
      rfl

theorem readsBack_obj {fields : List (String × Json)} (h : ∀ field ∈ fields, field.2.ReadsBack) :
    (obj fields).ReadsBack := by
  cases fields with
  | nil => exact readsBack_of_succ fun _ _ _ _ _ => rfl
  | cons first others =>
      refine readsBack_of_succ fun depth fuel rest hfuel _ => ?_
      have hread : ∀ field ∈ first :: others, ∀ rest, NoDigit rest →
          readField? (readValue? fuel) (fieldLine (depth + 1) field ++ rest)
            = some (field, rest) := by
        intro field hmem rest hrest
        have hle := @length_write_le_separated _ (fieldLine (depth + 1)) _ _ _ hmem
        simp only [layout_obj_cons, List.length_cons, List.length_append] at hfuel
        rw [fieldLine, List.length_append] at hle
        refine readField?_fieldLine ?_
        rw [← List.singleton_append, readValue?_append (by simp [isBlank])]
        exact h field hmem _ _ _ (by omega) hrest
      have htext : (obj (first :: others)).layout depth ++ rest
          = '\x7b' :: (separated (fieldLine (depth + 1)) first others ++
            (lineAt depth ++ '\x7d' :: rest)) := by
        simp [layout_obj_cons]
      rw [htext, readValue?_openBrace (by rintro c ⟨⟩; decide),
        readList?_layout hread (by decide) rfl rest]
      rfl

theorem readsBack (json : Json) : json.ReadsBack := by
  induction json using Json.induct with
  | hnull => exact readsBack_null
  | hbool value => exact readsBack_bool value
  | hint value => exact readsBack_int value
  | hstr text => exact readsBack_str text
  | harr items ih => exact readsBack_arr ih
  | hobj fields ih => exact readsBack_obj ih

/-- Every value is read back from its layout. -/
theorem ofPretty?_pretty (json : Json) : ofPretty? json.pretty = some json := by
  have hread := json.readsBack 0 ((json.layout 0).length + 1) [] (Nat.lt_succ_self _)
    (by rintro c ⟨⟩)
  rw [List.append_nil] at hread
  have hlength : (String.ofList (json.layout 0)).length = (json.layout 0).length := by simp
  rw [ofPretty?, pretty, hlength, String.toList_ofList, hread]

end Json

end MonkeySyntax
