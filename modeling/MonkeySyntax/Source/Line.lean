import MonkeySyntax.Source.Position

/-!
# Lines of a source

A line ends after its line feed, and the last line, perhaps empty, has none.
-/

namespace MonkeySyntax

def splitLines : List Char → List (List Char)
  | [] => [[]]
  | c :: cs =>
    match splitLines cs with
    | [] => [[c]]
    | line :: rest => if c = '\n' then [c] :: line :: rest else (c :: line) :: rest

theorem splitLines_ne_nil (cs : List Char) : splitLines cs ≠ [] := by
  cases cs with
  | nil => simp [splitLines]
  | cons c cs =>
    rw [splitLines]
    split
    · simp
    · split <;> simp

/-- No character is lost by cutting a text into lines. -/
theorem flatten_splitLines (cs : List Char) : (splitLines cs).flatten = cs := by
  induction cs with
  | nil => rfl
  | cons c cs ih =>
    rw [splitLines]
    split
    · rename_i h
      exact absurd h (splitLines_ne_nil cs)
    · rename_i line rest h
      rw [h] at ih
      split <;> simp_all

/-- A line with its number, from one, and the offset of its first byte. -/
structure SourceLine where
  number : Nat
  start : Nat
  chars : List Char

namespace SourceLine

/-- The line among `lines` that holds the byte at `offset`; the last one holds all beyond it. -/
def locate (offset : Nat) : (number start : Nat) → (lines : List (List Char)) → SourceLine
  | number, start, [] => ⟨number, start, []⟩
  | number, start, [line] => ⟨number, start, line⟩
  | number, start, line :: rest =>
    if offset < start + byteLength line then ⟨number, start, line⟩
    else locate offset (number + 1) (start + byteLength line) rest

def ofOffset (source : String) (offset : Nat) : SourceLine :=
  locate offset 1 0 (splitLines source.toList)

/-- How many characters of a line end within its first `bytes` bytes. -/
def charsWithin : (bytes : Nat) → List Char → Nat
  | _, [] => 0
  | bytes, c :: cs => if c.utf8Size ≤ bytes then charsWithin (bytes - c.utf8Size) cs + 1 else 0

/-- The column of the byte at `offset`, from one. -/
def column (line : SourceLine) (offset : Nat) : Nat :=
  charsWithin (offset - line.start) line.chars + 1

/-- The characters that are shown: without the line break and trailing NULs. -/
def shown (line : SourceLine) : List Char :=
  (line.chars.reverse.dropWhile fun c => c == '\n' || c == '\r' || c == '\x00').reverse

end SourceLine

end MonkeySyntax
