import MonkeySyntax.Source.Position

/-!
# Stretches of a text

A `Span` is a half-open range of byte offsets together with the line and column of its start.
-/

namespace MonkeySyntax

structure Span where
  start : Nat
  stop : Nat
  line : UInt32
  column : UInt32
deriving DecidableEq, Repr, Inhabited

/-- The first `n` bytes of `cs` and what follows them, if a character ends exactly there. -/
def splitBytes : List Char → Nat → Option (List Char × List Char)
  | cs, 0 => some ([], cs)
  | [], _ + 1 => none
  | c :: cs, n + 1 =>
    if c.utf8Size ≤ n + 1 then
      (splitBytes cs (n + 1 - c.utf8Size)).map fun (before, rest) => (c :: before, rest)
    else none

theorem append_eq_of_splitBytes {cs before rest : List Char} {n : Nat}
    (h : splitBytes cs n = some (before, rest)) : before ++ rest = cs := by
  fun_induction splitBytes cs n generalizing before rest with
  | case1 cs => simp_all
  | case2 => simp at h
  | case3 c cs n _ ih =>
    obtain ⟨⟨left, right⟩, hsplit, heq⟩ := Option.map_eq_some_iff.mp h
    obtain ⟨rfl, rfl⟩ := Prod.mk.inj heq
    simp [ih hsplit]
  | case4 => simp at h

theorem byteLength_of_splitBytes {cs before rest : List Char} {n : Nat}
    (h : splitBytes cs n = some (before, rest)) : byteLength before = n := by
  fun_induction splitBytes cs n generalizing before rest with
  | case1 cs => simp_all
  | case2 => simp at h
  | case3 c cs n hfits ih =>
    obtain ⟨⟨left, right⟩, hsplit, heq⟩ := Option.map_eq_some_iff.mp h
    obtain ⟨rfl, rfl⟩ := Prod.mk.inj heq
    rw [byteLength_cons, ih hsplit]
    omega
  | case4 => simp at h

/-- The characters from byte `start` up to byte `stop`, provided these are in order and between
characters. -/
def bytesBetween? (cs : List Char) (start stop : Nat) : Option (List Char) :=
  if start ≤ stop then do
    let (_, rest) ← splitBytes cs start
    let (inside, _) ← splitBytes rest (stop - start)
    return inside
  else none

namespace Span

def zero : Span := ⟨0, 0, 0, 0⟩

def between (first last : Position) : Span :=
  ⟨first.offset, last.offset, first.line, first.column⟩

def length (span : Span) : Nat := span.stop - span.start

def isEmpty (span : Span) : Bool := span.start == span.stop

/-- The span covering both, placed at the line and column of the one that starts first. -/
def merge (a b : Span) : Span :=
  let first := if a.start ≤ b.start then a else b
  ⟨min a.start b.start, max a.stop b.stop, first.line, first.column⟩

/-- The text of the span, provided its ends are in order, inside the source and between
characters. -/
def slice? (span : Span) (source : String) : Option String :=
  (bytesBetween? source.toList span.start span.stop).map String.ofList

def text (span : Span) : String := toString span.line ++ ":" ++ toString span.column

end Span

end MonkeySyntax
