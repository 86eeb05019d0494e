import MonkeySyntax.Source.Span
import MonkeySyntax.Text.Cluster

/-!
# Lines with corrections

A backspace in a line takes back the cluster before it. Main statement: a line without a backspace
is kept as it is.
-/

namespace MonkeySyntax

def backspace : Char := '\x08'

/-- A line as typed so far, last character first, and the sizes in bytes of the clusters that can
be taken back, the last one first. A size is kept in a single byte. -/
structure TypedLine where
  text : List Char
  sizes : List UInt8
deriving DecidableEq, Repr

namespace TypedLine

def empty : TypedLine := ⟨[], []⟩

def add (line : TypedLine) (cluster : List Char) : TypedLine :=
  ⟨cluster.reverse ++ line.text, (byteLength cluster).toUInt8 :: line.sizes⟩

/-- Takes back the last cluster, if there is one. -/
def erase (line : TypedLine) : TypedLine :=
  match line.sizes with
  | [] => line
  | size :: rest =>
    match splitBytes line.text size.toNat with
    | some (_, kept) => ⟨kept, rest⟩
    | none => ⟨line.text, rest⟩

def type (line : TypedLine) (cluster : List Char) : TypedLine :=
  if cluster = [backspace] then line.erase else line.add cluster

end TypedLine

/-- What remains of a line when its backspaces have done their work. -/
def corrected (line : List Char) : List Char :=
  ((clusters line).foldl TypedLine.type .empty).text.reverse

theorem text_foldl_type_of_forall_ne (pieces : List (List Char)) (line : TypedLine)
    (h : ∀ piece ∈ pieces, piece ≠ [backspace]) :
    (pieces.foldl TypedLine.type line).text = pieces.flatten.reverse ++ line.text := by
  induction pieces generalizing line with
  | nil => simp
  | cons piece pieces ih =>
    have hpiece : piece ≠ [backspace] := h piece (by simp)
    have hrest := ih (line.add piece) fun other hother => h other (by simp [hother])
    rw [List.foldl_cons, TypedLine.type, if_neg hpiece, hrest]
    simp [TypedLine.add]

theorem corrected_of_not_mem {line : List Char} (h : backspace ∉ line) : corrected line = line := by
  have hne : ∀ piece ∈ clusters line, piece ≠ [backspace] := by
    intro piece hpiece heq
    apply h
    rw [← flatten_clusters line]
    exact List.mem_flatten.mpr ⟨piece, hpiece, by simp [heq]⟩
  simp [corrected, text_foldl_type_of_forall_ne _ _ hne, TypedLine.empty, flatten_clusters]

end MonkeySyntax
