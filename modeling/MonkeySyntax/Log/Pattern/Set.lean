import MonkeySyntax.Log.Pattern.Atom

/-!
# Sets of characters in patterns

A set is written in brackets: characters, ranges, classes with a name and other sets, united by
standing side by side and otherwise combined by operators of two characters. Reading a set gives the
depth to which its parts are nested.
-/

namespace MonkeySyntax

namespace Pattern

/-- The depth of a whole with parts of the given depths. A single part is the whole. -/
def depthOf : List Nat → Nat
  | [] => 0
  | [depth] => depth
  | depths => 1 + depths.foldl max 0

inductive SetPlace where
  | opened
  /-- Behind the sign that makes the set a complement. -/
  | complement
  /-- Behind hyphens at the start, which stand for themselves. -/
  | hyphens
  | inside
deriving DecidableEq, Repr

/-- A set of which not all has been read. -/
structure OpenSet where
  place : SetPlace
  /-- The depth of what is to the left of the last operator. -/
  left : Option Nat
  /-- The depths of the members behind it, the last one first. -/
  members : List Nat
deriving DecidableEq, Repr

namespace OpenSet

def start : OpenSet := ⟨.opened, none, []⟩

def add (set : OpenSet) (depth : Nat) : OpenSet :=
  { set with place := .inside, members := depth :: set.members }

/-- The depth of what has been read. -/
def depth (set : OpenSet) : Nat :=
  match set.left with
  | none => depthOf set.members
  | some left => depthOf [left, depthOf set.members]

/-- Takes what has been read for the left side of an operator. -/
def combine (set : OpenSet) : OpenSet := ⟨.inside, some set.depth, []⟩

end OpenSet

def classNames : List String :=
  ["alnum", "alpha", "ascii", "blank", "cntrl", "digit", "graph", "lower", "print", "punct",
    "space", "upper", "word", "xdigit"]

/-- Reads a class with a name behind its bracket, and whether its complement is meant. -/
def namedClass? : List Char → Option (Bool × List Char)
  | ':' :: '^' :: rest => (named? rest).map (true, ·)
  | ':' :: rest => (named? rest).map (false, ·)
  | _ => none
where
  named? (text : List Char) : Option (List Char) :=
    match text.dropWhile (· != ':') with
    | ':' :: ']' :: rest =>
      if classNames.contains (String.ofList (text.takeWhile (· != ':'))) then some rest else none
    | _ => none

/-- Whether a class with a name can be a member of a set. -/
def Flags.allowsNamed (flags : Flags) (isNegated : Bool) : Bool :=
  if flags.unicode then !flags.caseless else !isNegated

/-- Reads a character or an escape in a set. -/
def setAtom? (flags : Flags) : List Char → Option (Atom × List Char)
  | [] => none
  | '\\' :: rest => escape? flags rest
  | c :: rest => some (.character c false, rest)

/-- The two ends of a range have to be characters in order. -/
def isRange (flags : Flags) (low high : Atom) : Bool :=
  low.isMember flags && high.isMember flags &&
    match low, high with
    | .character low _, .character high _ => low ≤ high
    | _, _ => false

/-- Reads a member that is no set or named class. A hyphen behind it makes it the start of a range,
unless the set ends there or another hyphen follows. -/
def member? (flags : Flags) (text : List Char) : Option (List Char) := do
  let (low, rest) ← setAtom? flags text
  match flags.skip rest with
  | '-' :: after =>
    if flags.peek? after = some ']' || flags.peek? after = some '-' then
      if low.isMember flags then some ('-' :: after) else none
    else
      let (high, rest) ← setAtom? flags (flags.skip after)
      if isRange flags low high then some rest else none
  | rest => if low.isMember flags then some rest else none

/-- Whether a character can be a member of a set. -/
def Flags.allowsMember (flags : Flags) (c : Char) : Bool :=
  (Atom.character c false).isMember flags

/-- Reads the rest of a set that is inside of others, the innermost one first. -/
def readSet? (flags : Flags) : (fuel : Nat) → OpenSet → List OpenSet → List Char →
    Option (Nat × List Char)
  | 0, _, _, _ => none
  | fuel + 1, set, outer, text =>
    match set.place, flags.skip text with
    | _, [] => none
    | .opened, '^' :: rest =>
      if flags.unicode then readSet? flags fuel { set with place := .complement } outer rest
      else none
    | .opened, ']' :: rest | .complement, ']' :: rest =>
      if flags.allowsMember ']' then readSet? flags fuel (set.add 0) outer rest else none
    | .opened, '-' :: rest | .complement, '-' :: rest | .hyphens, '-' :: rest =>
      if flags.allowsMember '-' then
        readSet? flags fuel { set.add 0 with place := .hyphens } outer rest
      else none
    | _, ']' :: rest =>
      match outer with
      | [] => some (1 + set.depth, rest)
      | enclosing :: outer => readSet? flags fuel (enclosing.add (1 + set.depth)) outer rest
    | _, '[' :: rest =>
      match namedClass? rest with
      | some (isNegated, rest) =>
        if flags.allowsNamed isNegated then readSet? flags fuel (set.add 0) outer rest else none
      | none => readSet? flags fuel .start ({ set with place := .inside } :: outer) rest
    | _, '&' :: '&' :: rest | _, '-' :: '-' :: rest | _, '~' :: '~' :: rest =>
      readSet? flags fuel set.combine outer rest
    | _, text =>
      match member? flags text with
      | some rest => readSet? flags fuel (set.add 0) outer rest
      | none => none

/-- Reads a set behind its bracket. -/
def set? (flags : Flags) (text : List Char) : Option (Nat × List Char) :=
  readSet? flags text.length .start [] text

end Pattern

end MonkeySyntax
