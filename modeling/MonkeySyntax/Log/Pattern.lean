import MonkeySyntax.Log.Pattern.Set
import MonkeySyntax.Text.Alphanumeric
import MonkeySyntax.Text.Decimal

/-!
# Patterns for values

A directive may ask for a value by a regular expression. Whether its parts match is never asked,
only whether it is well formed: groups are closed, repetitions have something to repeat, and nothing
is nested too deeply. Repetitions cannot be counted, as a closing brace ends the pattern.
-/

namespace MonkeySyntax

namespace Pattern

/-- How deep the parts of a pattern may be nested. -/
def maxNesting : Nat := 250

structure Piece where
  depth : Nat
  isRepeatable : Bool
deriving DecidableEq, Repr

/-- What has been read of a group. -/
structure Level where
  /-- The depths of the finished alternatives. -/
  alternatives : List Nat
  /-- The pieces of the last alternative, the last one first. -/
  pieces : List Piece
deriving DecidableEq, Repr

namespace Level

def empty : Level := ⟨[], []⟩

def add (level : Level) (piece : Piece) : Level :=
  { level with pieces := piece :: level.pieces }

def lastDepth (level : Level) : Nat := depthOf (level.pieces.map Piece.depth)

def depth (level : Level) : Nat := depthOf (level.lastDepth :: level.alternatives)

def alternate (level : Level) : Level := ⟨level.lastDepth :: level.alternatives, []⟩

/-- Repeats the last piece. -/
def repeated? (level : Level) : Option Level :=
  match level.pieces with
  | ⟨depth, true⟩ :: rest => some { level with pieces := ⟨depth + 1, true⟩ :: rest }
  | _ => none

end Level

structure Reader where
  flags : Flags
  level : Level
  /-- The groups around this one, the innermost first, with the flags that hold again in them. -/
  outer : List (Flags × Level)
  /-- The names that groups have been given. -/
  names : List (List Char)
deriving DecidableEq, Repr

namespace Reader

def start : Reader := ⟨.initial, .empty, [], []⟩

def add (reader : Reader) (depth : Nat) : Reader :=
  { reader with level := reader.level.add ⟨depth, true⟩ }

/-- Opens a group that is read with the given flags. -/
def enter (reader : Reader) (flags : Flags) : Reader :=
  { reader with
    flags, level := .empty
    outer := (reader.flags, reader.level) :: reader.outer }

/-- Closes a group, which is then a piece of the one around it. -/
def leave? (reader : Reader) : Option Reader :=
  match reader.outer with
  | [] => none
  | (flags, level) :: outer =>
    some { reader with flags, level := level.add ⟨reader.level.depth + 1, true⟩, outer }

/-- Whether letters and hyphen can set flags: none occurs twice, and the hyphen is not the last. -/
def areFlags (read : List Char) : Bool :=
  read.all (fun c => c = '-' || Flags.letters.contains c) && read.eraseDups.length = read.length &&
    read.getLast? ≠ some '-'

/-- Reads the flags of a group. Without a colon behind them they hold for the rest of the group in
which they stand. -/
def flagged? (reader : Reader) (text : List Char) : Option (Reader × List Char) :=
  let isEnd := fun c => c = ':' || c = ')'
  let read := text.takeWhile (!isEnd ·)
  let flags := reader.flags.update true read
  if areFlags read then
    match text.dropWhile (!isEnd ·) with
    | ':' :: rest => some (reader.enter flags, rest)
    | ')' :: rest =>
      if read.isEmpty then none
      else some ({ reader with flags, level := reader.level.add ⟨0, false⟩ }, rest)
    | _ => none
  else none

def isName : List Char → Bool
  | [] => false
  | c :: rest =>
    (c = '_' || isAlphabetic c) &&
      rest.all fun c => c = '_' || c = '.' || c = '[' || c = ']' || isAlphanumeric c

/-- Reads the name of a group, which no other group may have. -/
def named? (reader : Reader) (text : List Char) : Option (Reader × List Char) :=
  let name := text.takeWhile (· != '>')
  match text.dropWhile (· != '>') with
  | _ :: rest =>
    if isName name && !reader.names.contains name then
      some ({ reader with names := name :: reader.names }.enter reader.flags, rest)
    else none
  | [] => none

/-- Reads the start of a group behind its parenthesis. Looking ahead or behind is not possible. -/
def group? (reader : Reader) (text : List Char) : Option (Reader × List Char) :=
  match reader.flags.skip text with
  | '?' :: '=' :: _ | '?' :: '!' :: _ => none
  | '?' :: '<' :: '=' :: _ | '?' :: '<' :: '!' :: _ => none
  | '?' :: 'P' :: '<' :: rest | '?' :: '<' :: rest => reader.named? rest
  | '?' :: rest => reader.flagged? rest
  | rest => some (reader.enter reader.flags, rest)

def atom? (reader : Reader) (atom : Atom) : Option Reader :=
  if atom.isAllowed reader.flags then some (reader.add 0) else none

/-- Reads the next piece, or what opens, divides or closes a group. -/
def step? (reader : Reader) : List Char → Option (Reader × List Char)
  | [] => none
  | c :: rest =>
    match c with
    | '(' => reader.group? rest
    | ')' => reader.leave?.map (·, rest)
    | '|' => some ({ reader with level := reader.level.alternate }, rest)
    | '[' => do
      let (depth, rest) ← set? reader.flags rest
      return (reader.add depth, rest)
    | '*' | '+' | '?' => do
      let level ← reader.level.repeated?
      return ({ reader with level }, if rest.head? = some '?' then rest.tail else rest)
    | '\x7b' => none
    | '.' => if reader.flags.unicode then some (reader.add 0, rest) else none
    | '^' | '$' => some (reader.add 0, rest)
    | '\\' => do
      let (atom, rest) ← escape? reader.flags rest
      return (← reader.atom? atom, rest)
    | c => (reader.atom? (.character c false)).map (·, rest)

def isComplete (reader : Reader) : Bool :=
  reader.outer.isEmpty && reader.level.depth ≤ maxNesting

/-- Reads a text to its end. Every step takes a character, so the length of the text is fuel
enough. -/
def run : (fuel : Nat) → Reader → List Char → Bool
  | fuel, reader, text =>
    match fuel, reader.flags.skip text with
    | _, [] => reader.isComplete
    | 0, _ => false
    | fuel + 1, text =>
      match reader.step? text with
      | some (reader, rest) => run fuel reader rest
      | none => false

end Reader

/-- Whether a text is a regular expression. -/
def isWellFormed (text : List Char) : Bool := Reader.start.run text.length text

/-- Whether a text asks for a value: it is a regular expression or a number. Of the numbers only
those with a plus sign are not regular expressions anyway. -/
def asksForValue (text : List Char) : Bool :=
  isWellFormed text ||
    match text with
    | '+' :: number =>
      isDecimalNumber number ||
        ["inf", "infinity", "nan"].contains (String.ofList (number.map Char.toLower))
    | _ => false

end Pattern

end MonkeySyntax
