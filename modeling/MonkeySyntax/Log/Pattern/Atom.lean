import MonkeySyntax.Text.Blank

/-!
# Atoms of patterns

What one character or one escape of a regular expression stands for, and where it is allowed. A
pattern describes characters or, with a flag turned off, bytes; also then it may describe only what
is text. The tables that tell letters, digits and cases of all scripts apart are not available.
-/

namespace MonkeySyntax

namespace Pattern

/-- How a part of a pattern is read. -/
structure Flags where
  /-- Upper and lower case are the same. -/
  caseless : Bool
  /-- Characters are described, and not bytes. -/
  unicode : Bool
  /-- White space and comments mean nothing. -/
  verbose : Bool
deriving DecidableEq, Repr

/-- Drops white space and comments, which run from a number sign to the end of the line. -/
def skipBlanks : (inComment : Bool) → List Char → List Char
  | _, [] => []
  | true, c :: rest => skipBlanks (c != '\n') rest
  | false, c :: rest =>
    if isWhite c then skipBlanks false rest
    else if c = '#' then skipBlanks true rest
    else c :: rest

namespace Flags

def initial : Flags := ⟨false, true, false⟩

def letters : List Char := ['i', 'm', 's', 'U', 'u', 'R', 'x']

/-- Turns the flag of a letter on or off. The other letters change what a pattern matches, but not
whether it is well formed. -/
def put (flags : Flags) (letter : Char) (on : Bool) : Flags :=
  match letter with
  | 'i' => { flags with caseless := on }
  | 'u' => { flags with unicode := on }
  | 'x' => { flags with verbose := on }
  | _ => flags

/-- Turns on the flags of letters, and off those of letters behind a hyphen. -/
def update : (flags : Flags) → (on : Bool) → List Char → Flags
  | flags, _, [] => flags
  | flags, on, c :: rest =>
    if c = '-' then flags.update false rest else (flags.put c on).update on rest

/-- What is left of a text when all that means nothing has been dropped. -/
def skip (flags : Flags) (text : List Char) : List Char :=
  if flags.verbose then skipBlanks false text else text

/-- The next character that means something. Only the number sign of a comment is passed over, and
where there is no such character the next one of all counts. -/
def peek? (flags : Flags) (text : List Char) : Option Char :=
  if flags.verbose then
    let found := match text.dropWhile isWhite with
      | '#' :: rest => (rest.dropWhile isWhite).head?
      | rest => rest.head?
    found.or text.head?
  else text.head?

end Flags

inductive Atom where
  /-- A character; two hexadecimal digits can also be meant as a byte. -/
  | character (c : Char) (isByte : Bool)
  /-- The start or the end of the text. -/
  | edge
  /-- A place where a word starts or ends, or does not. -/
  | wordEdge
  /-- A class with a letter for its name. -/
  | shorthand (isNegated : Bool)
deriving DecidableEq, Repr

namespace Atom

/-- Whether an atom can stand by itself. To ignore the case of a character takes a table, and so do
classes and edges of words unless bytes are described. What is not in a class of bytes need not be
text. -/
def isAllowed (flags : Flags) : Atom → Bool
  | character c isByte =>
    if flags.unicode then !flags.caseless else !(isByte && 0x80 ≤ c.toNat)
  | edge => true
  | wordEdge => !flags.unicode
  | shorthand isNegated => !flags.unicode && !isNegated

/-- Whether an atom can be a member of a set. A set of bytes has none of the bytes of longer
characters. -/
def isMember (flags : Flags) : Atom → Bool
  | character c _ => if flags.unicode then !flags.caseless else c.toNat < 0x80
  | edge | wordEdge => false
  | shorthand isNegated => !flags.unicode && !isNegated

end Atom

def hexDigit? (c : Char) : Option Nat :=
  if c.isDigit then some (c.toNat - '0'.toNat)
  else if 'a' ≤ c ∧ c ≤ 'f' then some (c.toNat - 'a'.toNat + 10)
  else if 'A' ≤ c ∧ c ≤ 'F' then some (c.toNat - 'A'.toNat + 10)
  else none

/-- Reads so many hexadecimal digits, behind others with the given value. -/
def hexDigits? (flags : Flags) : (count value : Nat) → List Char → Option (Nat × List Char)
  | 0, value, text => some (value, text)
  | count + 1, value, text =>
    match flags.skip text with
    | [] => none
    | c :: rest => do hexDigits? flags count (16 * value + (← hexDigit? c)) rest

/-- Reads a character given by so many hexadecimal digits. -/
def codePoint? (flags : Flags) (count : Nat) (text : List Char) : Option (Atom × List Char) := do
  let (value, rest) ← hexDigits? flags count 0 text
  if value.isValidChar then return (.character (.ofNat value) (count == 2), rest) else none

/-- The character that stands for itself or for a control behind a backslash. -/
def escapedChar? (c : Char) : Option Char :=
  match c with
  | 'a' => some '\x07'
  | 'f' => some '\x0c'
  | 't' => some '\t'
  | 'n' => some '\n'
  | 'r' => some '\r'
  | 'v' => some '\x0b'
  | c => if c.toNat < 0x80 && !c.isAlphanum then some c else none

/-- Reads what follows a backslash. -/
def escape? (flags : Flags) : List Char → Option (Atom × List Char)
  | [] => none
  | c :: rest =>
    match c with
    | 'x' => codePoint? flags 2 rest
    | 'u' => codePoint? flags 4 rest
    | 'U' => codePoint? flags 8 rest
    | 'd' | 's' | 'w' => some (.shorthand false, rest)
    | 'D' | 'S' | 'W' => some (.shorthand true, rest)
    | 'A' | 'z' => some (.edge, rest)
    | 'b' | 'B' | '<' | '>' => some (.wordEdge, rest)
    | c => (escapedChar? c).map fun c => (.character c false, rest)

end Pattern

end MonkeySyntax
