/-!
# Files

Why a file cannot be read, and the reading of a file in a directory held in memory.
-/

namespace MonkeySyntax

inductive ReadFailure where
  | notFound | isDirectory | notDirectory | nameTooLong | notText
deriving DecidableEq, Repr

def ReadFailure.message : ReadFailure → String
  | notFound => "No such file or directory (os error 2)"
  | notDirectory => "Not a directory (os error 20)"
  | isDirectory => "Is a directory (os error 21)"
  | nameTooLong => "File name too long (os error 36)"
  | notText => "stream did not contain valid UTF-8"

/-- A directory with files and folders in it, given by their paths. Paths that start with a slash
lead from the root, to what is elsewhere; so does the path of the directory itself. -/
structure Directory where
  location : String
  files : List (String × ByteArray)
  folders : List String

namespace Directory

/-- The greatest number of bytes in a name. -/
def maxName : Nat := 255

/-- The greatest number of bytes in a path. -/
def maxPath : Nat := 4095

/-- The names along a path; where it starts with a slash the first of them is empty. -/
def names (path : String) : List String := path.splitOn "/"

/-- The root has the empty name. -/
def root : List String := [""]

/-- The names along a path from the root. -/
def fromRoot (directory : Directory) (path : String) : List String :=
  if path.startsWith "/" then names path else names directory.location ++ names path

/-- Whether there is a folder, be it only for what is in it. -/
def hasFolder (directory : Directory) (place : List String) : Bool :=
  place.isPrefixOf (names directory.location) ||
    directory.folders.any (fun path => place.isPrefixOf (directory.fromRoot path)) ||
    directory.files.any fun (path, _) =>
      place.isPrefixOf (directory.fromRoot path) && place ≠ directory.fromRoot path

def contents? (directory : Directory) (place : List String) : Option ByteArray :=
  (directory.files.find? fun (path, _) => directory.fromRoot path = place).map Prod.snd

/-- The folder around a folder; the root is its own. -/
def around (place : List String) : List String := if place = root then root else place.dropLast

/-- Follows the names along a path from the folder at `place`. -/
def follow (directory : Directory) : (place path : List String) → Except ReadFailure ByteArray
  | _, [] => .error .isDirectory
  | place, "" :: rest | place, "." :: rest => follow directory place rest
  | place, ".." :: rest => follow directory (around place) rest
  | place, name :: rest =>
    if directory.hasFolder (place ++ [name]) then follow directory (place ++ [name]) rest
    else
      match directory.contents? (place ++ [name]) with
      | some bytes => if rest.isEmpty then .ok bytes else .error .notDirectory
      | none => if maxName < name.utf8ByteSize then .error .nameTooLong else .error .notFound

def read (directory : Directory) (path : String) : Except ReadFailure ByteArray :=
  if maxPath < path.utf8ByteSize then .error .nameTooLong
  else if path.startsWith "/" then directory.follow root (names path)
  else directory.follow (names directory.location) (names path)

end Directory

end MonkeySyntax
