/-!
# Text with colours

Output meant for a terminal is a list of `Ink`: text, and changes of the paint it is written in. The
same list can be shown with escape sequences or without any.
-/

namespace MonkeySyntax

inductive Paint where
  | headline | strong | frame | mark
deriving DecidableEq, Repr

inductive Ink where
  | text (value : String)
  | paint (paint : Paint)
  | reset
deriving DecidableEq, Repr

def resetSequence : String := "\x1b[0m"

/-- The sequence that selects a paint, whatever was selected before. -/
def Paint.sequence : Paint → String
  | headline => resetSequence ++ "\x1b[1m\x1b[38;5;9m"
  | strong => resetSequence ++ "\x1b[1m"
  | frame => resetSequence ++ "\x1b[34m"
  | mark => resetSequence ++ "\x1b[31m"

namespace Ink

def painted (color : Paint) (value : String) : List Ink := [paint color, text value, reset]

def coloured : Ink → String
  | text value => value
  | paint color => color.sequence
  | reset => resetSequence

def uncoloured : Ink → String
  | text value => value
  | paint _ | reset => ""

end Ink

def inkText (colour : Bool) (inks : List Ink) : String :=
  String.join (inks.map (if colour then Ink.coloured else Ink.uncoloured))

end MonkeySyntax
