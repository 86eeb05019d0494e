import MonkeySyntax.Log.Pattern
import MonkeySyntax.Log.Record
import MonkeySyntax.Source.Span
import MonkeySyntax.Text.Blank

/-!
# Directives

A directive gives a level to the records of some targets. It is written as a level, a target, or a
target and a level joined by an equals sign. Between target and level it may ask, in brackets, for
the name of a span and, in braces, for a value.
-/

namespace MonkeySyntax

/-- A value that is asked for. -/
structure LogField where
  name : String
  /-- Whether it is to match a pattern as well. -/
  isMatched : Bool
deriving DecidableEq, Repr

structure LogDirective where
  /-- The start of the targets meant; all targets start with the empty text. -/
  target : String
  span : Option String
  field : Option LogField
  level : LogLevel
deriving DecidableEq, Repr

namespace LogDirective

def ofLevel (level : LogLevel) : LogDirective := ⟨"", none, none, level⟩

def ofTarget (target : String) (level : LogLevel) : LogDirective := ⟨target, none, none, level⟩

/-- Whether a directive is about records whatever surrounds them. No record is inside of a span, and
only in spans are values compared with patterns. -/
def isUnconditional (directive : LogDirective) : Bool :=
  directive.span.isNone && directive.field.all (!·.isMatched)

def applies (directive : LogDirective) (record : LogRecord) : Bool :=
  directive.isUnconditional && directive.target.toList.isPrefixOf record.target.toList &&
    directive.field.all fun field => record.names.contains field.name

/-- Of two directives that apply the one with the longer target is more specific, then one that asks
for a value, then one that asks for a later name. -/
def isAsSpecific (directive other : LogDirective) : Bool :=
  let size := fun directive : LogDirective => byteLength directive.target.toList
  let name := fun directive : LogDirective => directive.field.map LogField.name
  if size directive ≠ size other then size other < size directive
  else
    match name other, name directive with
    | none, _ => true
    | some _, none => false
    | some earlier, some later => earlier ≤ later

/-- A name, perhaps with an equals sign and a pattern behind it. -/
def fieldOfText? (text : List Char) : Option LogField :=
  let name := text.takeWhile (· != '=')
  match text.dropWhile (· != '=') with
  | [] => if name.isEmpty then none else some ⟨String.ofList name, false⟩
  | _ :: rest =>
    if Pattern.asksForValue (rest.takeWhile (· != '=')) then some ⟨String.ofList name, true⟩
    else none

/-- Where in a directive reading stands, and at which byte the part that is being read began. -/
inductive Place where
  | start
  | levelOrTarget
  | span (first : Nat)
  | field (first : Nat)
  | afterField
  | afterSpan
  | level (first : Nat)
deriving DecidableEq, Repr

structure Reader where
  place : Place
  offset : Nat
  directive : LogDirective
deriving DecidableEq, Repr

namespace Reader

def start : Reader := ⟨.start, 0, .ofLevel .trace⟩

/-- Reads a character; the finished parts are cut out of `text`. -/
def step (text : List Char) (reader : Reader) (c : Char) : Option Reader := do
  let next := reader.offset + c.utf8Size
  let part := fun first => bytesBetween? text first reader.offset
  let directive := reader.directive
  match reader.place, c with
  | .start, '[' => return ⟨.span next, next, directive⟩
  | .start, c =>
    if c = '-' || c = ':' || c = '_' || isAlphanumeric c then
      return ⟨.levelOrTarget, next, directive⟩
    else none
  | .levelOrTarget, '=' =>
    return ⟨.level next, next, { directive with target := String.ofList (← part 0) }⟩
  | .levelOrTarget, '[' =>
    return ⟨.span next, next, { directive with target := String.ofList (← part 0) }⟩
  | .span first, ']' =>
    return ⟨.afterSpan, next, { directive with span := some (String.ofList (← part first)) }⟩
  | .span first, '\x7b' =>
    let name ← part first
    let span := if name.isEmpty then none else some (String.ofList name)
    return ⟨.field next, next, { directive with span }⟩
  | .field first, '\x7d' =>
    return ⟨.afterField, next, { directive with field := some (← fieldOfText? (← part first)) }⟩
  | .afterField, ']' => return ⟨.afterSpan, next, directive⟩
  | .afterSpan, '=' => return ⟨.level next, next, directive⟩
  | .afterField, _ | .afterSpan, _ => none
  | .levelOrTarget, _ | .span _, _ | .field _, _ | .level _, _ =>
    return { reader with offset := next }

/-- What has been read when there are no more characters. A target alone shows everything, and so
does an empty level. -/
def finish (text : List Char) (reader : Reader) : Option LogDirective :=
  match reader.place with
  | .levelOrTarget =>
    match LogLevel.ofText? (String.ofList text) with
    | some level => some (ofLevel level)
    | none => some (ofTarget (String.ofList text) .trace)
  | .level first => do
    let (_, rest) ← splitBytes text first
    if rest.isEmpty then return reader.directive
    return { reader.directive with level := ← LogLevel.ofText? (String.ofList rest) }
  | .afterSpan => some reader.directive
  | .start | .span _ | .field _ | .afterField => none

end Reader

/-- Reads a directive. Its form is that of the text without white space at the ends, but its parts
are cut at the same places out of the text with it. -/
def ofText? (text : String) : Option LogDirective := do
  let reader ← (trim text).toList.foldlM (Reader.step text.toList) Reader.start
  reader.finish text.toList

end LogDirective

end MonkeySyntax
