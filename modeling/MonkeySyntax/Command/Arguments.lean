import MonkeySyntax.Parsing.Parser

/-!
# The arguments of a command line

Arguments are read from left to right, first for the program as a whole and then, after the name of
a command, for that command. The first argument that does not fit ends the reading.
-/

namespace MonkeySyntax

inductive ColorMode where
  | auto | always | never
deriving DecidableEq, Repr

namespace ColorMode

def name : ColorMode → String
  | auto => "auto"
  | always => "always"
  | never => "never"

def ofName? (text : String) : Option ColorMode :=
  [auto, always, never].find? (·.name == text)

end ColorMode

/-- What an interactive session prints for a line. -/
inductive ReplMode where
  | tokens | ast | json
deriving DecidableEq, Repr

namespace ReplMode

def name : ReplMode → String
  | tokens => "tokens"
  | ast => "ast"
  | json => "json"

def ofName? (text : String) : Option ReplMode :=
  [tokens, ast, json].find? (·.name == text)

end ReplMode

inductive Command where
  | repl (mode : ReplMode)
  | lex (file : String) (json : Bool)
  | parse (file : String) (json : Bool) (maxDepth : Nat)
deriving DecidableEq, Repr

/-- The file that a command reads. -/
def Command.file? : Command → Option String
  | repl _ => none
  | lex file _ => some file
  | parse file _ _ => some file

structure Invocation where
  verbosity : Nat
  color : ColorMode
  command : Command
deriving DecidableEq, Repr

/-- Why reading the arguments ended early. -/
inductive ArgumentStop where
  | usage | version
deriving DecidableEq, Repr

inductive CommandName where
  | repl | lex | parse
deriving DecidableEq, Repr

namespace CommandName

def ofText? : String → Option CommandName
  | "repl" => some repl
  | "lex" => some lex
  | "parse" => some parse
  | _ => none

def takesFile : CommandName → Bool
  | repl => false
  | lex | parse => true

end CommandName

inductive OptionName where
  | verbose | color | version | mode | json | maxDepth
deriving DecidableEq, Repr

namespace OptionName

def ofLong? : String → Option OptionName
  | "verbose" => some verbose
  | "color" => some color
  | "version" => some version
  | "mode" => some mode
  | "json" => some json
  | "max-depth" => some maxDepth
  | _ => none

def ofShort? : Char → Option OptionName
  | 'v' => some verbose
  | 'V' => some version
  | _ => none

def takesValue : OptionName → Bool
  | verbose | version | json => false
  | color | mode | maxDepth => true

/-- Whether the option may be given before any command, or to the command named. -/
def fits : OptionName → Option CommandName → Bool
  | verbose, _ | color, _ => true
  | version, command => command.isNone
  | mode, command => command = some .repl
  | json, command => command = some .lex || command = some .parse
  | maxDepth, command => command = some .parse

end OptionName

/-- The greatest nesting limit that can be asked for. -/
def maxLimit : Nat := Nat.pow 2 64 - 1

/-- A number of decimal digits, perhaps behind a plus sign, up to `maxLimit`. -/
def limitOfText? (text : String) : Option Nat := (decimal? text).filter (· ≤ maxLimit)

/-- Options that may stand before the command as well as after it. -/
structure SharedOptions where
  verbosity : Option Nat
  color : Option ColorMode
deriving DecidableEq, Repr

def SharedOptions.none : SharedOptions := ⟨.none, .none⟩

/-- What has been read of the arguments. -/
structure ArgumentState where
  command : Option CommandName
  /-- Shared options before the command. -/
  outer : SharedOptions
  /-- Shared options given to the program, or to the command once there is one. -/
  inner : SharedOptions
  mode : Option ReplMode
  json : Bool
  maxDepth : Option Nat
  file : Option String
deriving DecidableEq, Repr

namespace ArgumentState

def empty : ArgumentState := ⟨none, .none, .none, none, false, none, none⟩

/-- Takes the value of an option that may be given once. -/
def once {α : Type} (old new : Option α) : Except ArgumentStop (Option α) :=
  match old, new with
  | none, some value => .ok (some value)
  | _, _ => .error .usage

/-- Takes an option with its value, which is empty for options without one. -/
def take (s : ArgumentState) (value : String) : OptionName → Except ArgumentStop ArgumentState
  | .verbose =>
    .ok { s with inner := { s.inner with verbosity := some (s.inner.verbosity.getD 0 + 1) } }
  | .color => do
    let color ← once s.inner.color (ColorMode.ofName? value)
    return { s with inner := { s.inner with color } }
  | .version => .error .version
  | .mode => return { s with mode := ← once s.mode (ReplMode.ofName? value) }
  | .json => if s.json then .error .usage else .ok { s with json := true }
  | .maxDepth => return { s with maxDepth := ← once s.maxDepth (limitOfText? value) }

/-- Takes an option that stands without a value, if it is one that may. -/
def takeFlag (s : ArgumentState) (option : Option OptionName) :
    Except ArgumentStop ArgumentState :=
  match option with
  | some option =>
    if option.fits s.command && !option.takesValue then s.take "" option else .error .usage
  | none => .error .usage

def takeFlags (s : ArgumentState) : List Char → Except ArgumentStop ArgumentState
  | [] => .ok s
  | c :: rest => do (← s.takeFlag (OptionName.ofShort? c)).takeFlags rest

/-- Takes an argument that is no option: a command, or the file of one. -/
def takePlain (s : ArgumentState) (commandAllowed : Bool) (argument : String) :
    Except ArgumentStop ArgumentState :=
  match s.command with
  | none =>
    match CommandName.ofText? argument with
    | some command =>
      if commandAllowed then
        .ok { s with command := some command, outer := s.inner, inner := .none }
      else .error .usage
    | none => .error .usage
  | some command =>
    if command.takesFile && s.file.isNone && !argument.isEmpty then
      .ok { s with file := some argument }
    else .error .usage

end ArgumentState

/-- One argument by its form. -/
inductive ArgumentForm where
  | plain
  | endOfOptions
  | long (name : String)
  | longWithValue (name value : String)
  | short (names : List Char)

def argumentForm (argument : String) : ArgumentForm :=
  match argument.toList with
  | ['-', '-'] => .endOfOptions
  | '-' :: '-' :: rest =>
    let name := String.ofList (rest.takeWhile (· != '='))
    match rest.dropWhile (· != '=') with
    | [] => .long name
    | _ :: value => .longWithValue name (String.ofList value)
  | '-' :: c :: rest => .short (c :: rest)
  | _ => .plain

namespace ArgumentState

def valueOption? (s : ArgumentState) (name : String) : Option OptionName :=
  (OptionName.ofLong? name).filter fun option => option.fits s.command && option.takesValue

/-- Takes all arguments after the options have ended. -/
def takeRest (s : ArgumentState) : List String → Except ArgumentStop ArgumentState
  | [] => .ok s
  | argument :: rest => do (← s.takePlain false argument).takeRest rest

def takeAll (s : ArgumentState) : List String → Except ArgumentStop ArgumentState
  | [] => .ok s
  | argument :: rest =>
    match argumentForm argument with
    | .plain => do (← s.takePlain true argument).takeAll rest
    | .endOfOptions => s.takeRest rest
    | .short names => do (← s.takeFlags names).takeAll rest
    | .longWithValue name value =>
      match s.valueOption? name with
      | some option => do (← s.take value option).takeAll rest
      | none => .error .usage
    | .long name =>
      match s.valueOption? name, rest with
      | none, rest => do (← s.takeFlag (OptionName.ofLong? name)).takeAll rest
      | some _, [] => .error .usage
      | some option, value :: rest =>
        match argumentForm value with
        | .plain => do (← s.take value option).takeAll rest
        | _ => .error .usage

/-- The command that was asked for; without one it is an interactive session. -/
def command? (s : ArgumentState) : Option Command :=
  match s.command with
  | none => some (.repl .tokens)
  | some .repl => some (.repl (s.mode.getD .tokens))
  | some .lex => s.file.map fun file => .lex file s.json
  | some .parse => s.file.map fun file => .parse file s.json (s.maxDepth.getD defaultMaxDepth)

/-- The invocation; what a command was given counts more than what stood before it. -/
def invocation? (s : ArgumentState) : Option Invocation := do
  return {
    verbosity := ((s.inner.verbosity.or s.outer.verbosity).getD 0)
    color := ((s.inner.color.or s.outer.color).getD .auto)
    command := ← s.command? }

end ArgumentState

def Invocation.ofArguments (arguments : List String) : Except ArgumentStop Invocation := do
  let s ← ArgumentState.empty.takeAll arguments
  match s.invocation? with
  | some invocation => return invocation
  | none => throw .usage

end MonkeySyntax
