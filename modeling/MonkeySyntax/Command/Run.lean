import MonkeySyntax.Command.Directory
import MonkeySyntax.Command.Repl

/-!
# Running a command

Everything a run depends on is in its `Surroundings`, so a run is a function.
-/

namespace MonkeySyntax

structure Surroundings where
  read : String → Except ReadFailure ByteArray
  input : String
  /-- Whether colour is refused. -/
  noColour : Bool
  /-- The log filter asked for, as text. -/
  logFilter : Option String

def versionText : String := "monkey 0.1.0\n"

namespace Invocation

def presentation (invocation : Invocation) (around : Surroundings) : Presentation where
  colour := !around.noColour && invocation.color ≠ .never
  filter := (around.logFilter.bind LogFilter.ofText?).getD (.ofVerbosity invocation.verbosity)

end Invocation

def Surroundings.source (around : Surroundings) (file : String) : Except ReadFailure String := do
  match String.fromUTF8? (← around.read file) with
  | some source => return source
  | none => throw .notText

def unreadable (file : String) (failure : ReadFailure) : Outcome :=
  .finished 1 (.err ("Error: cannot read " ++ file ++ "\n\nCaused by:\n    " ++
    failure.message ++ "\n"))

/-- Prints the tokens of a source. -/
def runLex (p : Presentation) (file : String) (json : Bool) (source : String) : Outcome :=
  let tokens := tokenize source
  let text :=
    if json then (Json.arr (tokens.map Token.toJson)).pretty ++ "\n"
    else String.join (tokens.map (·.listing ++ "\n"))
  .finished 0 (p.log (tokens.flatMap Token.records ++ [.lexed file tokens.length]) ++ .out text)

/-- Prints the program of a source, or the report on its faults. -/
def runParse (p : Presentation) (file : String) (json : Bool) (maxDepth : Nat)
    (source : String) : Outcome :=
  let parsed := parse maxDepth source
  let records := parsed.log.flatMap Event.records
  match parsed.result with
  | .ok program =>
    let text :=
      if json then program.toJson.pretty ++ "\n"
      else String.join (program.statements.map (·.text ++ "\n"))
    .finished 0
      (p.log (records ++ [.parsed file program.statements.length]) ++ .out text)
  | .error faults =>
    .finished 1
      (p.log (records ++ [.parseFailed file faults.length]) ++ p.faults file source faults)

def Invocation.run (invocation : Invocation) (around : Surroundings) : Outcome :=
  let p := invocation.presentation around
  let withSource := fun file (action : String → Outcome) =>
    match around.source file with
    | .ok source => action source
    | .error failure => unreadable file failure
  match invocation.command with
  | .repl mode => .finished 0 (Repl.run p mode around.input)
  | .lex file json => withSource file (runLex p file json)
  | .parse file json maxDepth => withSource file (runParse p file json maxDepth)

/-- Runs the program on its arguments. -/
def run (arguments : List String) (around : Surroundings) : Outcome :=
  match Invocation.ofArguments arguments with
  | .ok invocation => invocation.run around
  | .error .version => .finished 0 (.out versionText)
  | .error .usage => .usage

end MonkeySyntax
