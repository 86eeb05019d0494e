import MonkeySyntax.Command.Run

/-!
# The program

Reads what a run depends on, runs, and writes what comes of it.
-/

namespace MonkeySyntax

/-- A path through a file fails with its name when it is opened; a directory fails without one when
it is read. A name that is too long counts as an argument that is not valid. -/
def ReadFailure.ofError : IO.Error → ReadFailure
  | .inappropriateType (some _) _ _ => .notDirectory
  | .inappropriateType none _ _ => .isDirectory
  | .invalidArgument _ _ _ => .nameTooLong
  | _ => .notFound

def readFile (name : String) : IO (Except ReadFailure ByteArray) := do
  try return .ok (← IO.FS.readBinFile name)
  catch failure => return .error (.ofError failure)

/-- What a run of the arguments depends on; of all files only the one they name is read. -/
def surroundings (arguments : List String) : IO Surroundings := do
  let file := (Invocation.ofArguments arguments).toOption.bind (·.command.file?)
  let contents ← match file with
    | some name => readFile name
    | none => pure (.error .notFound)
  return {
    read := fun _ => contents
    input := ""
    noColour := (← IO.getEnv "NO_COLOR").isSome
    logFilter := ← IO.getEnv "RUST_LOG" }

def Output.write (output : Output) : IO Unit := do
  IO.eprint output.stderr
  IO.print output.stdout
  (← IO.getStdout).flush

/-- Answers lines until one ends the session or there are no more. -/
partial def converse (p : Presentation) (mode : ReplMode) : IO Unit := do
  (p.log [.noTerminal]).write
  let line ← (← IO.getStdin).getLine
  if line.isEmpty then return
  let (output, next) := Repl.answer p mode (Repl.lineText line.toList)
  output.write
  match next with
  | some mode => converse p mode
  | none => return

def usageText : String :=
  "usage: monkey [-v] [--color auto|always|never] [--version]\n" ++
  "              [repl [--mode tokens|ast|json] | lex FILE [--json] |\n" ++
  "               parse FILE [--json] [--max-depth N]]\n"

def runProgram (arguments : List String) : IO UInt32 := do
  let around ← surroundings arguments
  match Invocation.ofArguments arguments with
  | .ok ⟨verbosity, color, .repl mode⟩ =>
    (Output.out (Repl.banner mode)).write
    converse (Invocation.presentation ⟨verbosity, color, .repl mode⟩ around) mode
    return 0
  | _ =>
    match run arguments around with
    | .finished status output =>
      output.write
      return status.toUInt32
    | .usage =>
      IO.eprint usageText
      return 2

end MonkeySyntax

def main (arguments : List String) : IO UInt32 := MonkeySyntax.runProgram arguments
