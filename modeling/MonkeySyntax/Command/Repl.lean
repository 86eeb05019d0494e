import MonkeySyntax.Command.Arguments
import MonkeySyntax.Command.Output
import MonkeySyntax.Log.Filter
import MonkeySyntax.Report.Render
import MonkeySyntax.Text.Blank
import MonkeySyntax.Text.Erase
import MonkeySyntax.Tree.Dump

/-!
# The interactive session

Every line is either a request to the session itself or a source of its own, of which the tokens,
the program text or the tree is printed.
-/

namespace MonkeySyntax

/-- How output is presented. -/
structure Presentation where
  colour : Bool
  filter : LogFilter

namespace Presentation

def log (p : Presentation) (records : List LogRecord) : Output := .err (p.filter.text records)

/-- A message about a request that cannot be met. -/
def complaint (p : Presentation) (message : String) : Output :=
  .err (inkText p.colour (Ink.painted .mark (message ++ "\n")))

def faults (p : Presentation) (name source : String) (faults : List Fault) : Output :=
  .err (report p.colour name source faults)

end Presentation

namespace Repl

inductive Request where
  | nothing
  | quit
  | help
  | showMode
  | setMode (name : String)
  | unknown (text : String)
  | source (text : String)
deriving DecidableEq, Repr

def Request.ofLine (line : String) : Request :=
  match words line with
  | [] => .nothing
  | ["exit"] | ["quit"] => .quit
  | ["help"] => .help
  | ["mode"] => .showMode
  | "mode" :: name :: _ => .setMode name
  | "exit" :: _ | "quit" :: _ | "help" :: _ => .unknown (trim line)
  | _ => .source line

def banner (mode : ReplMode) : String :=
  "Monkey v0.1.0 REPL (" ++ mode.name ++ " mode)\nType help for help, exit to quit\n\n"

def helpText : String :=
  "Commands:\n" ++
  "  help            Show this help\n" ++
  "  mode            Show the current output mode\n" ++
  "  mode <m>        Switch output mode (tokens, ast, json)\n" ++
  "  exit            Exit the REPL (also Ctrl-D)\n"

def modeLine (mode : ReplMode) : String := "mode: " ++ mode.name ++ "\n"

/-- A text on a line of its own, unless there is nothing to show. -/
def shownLine (text : String) : String := if text.isEmpty then "" else text ++ "\n"

def evaluate (p : Presentation) (mode : ReplMode) (line : String) : Output :=
  match mode with
  | .tokens =>
    let tokens := (tokenize line).filter (!·.isEof)
    p.log (tokens.flatMap Token.records) ++
      .out (shownLine ("\n".intercalate (tokens.map Token.listing)))
  | .ast => parsed fun program => program.text
  | .json => parsed fun program => program.toJson.pretty
where
  parsed (text : Program → String) : Output :=
    let parsed := parse defaultMaxDepth line
    p.log (parsed.log.flatMap Event.records) ++
      match parsed.result with
      | .ok program => .out (shownLine (text program))
      | .error faults => p.faults "<repl>" line faults

/-- What a line writes, and the mode after it unless the line ends the session. -/
def answer (p : Presentation) (mode : ReplMode) (line : String) : Output × Option ReplMode :=
  match Request.ofLine line with
  | .nothing => (.none, some mode)
  | .quit => (.none, none)
  | .help => (.out helpText, some mode)
  | .showMode => (.out (modeLine mode), some mode)
  | .setMode name =>
    match ReplMode.ofName? (name.map Char.toLower) with
    | some mode => (.out (modeLine mode), some mode)
    | none => (p.complaint ("invalid variant: " ++ name), some mode)
  | .unknown text =>
    (p.complaint ("Unknown command: " ++ text ++ "\nType help for available commands."), some mode)
  | .source line => (evaluate p mode line, some mode)

/-- What is written until a line ends the session or there are no more. -/
def answers (p : Presentation) : ReplMode → List String → Output
  | _, [] => p.log [.noTerminal]
  | mode, line :: rest =>
    p.log [.noTerminal] ++
      match answer p mode line with
      | (output, none) => output
      | (output, some mode) => output ++ answers p mode rest

/-- A line without its line break. -/
def withoutBreak (line : List Char) : List Char :=
  match line.reverse with
  | '\n' :: '\r' :: rest => rest.reverse
  | '\n' :: rest => rest.reverse
  | _ => line

/-- What a line of input says: no line break, and corrections carried out. -/
def lineText (line : List Char) : String := String.ofList (corrected (withoutBreak line))

def inputLines (input : String) : List String :=
  ((splitLines input.toList).filter (!·.isEmpty)).map lineText

def run (p : Presentation) (mode : ReplMode) (input : String) : Output :=
  .out (banner mode) ++ answers p mode (inputLines input)

end Repl

end MonkeySyntax
