import MonkeySyntax.Report.Diagnostic
import MonkeySyntax.Report.Snippet
import MonkeySyntax.Source.Line

/-!
# Reports

A report shows each fault of a source under a headline, with the line it is on and carets under the
blamed place.
-/

namespace MonkeySyntax

namespace Diagnostic

def row (inks : List Ink) : List Ink := inks ++ [.text "\n"]

def headline (diagnostic : Diagnostic) : List Ink :=
  row [.paint .headline, .text ("error[" ++ diagnostic.code ++ "]"),
    .paint .strong, .text (": " ++ diagnostic.message), .reset]

/-- A piece of the frame at the left, behind blanks as wide as the line number. -/
def margin (pad symbol : String) : List Ink := .text (pad ++ " ") :: Ink.painted .frame symbol

/-- The blamed line and the carets under it. -/
def snippet (diagnostic : Diagnostic) (line : SourceLine) (number pad : String) : List Ink :=
  let mark := Mark.ofRange (diagnostic.label.start - line.start)
    (diagnostic.label.stop - line.start)
  row (Ink.painted .frame number ++ [.text " "] ++ Ink.painted .frame "│" ++ [.text " "] ++
    sourceInks mark line.shown) ++
  row (margin pad "│" ++ [.text " "] ++ caretInks mark line.shown ++ [.text " "] ++
    Ink.painted .mark diagnostic.label.message)

def noteInks (pad : String) : Option String → List Ink
  | none => []
  | some note => row (margin pad "│") ++ row (margin pad "=" ++ [.text (" " ++ note)])

/-- What the report on a source called `name` says. -/
def inks (diagnostic : Diagnostic) (name source : String) : List Ink :=
  let line := SourceLine.ofOffset source diagnostic.label.start
  let number := toString line.number
  let pad := repeated ' ' number.length
  let place := name ++ ":" ++ number ++ ":" ++ toString (line.column diagnostic.label.start)
  diagnostic.headline ++ row (margin pad "┌─" ++ [.text (" " ++ place)]) ++
    row (margin pad "│") ++ diagnostic.snippet line number pad ++
    noteInks pad diagnostic.note ++ row []

end Diagnostic

/-- The report on the faults of a source, in order. -/
def reportInks (name source : String) (faults : List Fault) : List Ink :=
  faults.flatMap fun fault => fault.diagnostic.inks name source

def report (colour : Bool) (name source : String) (faults : List Fault) : String :=
  inkText colour (reportInks name source faults)

/-- The report without any source lines. -/
def plainReport (faults : List Fault) : String :=
  String.join (faults.map fun fault => "error[" ++ fault.code ++ "]: " ++ fault.message ++ "\n")

/-- The report by a writer of diagnostics that can fail; if it does, there is only the plain one. -/
def reportBy (write? : Diagnostic → Option String) (faults : List Fault) : String :=
  match faults.mapM fun fault => write? fault.diagnostic with
  | some pieces => String.join pieces
  | none => plainReport faults

end MonkeySyntax
