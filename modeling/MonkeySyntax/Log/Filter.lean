import MonkeySyntax.Log.Directive

/-!
# Which records are shown

A filter is a list of directives. Of those that apply to a record the most specific one decides.
-/

namespace MonkeySyntax

structure LogFilter where
  directives : List LogDirective
deriving DecidableEq, Repr

namespace LogFilter

/-- The filter for the number of times more output was asked for. -/
def ofVerbosity (count : Nat) : LogFilter :=
  let level : LogLevel :=
    match count with
    | 0 => .warn
    | 1 => .debug
    | _ => .trace
  ⟨[.ofTarget "monkey_cli" level, .ofTarget "monkey_parser" level]⟩

/-- Directives separated by commas; a text without any shows errors only. -/
def ofText? (text : String) : Option LogFilter := do
  let directives ← ((text.splitOn ",").filter (!·.isEmpty)).mapM LogDirective.ofText?
  return ⟨if directives.isEmpty then [.ofLevel .error] else directives⟩

/-- The directive that decides for a record: of those that apply the most specific one, and of
equally specific ones the last. -/
def deciding (filter : LogFilter) (record : LogRecord) : Option LogDirective :=
  filter.directives.foldl (fun best directive =>
    if directive.applies record && best.all directive.isAsSpecific then some directive
    else best) none

def shows (filter : LogFilter) (record : LogRecord) : Bool :=
  (filter.deciding record).any fun directive => record.level.rank ≤ directive.level.rank

def text (filter : LogFilter) (records : List LogRecord) : String :=
  String.join ((records.filter filter.shows).map LogRecord.line)

end LogFilter

end MonkeySyntax
