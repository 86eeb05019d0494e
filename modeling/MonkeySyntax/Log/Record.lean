import MonkeySyntax.Parsing.State
import MonkeySyntax.Text.Decimal

/-!
# Log records

A record says what happened, where in the program and how much it matters, with values that have
names.
-/

namespace MonkeySyntax

inductive LogLevel where
  | off | error | warn | info | debug | trace
deriving DecidableEq, Repr

namespace LogLevel

def all : List LogLevel := [off, error, warn, info, debug, trace]

/-- How much is shown at a level; each level shows all that the ones before it show. -/
def rank : LogLevel → Nat
  | off => 0
  | error => 1
  | warn => 2
  | info => 3
  | debug => 4
  | trace => 5

def name : LogLevel → String
  | off => "OFF"
  | error => "ERROR"
  | warn => "WARN"
  | info => "INFO"
  | debug => "DEBUG"
  | trace => "TRACE"

/-- A level is written as its name in any case, or as its rank. -/
def ofText? (text : String) : Option LogLevel :=
  all.find? fun level => level.name == text.map Char.toUpper || decimal? text == some level.rank

end LogLevel

structure LogRecord where
  level : LogLevel
  target : String
  message : String
  values : List (String × String)
  /-- The names of values that are not shown. -/
  hidden : List String := []
deriving DecidableEq, Repr

namespace LogRecord

/-- The names by which parts of a record can be asked for. -/
def names (record : LogRecord) : List String :=
  "message" :: record.values.map Prod.fst ++ record.hidden

def line (record : LogRecord) : String :=
  record.level.name ++ " " ++ record.target ++ ": " ++ record.message ++
    String.join (record.values.map fun (name, value) => " " ++ name ++ "=" ++ value) ++ "\n"

def scanned (token : Token) : LogRecord where
  level := .trace
  target := "monkey_parser::lexer"
  message := "token"
  values := [("kind", token.kind.tag), ("literal", token.literal), ("span", token.span.text)]

def moved (current peek : TokenKind) : LogRecord where
  level := .trace
  target := "monkey_parser::parser"
  message := "advance"
  values := [("current", quoted current.name), ("peek", quoted peek.name)]

def abandoned (fault : Fault) : LogRecord where
  level := .debug
  target := "monkey_parser::parser"
  message := "abandoning statement"
  values := [("error", fault.message)]

/-- A line is asked for, and the input is not a terminal. -/
def noTerminal : LogRecord where
  level := .debug
  target := "rustyline"
  message := "stdin is not a tty"
  values := []
  hidden := ["log.target", "log.module_path", "log.file", "log.line"]

def lexed (file : String) (count : Nat) : LogRecord where
  level := .debug
  target := "monkey::commands::lex"
  message := "lexed"
  values := [("file", file), ("count", toString count)]

def parsed (file : String) (statements : Nat) : LogRecord where
  level := .debug
  target := "monkey::commands::parse"
  message := "parsed"
  values := [("file", file), ("statements", toString statements)]

def parseFailed (file : String) (count : Nat) : LogRecord where
  level := .debug
  target := "monkey::commands::parse"
  message := "parse failed"
  values := [("file", file), ("count", toString count)]

end LogRecord

/-- The records of tokens being read; the end marker leaves none. -/
def Token.records (token : Token) : List LogRecord :=
  if token.isEof then [] else [.scanned token]

/-- The records of what a parser does. Moving on reads the token that comes into view. -/
def Event.records : Event → List LogRecord
  | moved current peek => peek.records ++ [.moved current.kind peek.kind]
  | abandoned fault => [.abandoned fault]

end MonkeySyntax
