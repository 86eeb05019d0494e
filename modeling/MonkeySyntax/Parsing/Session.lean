import MonkeySyntax.Parsing.Parser

/-!
# Driving a parser step by step

A `Session` is a parser together with the expression that its last step read, if it read one: the
left operand for a rule that continues an expression. Any step may follow any other.
-/

namespace MonkeySyntax

inductive Step where
  | advance
  | currentIs (kind : TokenKind)
  | peekIs (kind : TokenKind)
  | expectPeek (kind : TokenKind)
  | currentPrecedence
  | peekPrecedence
  | expression (least : Precedence)
  /-- Apply the rule by which the current token starts an expression. -/
  | startRule
  /-- Apply the rule by which the current token continues the kept expression. -/
  | continueRule
  | statement
  | letStatement
  | returnStatement
  | expressionStatement
  | block
  | resync (level : Nat)
  | program
  | hasFaults
  | faults
deriving DecidableEq, Repr

inductive Answer where
  | nothing
  | flag (value : Bool)
  | precedence (value : Precedence)
  /-- What a reader made of the source, as text; an empty statement has none. -/
  | read (text : Option String)
  | failed (fault : Fault)
  | noLeftOperand
  | text (value : String)
  | messages (values : List String)
deriving DecidableEq, Repr

structure Session where
  state : ParseState
  left : Option Expr

namespace Session

def start (maxDepth : Nat) (source : String) : Session := ⟨.start maxDepth source, none⟩

/-- Runs a reader whose result is not kept. -/
def read {α : Type} (session : Session) (reader : ParseM α) (text : α → Option String) :
    Answer × Session :=
  match reader session.state with
  | .ok value s => (.read (text value), { session with state := s })
  | .error fault s => (.failed fault, { session with state := s })

/-- Runs a reader of an expression, which becomes the left operand. -/
def readLeft (session : Session) (reader : ParseM Expr) : Answer × Session :=
  match reader session.state with
  | .ok expr s => (.read expr.text, ⟨s, some expr⟩)
  | .error fault s => (.failed fault, ⟨s, none⟩)

def readStart (session : Session) : Answer × Session :=
  match StartRule.ofKind? session.state.current.kind with
  | none => (.nothing, session)
  | some rule => session.readLeft (.withInner fun inner => rule.parse inner)

def readContinuation (session : Session) : Answer × Session :=
  match ContinueRule.ofKind? session.state.current.kind, session.left with
  | none, _ => (.nothing, session)
  | some _, none => (.noLeftOperand, session)
  | some rule, some left => session.readLeft (.withInner fun inner => rule.parse inner left)

def step (session : Session) : Step → Answer × Session
  | .advance => (.nothing, { session with state := session.state.advance })
  | .currentIs kind => (.flag (session.state.current.kind = kind), session)
  | .peekIs kind => (.flag (session.state.peek.kind = kind), session)
  | .expectPeek kind => session.read (.expectPeek kind) fun _ => none
  | .currentPrecedence => (.precedence session.state.current.kind.precedence, session)
  | .peekPrecedence => (.precedence session.state.peek.kind.precedence, session)
  | .expression least => session.readLeft (.expression least)
  | .startRule => session.readStart
  | .continueRule => session.readContinuation
  | .statement => session.read (.withInner .statement) (·.map Statement.text)
  | .letStatement => session.read (.withInner .letStatement) (some ·.text)
  | .returnStatement => session.read (.withInner .returnStatement) (some ·.text)
  | .expressionStatement => session.read (.withInner .expressionStatement) (some ·.text)
  | .block => session.read .block (some ·.text)
  | .resync level =>
    let (onBrace, s) := session.state.resync level
    (.flag onBrace, { session with state := s })
  | .program =>
    let (program, s) := session.state.program
    (.text program.text, { session with state := s })
  | .hasFaults => (.flag (!session.state.faults.isEmpty), session)
  | .faults => (.messages (session.state.faults.map Fault.message), session)

/-- The answers to a list of steps, each with the session after it. -/
def run (session : Session) : List Step → List (Answer × Session)
  | [] => []
  | next :: rest =>
    let reached := session.step next
    reached :: reached.2.run rest

end Session

end MonkeySyntax
