import Mathlib.Order.Monotone.Basic
import MonkeySyntax.Proofs.Blocks
import MonkeySyntax.Proofs.Soundness

/-!
# The parser is a window that only moves forward

A parser shows two tokens of its source and counts the braces up to the first of them. It pulls
tokens from the lexer as it goes, and may do so long after the source has ended. Still it never
shows anything but two neighbours in the list of tokens that reading the source in advance would
give, and whatever it is made to do, it never goes back in that list and never forgets a fault.

What it can be made to do is a `Move`. Moves may follow each other in any order, rules may be
applied to tokens that they are not meant for, and a move may fail; all of them are made of the
steps that a `Passage` is closed under.
-/

namespace MonkeySyntax

open ParseM

/-! ### Tokens read in advance -/

/-- The tokens of a source, and its end marker over and over behind them. -/
def readAhead (source : String) : Stream' Token :=
  tokenize source ++ₛ Stream'.const ((tokenize source).getLast (Lexer.tokens_ne_nil _))

/-- A lexer that is asked for ever gives the tokens that were read in advance. -/
theorem stream_ofSource (source : String) : (Lexer.ofSource source).stream = readAhead source := by
  obtain ⟨ts, last, htokens⟩ := exists_tokenize_eq_append source
  obtain ⟨hstream, -, -⟩ := Lexer.stream_of_tokens htokens
  have hlast : (tokenize source).getLast (Lexer.tokens_ne_nil _) = last := by
    simp [htokens]
  rw [hstream, readAhead, hlast, htokens, Stream'.append_append_stream]
  exact congrArg (ts ++ₛ ·) (Stream'.const_eq last)

/-! ### Moves -/

/-- What a parser can be made to do. -/
inductive Move where
  | advance
  | expectPeek (kind : TokenKind)
  | expression (least : Precedence)
  /-- Apply a rule by which an expression starts, whatever the current token is. -/
  | startRule (rule : StartRule)
  /-- Apply a rule by which `left` is continued, whatever the current token is. -/
  | continueRule (left : Expr) (rule : ContinueRule)
  | statement
  | letStatement
  | returnStatement
  | expressionStatement
  | block
  | resync (level : Nat)
  | program

namespace ParseState

/-- The state after a move, whether the move succeeds or not. -/
def move (s : ParseState) : Move → ParseState
  | .advance => s.advance
  | .expectPeek kind => (ParseM.expectPeek kind).after s
  | .expression least => (ParseM.expression least).after s
  | .startRule rule => (withInner fun inner => rule.parse inner).after s
  | .continueRule left rule => (withInner fun inner => rule.parse inner left).after s
  | .statement => (withInner ParseM.statement).after s
  | .letStatement => (withInner ParseM.letStatement).after s
  | .returnStatement => (withInner ParseM.returnStatement).after s
  | .expressionStatement => (withInner ParseM.expressionStatement).after s
  | .block => ParseM.block.after s
  | .resync level => (s.resync level).2
  | .program => s.program.2

def moves (s : ParseState) (list : List Move) : ParseState := list.foldl move s

end ParseState

/-- The state after a move for which `inner` reads whatever lies further in. -/
def Inner.move (inner : Inner) (s : ParseState) : Move → ParseState
  | .advance => s.advance
  | .expectPeek kind => (ParseM.expectPeek kind).after s
  | .expression least => (inner.expression least).after s
  | .startRule rule => (rule.parse inner).after s
  | .continueRule left rule => (rule.parse inner left).after s
  | .statement => (ParseM.statement inner).after s
  | .letStatement => (ParseM.letStatement inner).after s
  | .returnStatement => (ParseM.returnStatement inner).after s
  | .expressionStatement => (ParseM.expressionStatement inner).after s
  | .block => inner.block.after s
  | .resync level => (s.resync level).2
  | .program => (s.programStatements inner s.remaining).2

theorem ParseState.move_eq (s : ParseState) (next : Move) : s.move next = s.inner.move s next := by
  cases next <;> rfl

theorem Passage.moveWith {R : ParseState → ParseState → Prop} (hR : Passage R) {inner : Inner}
    (hinner : inner.Keeps R) (s : ParseState) (next : Move) : R s (inner.move s next) := by
  cases next with
  | advance => exact hR.advance s
  | expectPeek kind => exact hR.expectPeek kind s
  | expression least => exact hinner.expression least s
  | startRule rule => exact hR.startRule hinner rule s
  | continueRule left rule => exact hR.continueRule hinner left rule s
  | statement => exact hR.statement hinner s
  | letStatement => exact hR.letStatement hinner s
  | returnStatement => exact hR.returnStatement hinner s
  | expressionStatement => exact hR.expressionStatement hinner s
  | block => exact hinner.block s
  | resync level => exact hR.resync level s
  | program => exact hR.programStatements hinner s.remaining s

theorem Passage.move {R : ParseState → ParseState → Prop} (hR : Passage R) (s : ParseState)
    (next : Move) : R s (s.move next) := by
  rw [s.move_eq]
  exact hR.moveWith (hR.level s.headroom) s next

/-! ### The window -/

/-- From a token of the source the parser gets to one that is not before it. -/
theorem Passage.forward (source : String) :
    Passage fun s t => ∀ k, s.On source k → ∃ m, k ≤ m ∧ t.On source m where
  refl _ k hs := ⟨k, Nat.le_refl k, hs⟩
  trans hst htu k hs := by
    obtain ⟨i, hki, ht⟩ := hst k hs
    obtain ⟨m, him, hu⟩ := htu i ht
    exact ⟨m, Nat.le_trans hki him, hu⟩
  advance _ k hs := ⟨k + 1, Nat.le_succ k, hs.advance⟩
  record _ _ k hs := ⟨k, Nat.le_refl k, hs.congr rfl rfl⟩
  nested _ h k hs := by
    obtain ⟨m, hkm, ht⟩ := h k hs.enter
    exact ⟨m, hkm, ht.leave⟩

/-- The parser shows token `k` and the one after it, and counts the braces through token `k`. -/
structure ParseState.Shows (tokens : Stream' Token) (k : Nat) (s : ParseState) : Prop where
  current_eq : s.current = tokens.get k
  peek_eq : s.peek = tokens.get (k + 1)
  braces_eq : s.braces = bracesAfterAll 0 (tokens.take (k + 1))

theorem ParseState.On.shows {source : String} {k : Nat} {s : ParseState} (h : s.On source k) :
    s.Shows (readAhead source) k := by
  have hcurrent := h.current_eq
  have hpeek : s.peek = tokenAt source (k + 1) := h.advance.current_eq
  have hbraces := h.braces_eq
  rw [tokenAt, stream_ofSource] at hcurrent hpeek
  rw [bracesBefore, stream_ofSource] at hbraces
  exact ⟨hcurrent, hpeek, hbraces⟩

/-- The token that the parser is on after each move of a list. -/
theorem exists_index_of_on {source : String} {k : Nat} {s : ParseState} (h : s.On source k)
    (list : List Move) :
    ∃ index : Nat → Nat, index 0 = k ∧ Monotone index ∧
      ∀ i, (s.moves (list.take i)).On source (index i) := by
  induction list generalizing s k with
  | nil =>
      refine ⟨fun _ => k, rfl, monotone_const, fun i => ?_⟩
      rw [List.take_nil]
      exact h
  | cons next rest ih =>
      obtain ⟨m, hkm, hnext⟩ := (Passage.forward source).move s next k h
      obtain ⟨index, hzero, hmono, hindex⟩ := ih hnext
      refine ⟨Nat.rec k fun i _ => index i, rfl, monotone_nat_of_le_succ fun i => ?_,
        fun i => ?_⟩
      · cases i with
        | zero => exact Nat.le_trans hkm (Nat.le_of_eq hzero.symm)
        | succ i => exact hmono (Nat.le_succ i)
      · cases i with
        | zero => exact h
        | succ i => exact hindex i

theorem faults_moves_take (s : ParseState) (list : List Move) (i : Nat) :
    (s.moves (list.take i)).faults <+: (s.moves (list.take (i + 1))).faults := by
  induction list generalizing s i with
  | nil =>
      simp only [List.take_nil]
      exact List.prefix_refl _
  | cons next rest ih =>
      cases i with
      | zero => exact Passage.faults.move s next
      | succ i => exact ih (s.move next) i

/-- **The parser is a forward-only window.** Let a parser make any moves. After each of them it
shows a token of its source and the one behind that, as they are in the list of tokens read in
advance, with the end marker repeated; the braces are counted up to the first of the two; the
window has not moved back, and the faults that were on record still are. -/
theorem window_moves_forward (maxDepth : Nat) (source : String) (list : List Move) :
    ∃ index : Nat → Nat, index 0 = 0 ∧ Monotone index ∧ ∀ i,
      ((ParseState.start maxDepth source).moves (list.take i)).Shows (readAhead source) (index i) ∧
        ((ParseState.start maxDepth source).moves (list.take i)).faults
          <+: ((ParseState.start maxDepth source).moves (list.take (i + 1))).faults := by
  obtain ⟨index, hzero, hmono, hindex⟩ :=
    exists_index_of_on (ParseState.On.start maxDepth source) list
  exact ⟨index, hzero, hmono, fun i => ⟨(hindex i).shows, faults_moves_take _ list i⟩⟩

end MonkeySyntax
