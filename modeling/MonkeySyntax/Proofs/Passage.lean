import MonkeySyntax.Parsing.Parser
import MonkeySyntax.Proofs.Probes

/-!
# What all parsing steps have in common

However a parser moves, it does so by advancing, by recording a fault and by going in and out of
levels of nesting. A relation between states that is closed under these, a `Passage`, therefore
holds between the state a reader starts in and the one it leaves, whether the reader succeeds or
not. That goes for the loops over statements also where a probe tampers with the statements, as long
as it stays within the relation.
-/

namespace MonkeySyntax

structure Passage (R : ParseState → ParseState → Prop) : Prop where
  refl : ∀ s, R s s
  trans : ∀ {s t u}, R s t → R t u → R s u
  advance : ∀ s, R s s.advance
  record : ∀ s fault, R s (s.record fault)
  nested : ∀ {s t}, s.depth < s.maxDepth → R s.enter t → R s t.leave

namespace ParseM

/-- The state a step leaves, whatever its outcome. -/
def after {α : Type} (m : ParseM α) (s : ParseState) : ParseState :=
  match m s with
  | .ok _ t => t
  | .error _ t => t

section After

variable {α β : Type} {m : ParseM α} {k : α → ParseM β} {a : α} {s t : ParseState} {fault : Fault}

theorem after_bind_of_ok (h : m s = .ok a t) : (m >>= k).after s = (k a).after t := by
  rw [after, bind_of_ok h, ← after]

theorem after_bind_of_error (h : m s = .error fault t) : (m >>= k).after s = t := by
  rw [after, bind_of_error h]

end After

def Keeps {α : Type} (R : ParseState → ParseState → Prop) (m : ParseM α) : Prop :=
  ∀ s, R s (m.after s)

theorem Keeps.of_ok {α : Type} {R : ParseState → ParseState → Prop} {m : ParseM α} {a : α}
    {s t : ParseState} (h : m.Keeps R) (hrun : m s = .ok a t) : R s t := by
  have := h s
  rwa [after, hrun] at this

theorem Keeps.of_error {α : Type} {R : ParseState → ParseState → Prop} {m : ParseM α}
    {fault : Fault} {s t : ParseState} (h : m.Keeps R) (hrun : m s = .error fault t) : R s t := by
  have := h s
  rwa [after, hrun] at this

end ParseM

/-- Inner phrases are read within the relation. -/
structure Inner.Keeps (R : ParseState → ParseState → Prop) (inner : Inner) : Prop where
  expression : ∀ least, (inner.expression least).Keeps R
  block : inner.block.Keeps R

namespace Passage

open ParseM

variable {α β : Type} {R : ParseState → ParseState → Prop} {inner : Inner}

section Primitives

variable (hR : Passage R)
include hR

theorem pure (a : α) : (Pure.pure a : ParseM α).Keeps R := hR.refl

theorem throw (fault : Fault) : (MonadExcept.throw fault : ParseM α).Keeps R := hR.refl

theorem get : (MonadState.get : ParseM ParseState).Keeps R := hR.refl

theorem current : ParseM.current.Keeps R := hR.refl

theorem peek : ParseM.peek.Keeps R := hR.refl

theorem step : ParseM.advance.Keeps R := hR.advance

theorem bind {m : ParseM α} {k : α → ParseM β} (hm : m.Keeps R) (hk : ∀ a, (k a).Keeps R) :
    (m >>= k).Keeps R := by
  intro s
  cases hrun : m s with
  | ok a t =>
      rw [after_bind_of_ok hrun]
      exact hR.trans (hm.of_ok hrun) (hk a t)
  | error fault t =>
      rw [after_bind_of_error hrun]
      exact hm.of_error hrun

theorem map {m : ParseM α} {f : α → β} (hm : m.Keeps R) : (f <$> m).Keeps R := by
  have heq : f <$> m = m >>= fun a => Pure.pure (f a) := by simp
  rw [heq]
  exact hR.bind hm fun a => hR.pure (f a)

theorem expectPeek (kind : TokenKind) : (ParseM.expectPeek kind).Keeps R := by
  intro s
  unfold after ParseM.expectPeek
  split
  · rename_i heq
    split at heq <;> cases heq
    exact hR.advance s
  · rename_i heq
    split at heq <;> cases heq
    exact hR.refl s

theorem skipSemicolon : ParseM.skipSemicolon.Keeps R := by
  refine hR.bind hR.peek fun next => ?_
  split
  · exact hR.step
  · exact hR.pure ()

theorem within {m : ParseM α} (hm : m.Keeps R) : (ParseM.nested m).Keeps R := by
  intro s
  by_cases hdeep : s.maxDepth ≤ s.depth
  · have hafter : (ParseM.nested m).after s = s := by
      rw [after, ParseM.nested, if_pos hdeep]
      rfl
    rw [hafter]
    exact hR.refl s
  · have hafter : (ParseM.nested m).after s = (m.after s.enter).leave := by
      unfold after ParseM.nested
      rw [if_neg hdeep]
      cases m s.enter <;> rfl
    rw [hafter]
    exact hR.nested (Nat.lt_of_not_le hdeep) (hm s.enter)

theorem resync (level : Nat) (s : ParseState) : R s (s.resync level).2 := by
  fun_induction ParseState.resync level s with
  | case1 s | case2 s | case3 s => exact hR.refl s
  | case4 s _ _ _ ih => exact hR.trans (hR.advance s) ih

theorem skip (t : ParseState) (fault : Fault) (level : Nat) :
    R t ((t.record fault).resync level).2 :=
  hR.trans (hR.record t fault) (hR.resync level _)

end Primitives

section Probed

variable (hR : Passage R) {probe : Probe} {level : Nat}
include hR

theorem probedBlockStatements (hattempt : (probe.attempt inner level).Keeps R) (steps : Nat) :
    (probe.blockStatements inner level steps).Keeps R := by
  induction steps with
  | zero => exact hR.refl
  | succ steps ih =>
      intro s
      by_cases hbrace : s.current.kind = .rightBrace
      · rw [after, Probe.blockStatements_of_brace hbrace]
        exact hR.refl s
      by_cases heof : s.current.kind = .eof
      · rw [after, Probe.blockStatements_of_eof heof]
        exact hR.refl s
      cases hrun : probe.attempt inner level s with
      | ok found t =>
          rw [after, Probe.blockStatements_of_ok hbrace heof hrun, ← after]
          exact hR.trans (hattempt.of_ok hrun) (hR.trans (hR.advance t) (hR.map ih t.advance))
      | error fault t =>
          have hsync := hR.trans (hattempt.of_error hrun) (hR.skip t fault level)
          cases hclosed : ((t.record fault).resync level).1 with
          | true =>
              rw [after, Probe.blockStatements_of_error_of_closed hbrace heof hrun hclosed]
              exact hsync
          | false =>
              rw [after, Probe.blockStatements_of_error_of_open hbrace heof hrun hclosed, ← after]
              exact hR.trans hsync (hR.trans (hR.advance _) (ih _))

theorem probedBlockBody (hattempt : ∀ level, (probe.attempt inner level).Keeps R) :
    (probe.blockBody inner).Keeps R := by
  refine hR.bind hR.get fun s => hR.bind hR.step fun _ => hR.bind hR.get fun t => ?_
  exact hR.bind (hR.probedBlockStatements (hattempt s.braces) t.remaining) fun _ => hR.pure _

theorem probedProgramStatements (hattempt : (probe.attempt inner 0).Keeps R) (steps : Nat)
    (s : ParseState) : R s (probe.programStatements inner steps s).2 := by
  induction steps generalizing s with
  | zero => exact hR.refl s
  | succ steps ih =>
      by_cases heof : s.current.kind = .eof
      · rw [Probe.programStatements_of_eof heof]
        exact hR.refl s
      cases hrun : probe.attempt inner 0 s with
      | ok found t =>
          rw [Probe.programStatements_of_ok heof hrun]
          exact hR.trans (hattempt.of_ok hrun) (hR.trans (hR.advance t) (ih _))
      | error fault t =>
          rw [Probe.programStatements_of_error heof hrun]
          have hsync := hR.trans (hattempt.of_error hrun) (hR.skip t fault 0)
          exact hR.trans hsync (hR.trans (hR.advance _) (ih _))

end Probed

section Readers

variable (hR : Passage R) (hinner : inner.Keeps R)
include hR

theorem integerLiteral : ParseM.integerLiteral.Keeps R := by
  refine hR.bind hR.current fun token => ?_
  split
  · exact hR.pure _
  · exact hR.throw _

theorem parameter : ParseM.parameter.Keeps R :=
  hR.bind (hR.expectPeek _) fun _ => hR.bind hR.current fun _ => hR.pure _

theorem more {item : ParseM α} {more : Nat → ParseM (List α)} {items : ParseM (List α)}
    (henum : Enumeration item more items) (hitem : item.Keeps R) (steps : Nat) :
    (more steps).Keeps R := by
  induction steps with
  | zero =>
      intro s
      rw [after, henum.more_zero]
      exact hR.refl s
  | succ steps ih =>
      intro s
      by_cases hkind : s.peek.kind = .comma
      · rw [after, henum.more_of_comma hkind, ← after]
        refine hR.trans (hR.advance s) (hR.bind hitem (fun _ => ?_) s.advance)
        exact hR.bind ih fun _ => hR.pure _
      · rw [after, henum.more_of_comma_ne hkind]
        exact hR.refl s

theorem items {item : ParseM α} {more : Nat → ParseM (List α)} {items : ParseM (List α)}
    (henum : Enumeration item more items) (hitem : item.Keeps R) : items.Keeps R := by
  intro s
  by_cases hkind : s.peek.kind = .rightParen
  · rw [after, henum.items_of_paren hkind]
    exact hR.advance s
  · rw [after, henum.items_of_paren_ne hkind, ← after]
    refine hR.bind hitem (fun _ => hR.bind hR.get fun t => ?_) s
    refine hR.bind (hR.more henum hitem _) fun _ => ?_
    exact hR.bind (hR.expectPeek _) fun _ => hR.pure _

include hinner

theorem unaryRest (operator : UnaryOp) : (ParseM.unaryRest inner operator).Keeps R := by
  refine hR.bind hR.current fun _ => hR.bind hR.step fun _ => ?_
  exact hR.bind (hinner.expression _) fun _ => hR.pure _

theorem groupRest : (ParseM.groupRest inner).Keeps R := by
  refine hR.bind hR.step fun _ => hR.bind (hinner.expression _) fun _ => ?_
  exact hR.bind (hR.expectPeek _) fun _ => hR.pure _

theorem braced : (ParseM.braced inner).Keeps R :=
  hR.bind (hR.expectPeek _) fun _ => hinner.block

theorem elseBranch : (ParseM.elseBranch inner).Keeps R := by
  refine hR.bind hR.peek fun next => ?_
  split
  · exact hR.bind hR.step fun _ => hR.bind (hR.braced hinner) fun _ => hR.pure _
  · exact hR.pure _

theorem conditionalRest : (ParseM.conditionalRest inner).Keeps R := by
  refine hR.bind hR.current fun _ => hR.bind (hR.expectPeek _) fun _ => ?_
  refine hR.bind (hR.groupRest hinner) fun _ => hR.bind (hR.braced hinner) fun _ => ?_
  exact hR.bind (hR.elseBranch hinner) fun _ => hR.pure _

theorem functionRest : (ParseM.functionRest inner).Keeps R := by
  refine hR.bind hR.current fun _ => hR.bind (hR.expectPeek _) fun _ => ?_
  refine hR.bind (hR.items enumeration_parameters hR.parameter) fun _ => ?_
  exact hR.bind (hR.braced hinner) fun _ => hR.pure _

theorem startRule (rule : StartRule) : (rule.parse inner).Keeps R := by
  cases rule with
  | identifier => exact hR.bind hR.current fun _ => hR.pure _
  | integer => exact hR.integerLiteral
  | boolean => exact hR.bind hR.current fun _ => hR.pure _
  | unary operator => exact hR.unaryRest hinner operator
  | group => exact hR.groupRest hinner
  | conditional => exact hR.conditionalRest hinner
  | function => exact hR.functionRest hinner

theorem argument : (ParseM.argument inner).Keeps R :=
  hR.bind hR.step fun _ => hinner.expression _

theorem continueRule (left : Expr) (rule : ContinueRule) : (rule.parse inner left).Keeps R := by
  cases rule with
  | binary operator =>
      refine hR.bind hR.current fun token => hR.bind hR.step fun _ => ?_
      exact hR.bind (hinner.expression _) fun _ => hR.pure _
  | call =>
      have harguments := hR.items (enumeration_arguments inner) (hR.argument hinner)
      exact hR.bind hR.current fun _ => hR.bind harguments fun _ => hR.pure _

theorem start : (ParseM.start inner).Keeps R := by
  refine hR.bind hR.current fun token => ?_
  split
  · exact hR.throw _
  · exact hR.startRule hinner _

theorem continued (least : Precedence) (steps : Nat) (left : Expr) :
    (ParseM.continued inner least steps left).Keeps R := by
  induction steps generalizing left with
  | zero => exact hR.pure _
  | succ steps ih =>
      refine hR.bind hR.peek fun next => ?_
      split
      · split
        · exact hR.pure _
        · refine hR.bind hR.step fun _ => ?_
          exact hR.bind (hR.continueRule hinner left _) fun expr => ih expr
      · exact hR.pure _

theorem expressionBody (least : Precedence) : (ParseM.expressionBody inner least).Keeps R :=
  hR.bind (hR.start hinner) fun _ => hR.bind hR.get fun _ => hR.continued hinner _ _ _

theorem letStatement : (ParseM.letStatement inner).Keeps R := by
  refine hR.bind hR.current fun _ => hR.bind (hR.expectPeek _) fun _ => ?_
  refine hR.bind hR.current fun _ => hR.bind (hR.expectPeek _) fun _ => ?_
  refine hR.bind hR.step fun _ => hR.bind (hinner.expression _) fun _ => ?_
  exact hR.bind hR.skipSemicolon fun _ => hR.pure _

theorem returnStatement : (ParseM.returnStatement inner).Keeps R := by
  refine hR.bind hR.current fun _ => hR.bind hR.peek fun next => ?_
  split
  · exact hR.bind hR.skipSemicolon fun _ => hR.pure _
  · exact hR.bind hR.skipSemicolon fun _ => hR.pure _
  · exact hR.bind hR.skipSemicolon fun _ => hR.pure _
  · refine hR.bind hR.step fun _ => hR.bind (hinner.expression _) fun _ => ?_
    exact hR.bind hR.skipSemicolon fun _ => hR.pure _

theorem expressionStatement : (ParseM.expressionStatement inner).Keeps R := by
  refine hR.bind hR.current fun _ => hR.bind (hinner.expression _) fun _ => ?_
  exact hR.bind hR.skipSemicolon fun _ => hR.pure _

theorem statement : (ParseM.statement inner).Keeps R := by
  refine hR.bind hR.current fun token => ?_
  split
  · exact hR.bind (hR.letStatement hinner) fun _ => hR.pure _
  · exact hR.bind (hR.returnStatement hinner) fun _ => hR.pure _
  · exact hR.pure _
  · exact hR.bind (hR.expressionStatement hinner) fun _ => hR.pure _

theorem blockStatements (level steps : Nat) :
    (ParseM.blockStatements inner level steps).Keeps R := by
  rw [← Probe.blockStatements_idle]
  exact hR.probedBlockStatements (Probe.attempt_idle inner level ▸ hR.statement hinner) steps

theorem blockBody : (ParseM.blockBody inner).Keeps R := by
  rw [← Probe.blockBody_idle]
  exact hR.probedBlockBody fun level => Probe.attempt_idle inner level ▸ hR.statement hinner

theorem programStatements (steps : Nat) (s : ParseState) :
    R s (s.programStatements inner steps).2 := by
  rw [← Probe.programStatements_idle]
  exact hR.probedProgramStatements (Probe.attempt_idle inner 0 ▸ hR.statement hinner) steps s

end Readers

theorem level (hR : Passage R) (n : Nat) : (Inner.level n).Keeps R := by
  induction n with
  | zero => exact ⟨fun _ => hR.refl, hR.refl⟩
  | succ n ih =>
      exact ⟨fun least => hR.within (hR.expressionBody ih least), hR.within (hR.blockBody ih)⟩

end Passage

end MonkeySyntax
