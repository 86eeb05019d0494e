import MonkeySyntax.Proofs.Braces
import MonkeySyntax.Proofs.Mirror
import MonkeySyntax.Proofs.Probes

/-!
# Blocks reach from brace to brace

A block ends on the brace that closes the one it begins with, whatever stands between the two, and
only for want of such a brace does it end in a fault, at the end of the source. What a list of
statements takes for the beginning of a statement has as many braces open before it as the list.

Tokens are counted from the start of the source, past its end on through the repeated end marker.
The parser keeps its own count of open braces; on the way from token to token (`Walks`) it is the
count of the braces before.
-/

namespace MonkeySyntax

open ParseM

theorem drop_append_const {α : Type} (as : List α) (last : α) (k : Nat) :
    (as ++ₛ Stream'.const last).drop k = as.drop k ++ₛ Stream'.const last := by
  induction k generalizing as with
  | zero => rfl
  | succ k ih =>
      cases as with
      | nil => exact Stream'.drop_const _ _
      | cons a as => exact ih as

/-- Token `k` of the source. -/
def tokenAt (source : String) (k : Nat) : Token := (Lexer.ofSource source).stream.get k

/-- How many braces are open before token `k` of the source. -/
def bracesBefore (source : String) (k : Nat) : Nat :=
  bracesAfterAll 0 ((Lexer.ofSource source).stream.take k)

theorem bracesBefore_succ (source : String) (k : Nat) :
    bracesBefore source (k + 1)
      = bracesAfter (bracesBefore source k) (tokenAt source k).kind := by
  rw [bracesBefore, Stream'.take_succ', bracesAfterAll_append]
  rfl

/-- Token `m` closes the brace that is token `k`: it is the first one after which fewer braces are
open. -/
structure Closes (source : String) (k m : Nat) : Prop where
  lt : k < m
  braces_eq : bracesBefore source (m + 1) + 1 = bracesBefore source (k + 1)
  first : ∀ j, k < j → j < m → bracesBefore source (j + 1) + 1 ≠ bracesBefore source (k + 1)

namespace ParseState

/-- The parser is on token `k` of the source. -/
structure On (source : String) (k : Nat) (s : ParseState) : Prop where
  stream_eq : s.stream = (Lexer.ofSource source).stream.drop k
  braces_eq : s.braces = bracesBefore source (k + 1)

/-- The parser is on a token with `level` open braces before it. -/
def Begins (source : String) (level : Nat) (s : ParseState) : Prop :=
  ∃ k, s.On source k ∧ bracesBefore source k = level

namespace On

variable {source : String} {k m : Nat} {s t : ParseState}

theorem start (maxDepth : Nat) (source : String) :
    (ParseState.start maxDepth source).On source 0 := by
  refine ⟨stream_start maxDepth source, ?_⟩
  rw [bracesBefore_succ]
  rfl

theorem current_eq (h : s.On source k) : s.current = tokenAt source k := by
  rw [← s.head_stream, h.stream_eq, Stream'.head_drop]
  rfl

theorem congr (h : s.On source k) (hstream : t.stream = s.stream) (hbraces : t.braces = s.braces) :
    t.On source k :=
  ⟨hstream.trans h.stream_eq, hbraces.trans h.braces_eq⟩

theorem enter (h : s.On source k) : s.enter.On source k := h.congr s.stream_enter rfl

theorem leave (h : s.On source k) : s.leave.On source k := h.congr s.stream_leave rfl

theorem advance (h : s.On source k) : s.advance.On source (k + 1) := by
  have hstream : s.advance.stream = (Lexer.ofSource source).stream.drop (k + 1) := by
    rw [s.stream_advance, h.stream_eq, Stream'.tail_drop']
  have hpeek : s.peek = tokenAt source (k + 1) := by
    rw [← s.current_advance, ← s.advance.head_stream, hstream, Stream'.head_drop]
    rfl
  refine ⟨hstream, ?_⟩
  rw [s.braces_advance, hpeek, h.braces_eq, bracesBefore_succ source (k + 1)]

theorem ends (h : s.On source k) : s.Ends := by
  obtain ⟨ts, last, htokens⟩ := exists_tokenize_eq_append source
  obtain ⟨hstream, hreal, hlast⟩ := Lexer.stream_of_tokens htokens
  refine ⟨ts.drop k, last, ?_, fun t ht => hreal t (List.mem_of_mem_drop ht), hlast⟩
  rw [h.stream_eq, hstream, drop_append_const]

/-- Past the end of the source no brace is opened or closed. -/
theorem bracesBefore_of_eof (h : s.On source k) (heof : s.current.kind = .eof) {j : Nat}
    (hj : k ≤ j) : bracesBefore source (j + 1) = bracesBefore source (k + 1) := by
  obtain ⟨d, rfl⟩ := Nat.exists_eq_add_of_le hj
  obtain ⟨ts, last, hsees⟩ := h.ends
  have hnil := hsees.current_eof_iff.mp heof
  have hstream := hsees.stream_eq
  rw [hnil, h.stream_eq] at hstream
  have heach : ∀ i, (tokenAt source (k + i)).kind = .eof := by
    intro i
    have hget := congrArg (fun stream => Stream'.get stream i) hstream
    simp only [Stream'.get_drop] at hget
    rw [tokenAt, hget]
    exact hsees.last_eof
  induction d with
  | zero => rfl
  | succ d ih =>
      rw [bracesBefore_succ, heach (d + 1)]
      exact ih (Nat.le_add_right k d)

end On

theorem Begins.starts {source : String} {level : Nat} {s : ParseState}
    (h : s.Begins source level) : s.Starts level := by
  obtain ⟨k, hon, hbraces⟩ := h
  refine ⟨hon.ends, ?_⟩
  rw [hon.braces_eq, bracesBefore_succ, hbraces, hon.current_eq]

end ParseState

theorem forall_between {P : Nat → Prop} {k i m : Nat} (hfirst : ∀ j, k ≤ j → j < i → P j)
    (hsecond : ∀ j, i ≤ j → j < m → P j) : ∀ j, k ≤ j → j < m → P j := by
  intro j hkj hjm
  by_cases hji : j < i
  · exact hfirst j hkj hji
  · exact hsecond j (Nat.le_of_not_lt hji) hjm

/-- From `s` to `t` the parser walks over tokens after which `level` braces or more are open. -/
structure Walks (source : String) (level : Nat) (s t : ParseState) : Prop where
  depth_eq : t.depth = s.depth
  maxDepth_eq : t.maxDepth = s.maxDepth
  trail : ∀ {k}, s.On source k → ∃ m, k ≤ m ∧ t.On source m ∧
    ∀ j, k ≤ j → j < m → level ≤ bracesBefore source (j + 1)

/-- The way of a parser that is allowed `maxDepth` levels of nesting, where `n` are left. -/
def walk (maxDepth : Nat) (source : String) (n : Nat) : Course where
  here s := (∃ k, s.On source k) ∧ s.depth + n = maxDepth ∧ s.maxDepth = maxDepth
  along := Walks source
  refl level s := ⟨rfl, rfl, fun {k} h => ⟨k, Nat.le_refl k, h, by omega⟩⟩
  trans {level s t u} hst htu := by
    refine ⟨htu.depth_eq.trans hst.depth_eq, htu.maxDepth_eq.trans hst.maxDepth_eq, ?_⟩
    intro k hs
    obtain ⟨i, hki, ht, hfirst⟩ := hst.trail hs
    obtain ⟨m, him, hu, hsecond⟩ := htu.trail ht
    exact ⟨m, Nat.le_trans hki him, hu, forall_between hfirst hsecond⟩
  advance {level s} hle := by
    refine ⟨rfl, rfl, fun {k} hs => ⟨k + 1, Nat.le_succ k, hs.advance, fun j hkj hjk => ?_⟩⟩
    obtain rfl : j = k := by omega
    rwa [← hs.braces_eq]
  record level s fault := ⟨rfl, rfl, fun {k} h => ⟨k, Nat.le_refl k, h.congr rfl rfl, by omega⟩⟩
  keeps {level s t} hs h := by
    obtain ⟨⟨k, hon⟩, hdepth, hmaxDepth⟩ := hs
    obtain ⟨m, -, ht, -⟩ := h.trail hon
    exact ⟨⟨m, ht⟩, by rw [h.depth_eq, hdepth], h.maxDepth_eq.trans hmaxDepth⟩

section Ways

variable {maxDepth : Nat} {source : String} {n level : Nat} {s t : ParseState}

theorem Walks.leave (h : Walks source level s.enter t) : Walks source level s t.leave := by
  refine ⟨Nat.sub_eq_of_eq_add h.depth_eq, h.maxDepth_eq, fun hon => ?_⟩
  obtain ⟨m, hkm, ht, htrail⟩ := h.trail hon.enter
  exact ⟨m, hkm, ht.leave, htrail⟩

theorem walk_enter (h : (walk maxDepth source (n + 1)).here s) :
    (walk maxDepth source n).here s.enter := by
  obtain ⟨⟨k, hon⟩, hdepth, hmaxDepth⟩ := h
  refine ⟨⟨k, hon.enter⟩, ?_, hmaxDepth⟩
  rw [← hdepth, Nat.add_comm n 1, ← Nat.add_assoc]
  rfl

theorem Walks.skip (h : Walks source level s t) (hinside : t.Inside level) (fault : Fault) :
    Walks source level s ((t.record fault).resync level).2 := by
  -- What lies along the way does not depend on the levels of nesting that are left.
  let c := walk 0 source 0
  exact c.trans h (c.trans (c.record level t fault) (c.along_resync (hinside.record fault)))

end Ways

/-! ### Going on after a statement -/

theorem ParseState.remaining_advance_le (s : ParseState) : s.advance.remaining ≤ s.remaining := by
  have hle := s.lexer.next_rest_length_le
  simp only [remaining, advance]
  by_cases heof : s.lexer.next.1.kind = .eof
  · simp only [heof, TokenKind.weight]
    omega
  · have hlt := Lexer.next_rest_length_lt heof
    simp only [TokenKind.weight_of_ne heof]
    omega

theorem Passage.remaining : Passage fun s t => t.remaining ≤ s.remaining where
  refl _ := Nat.le_refl _
  trans hst htu := Nat.le_trans htu hst
  advance := ParseState.remaining_advance_le
  record _ _ := Nat.le_refl _
  nested _ h := h

/-- There are steps left for every token ahead. -/
def Fueled (steps : Nat) (s : ParseState) : Prop :=
  s.remaining ≤ steps ∨ s.current.kind = .eof

theorem Fueled.eof_of_zero {s : ParseState} (h : Fueled 0 s) : s.current.kind = .eof := by
  rcases h with hle | heof
  · by_contra hreal
    have hweight := TokenKind.weight_of_ne hreal
    simp only [ParseState.remaining] at hle
    omega
  · exact heof

/-- Every round of a loop over statements passes a token at least. -/
theorem Fueled.next {steps : Nat} {s t : ParseState} (h : Fueled (steps + 1) s)
    (heof : s.current.kind ≠ .eof) (hle : t.remaining ≤ s.remaining) (hends : t.Ends) :
    Fueled steps t.advance := by
  by_cases hend : t.current.kind = .eof
  · exact .inr (hends.peek_eof hend)
  · have hlt := ParseState.remaining_advance_lt hend
    have hsteps := h.resolve_right heof
    exact .inl (by omega)

/-- Where a list of statements goes on: at a token of the list, or at the end of the source with the
list still open. -/
structure GoesOn (source : String) (level k steps : Nat) (s : ParseState) : Prop where
  on : s.On source k
  level_eq : bracesBefore source k = level ∨ s.current.kind = .eof ∧ level ≤ s.braces
  fueled : Fueled steps s

section Rounds

variable {source : String} {level k steps : Nat} {s t : ParseState}

theorem GoesOn.bracesBefore_eq (h : GoesOn source level k steps s)
    (heof : s.current.kind ≠ .eof) : bracesBefore source k = level :=
  h.level_eq.resolve_right fun hend => heof hend.1

theorem GoesOn.begins (h : GoesOn source level k steps s) (heof : s.current.kind ≠ .eof) :
    s.Begins source level :=
  ⟨k, h.on, h.bracesBefore_eq heof⟩

/-- The token behind a statement is where its list goes on. -/
theorem GoesOn.next (h : GoesOn source level k (steps + 1) s) (heof : s.current.kind ≠ .eof)
    (hwalks : Walks source level s t) (hremaining : t.remaining ≤ s.remaining)
    (ht : t.Stands level ∨ t.Ends ∧ t.current.kind = .eof ∧ level ≤ t.braces) :
    ∃ i, k < i ∧ (∀ j, k ≤ j → j < i → level ≤ bracesBefore source (j + 1)) ∧
      GoesOn source level i steps t.advance := by
  obtain ⟨m, hkm, hon, htrail⟩ := hwalks.trail h.on
  have hbraces : level ≤ t.braces := by
    rcases ht with ht | ⟨-, -, hle⟩
    · exact Nat.le_of_eq ht.braces_eq.symm
    · exact hle
  refine ⟨m + 1, by omega, fun j hkj hjm => ?_, hon.advance, ?_,
    h.fueled.next heof hremaining hon.ends⟩
  · by_cases hlast : j = m
    · rwa [hlast, ← hon.braces_eq]
    · exact htrail j hkj (by omega)
  · rcases ht with ht | ⟨hends, hend, hle⟩
    · exact .inl (hon.braces_eq.symm.trans ht.braces_eq)
    · have hpeek := hends.peek_eof hend
      refine .inr ⟨hpeek, ?_⟩
      rw [t.braces_advance, hpeek]
      exact hle

end Rounds

/-! ### Where statements begin -/

/-- Every statement that the step gives begins with the token. -/
def ParseM.BeginsWith (token : Token) (m : ParseM Statement) : Prop :=
  ∀ s found t, m s = .ok found t → found.token = token

section Tokens

variable {α : Type} {token : Token} {found : Statement} {inner : Inner} {s t : ParseState}

theorem beginsWith_pure (h : found.token = token) :
    (pure found : ParseM Statement).BeginsWith token := by
  intro s found' t hrun
  cases hrun
  exact h

theorem beginsWith_bind {m : ParseM α} {k : α → ParseM Statement}
    (hk : ∀ a, (k a).BeginsWith token) : (m >>= k).BeginsWith token := by
  intro s found t hrun
  obtain ⟨a, u, -, hrest⟩ := bind_eq_ok_iff.mp hrun
  exact hk a u found t hrest

theorem token_letStatement (hrun : letStatement inner s = .ok found t) :
    found.token = s.current := by
  rw [letStatement, bind_of_ok (current_apply s)] at hrun
  refine beginsWith_bind (fun _ => ?_) _ _ _ hrun
  iterate 5 refine beginsWith_bind fun _ => ?_
  exact beginsWith_pure rfl

theorem token_returnStatement (hrun : returnStatement inner s = .ok found t) :
    found.token = s.current := by
  by_cases hstops : s.peek.kind.Stops
  · rw [returnStatement_of_stops hstops] at hrun
    obtain ⟨_, -, rfl⟩ := map_eq_ok_iff.mp hrun
    rfl
  · rw [returnStatement_of_not_stops hstops] at hrun
    refine beginsWith_bind (fun _ => beginsWith_bind fun _ => ?_) _ _ _ hrun
    exact beginsWith_pure rfl

theorem token_expressionStatement (hrun : expressionStatement inner s = .ok found t) :
    found.token = s.current := by
  rw [expressionStatement, bind_of_ok (current_apply s)] at hrun
  refine beginsWith_bind (fun _ => beginsWith_bind fun _ => ?_) _ _ _ hrun
  exact beginsWith_pure rfl

theorem token_of_statement (hrun : statement inner s = .ok (some found) t) :
    found.token = s.current := by
  by_cases hlet : s.current.kind = .kwLet
  · rw [statement_of_let hlet] at hrun
    obtain ⟨_, hread, heq⟩ := map_eq_ok_iff.mp hrun
    cases heq
    exact token_letStatement hread
  by_cases hreturn : s.current.kind = .kwReturn
  · rw [statement_of_return hreturn] at hrun
    obtain ⟨_, hread, heq⟩ := map_eq_ok_iff.mp hrun
    cases heq
    exact token_returnStatement hread
  by_cases hsemicolon : s.current.kind = .semicolon
  · rw [statement_of_semicolon hsemicolon] at hrun
    cases hrun
  · rw [statement_of_other hlet hreturn hsemicolon] at hrun
    obtain ⟨_, hread, heq⟩ := map_eq_ok_iff.mp hrun
    cases heq
    exact token_expressionStatement hread

end Tokens

/-! ### Lists in braces -/

/-- How a list in braces ends that goes on with token `k`, where `level + 1` braces are open. -/
def EndsList (source : String) (level k : Nat) : Ending (List Statement) → Prop
  | .ok statements t => ∃ m, k ≤ m ∧ t.On source m ∧ t.current.kind = .rightBrace ∧
      t.braces = level ∧ (∀ j, k ≤ j → j < m → level < bracesBefore source (j + 1)) ∧
      ∀ statement ∈ statements, ∃ j, k ≤ j ∧ j < m ∧ statement.token = tokenAt source j ∧
        bracesBefore source j = level + 1
  | .error fault t => ∃ m, k ≤ m ∧ t.On source m ∧ t.current.kind = .eof ∧
      fault = .unexpectedEnd .rightBrace t.current.span ∧
      ∀ j, k ≤ j → j < m + 1 → level < bracesBefore source (j + 1)

section Lists

variable {maxDepth : Nat} {source : String} {probe : Probe} {n level k steps : Nat} {s : ParseState}

/-- A list that goes on at token `i` is the rest of one that goes on at token `k`, where a statement
may have been read. -/
theorem EndsList.cons {list : ParseM (List Statement)} {i : Nat}
    (h : EndsList source level i (list s)) (found : Option Statement) (hki : k < i)
    (htrail : ∀ j, k ≤ j → j < i → level < bracesBefore source (j + 1))
    (hlevel : bracesBefore source k = level + 1)
    (hfound : ∀ statement ∈ found, statement.token = tokenAt source k) :
    EndsList source level k (((found.toList ++ ·) <$> list) s) := by
  rw [map_apply]
  cases hrun : list s with
  | ok statements t =>
      rw [hrun] at h
      obtain ⟨m, him, hon, hkind, hbraces, hrest, hstatements⟩ := h
      refine ⟨m, by omega, hon, hkind, hbraces, forall_between htrail hrest, ?_⟩
      refine List.forall_mem_append.mpr ⟨?_, ?_⟩
      · intro statement hmem
        exact ⟨k, Nat.le_refl k, by omega, hfound statement (by simpa using hmem), hlevel⟩
      · intro statement hmem
        obtain ⟨j, hij, hjm, htoken, hlevel⟩ := hstatements statement hmem
        exact ⟨j, by omega, hjm, htoken, hlevel⟩
  | error fault t =>
      rw [hrun] at h
      obtain ⟨m, him, hon, hkind, hfault, hrest⟩ := h
      exact ⟨m, by omega, hon, hkind, hfault, forall_between htrail hrest⟩

theorem EndsList.of_eof (h : GoesOn source (level + 1) k steps s) (heof : s.current.kind = .eof) :
    EndsList source level k (.error (.unexpectedEnd .rightBrace s.current.span) s) := by
  refine ⟨k, Nat.le_refl k, h.on, heof, rfl, ?_⟩
  intro j hkj hjk
  obtain rfl : j = k := by omega
  rcases h.level_eq with hlevel | ⟨-, hle⟩
  · rw [bracesBefore_succ, hlevel, ← h.on.current_eq, heof]
    exact Nat.lt_succ_self level
  · rwa [← h.on.braces_eq]

theorem EndsList.trail {list : ParseM (List Statement)} (h : EndsList source level k (list s)) :
    ∃ m, k ≤ m ∧ (Ending.state (list s)).On source m ∧
      ∀ j, k ≤ j → j < m → level ≤ bracesBefore source (j + 1) := by
  cases hrun : list s with
  | ok statements t =>
      rw [hrun] at h
      obtain ⟨m, hkm, hon, -, -, htrail, -⟩ := h
      exact ⟨m, hkm, hon, fun j hkj hjm => Nat.le_of_lt (htrail j hkj hjm)⟩
  | error fault t =>
      rw [hrun] at h
      obtain ⟨m, hkm, hon, -, -, htrail⟩ := h
      exact ⟨m, hkm, hon, fun j hkj hjm => Nat.le_of_lt (htrail j hkj (Nat.lt_succ_of_lt hjm))⟩

theorem EndsList.of_brace (h : GoesOn source (level + 1) k steps s)
    (hbrace : s.current.kind = .rightBrace) : EndsList source level k (.ok [] s) := by
  refine ⟨k, Nat.le_refl k, h.on, hbrace, ?_, by omega, by simp⟩
  have hlevel := h.bracesBefore_eq (by simp [hbrace])
  rw [h.on.braces_eq, bracesBefore_succ, hlevel, ← h.on.current_eq, hbrace]
  rfl

end Lists

/-! ### Blocks -/

/-- How a block ends that begins with token `k`: on the brace that closes it, or else, for want of
one, at the end of the source. -/
structure EndsBlock (source : String) (k : Nat) (ending : Ending Block) : Prop where
  closed : ∀ m, Closes source k m → ∃ block t, ending = .ok block t ∧ t.On source m ∧
    t.current.kind = .rightBrace ∧ ∀ statement ∈ block.statements, ∃ j, k < j ∧ j < m ∧
      statement.token = tokenAt source j ∧ bracesBefore source j = bracesBefore source (k + 1)
  unclosed : (∀ m, ¬ Closes source k m) → ∃ m t, t.On source m ∧ t.current.kind = .eof ∧
    ending = .error (.unexpectedEnd .rightBrace t.current.span) t

/-- The probe shows only where a block does not end as it should, or a statement does not begin at
the level of its list. -/
structure Probe.Spares (maxDepth : Nat) (source : String) (probe : Probe) : Prop where
  block : ∀ {s r}, (∃ k, s.On source k) → s.current.kind = .leftBrace →
    (∀ k, s.On source k → s.depth < maxDepth → EndsBlock source k r) → probe.block s r = r
  statement : ∀ {level s r}, s.Begins source level → probe.statement level s r = r

section Blocks

variable {maxDepth : Nat} {source : String} {probe : Probe} {n level k m steps : Nat}
  {s t : ParseState}

theorem Closes.unique {m' : Nat} (h : Closes source k m) (h' : Closes source k m') : m = m' := by
  rcases Nat.lt_trichotomy m m' with hlt | heq | hlt
  · exact absurd h.braces_eq (h'.first m h.lt hlt)
  · exact heq
  · exact absurd h'.braces_eq (h.first m' h'.lt hlt)

theorem EndsList.endsBlock_ok {statements : List Statement} (token : Token)
    (h : EndsList source level (k + 1) (.ok statements t))
    (hlevel : bracesBefore source (k + 1) = level + 1) :
    EndsBlock source k (.ok (.mk token statements) t.leave) := by
  obtain ⟨m, hkm, hon, hkind, hbraces, htrail, hstatements⟩ := h
  have hcloses : Closes source k m := by
    refine ⟨hkm, ?_, fun j hkj hjm heq => ?_⟩
    · rw [← hon.braces_eq, hbraces, hlevel]
    · have hopen := htrail j hkj hjm
      omega
  refine ⟨fun m' hcloses' => ?_, fun hnone => absurd hcloses (hnone m)⟩
  obtain rfl := hcloses.unique hcloses'
  refine ⟨_, _, rfl, hon.leave, hkind, fun statement hmem => ?_⟩
  obtain ⟨j, hkj, hjm, htoken, heq⟩ := hstatements statement hmem
  exact ⟨j, hkj, hjm, htoken, heq.trans hlevel.symm⟩

theorem EndsList.endsBlock_error {fault : Fault}
    (h : EndsList source level (k + 1) (.error fault t))
    (hlevel : bracesBefore source (k + 1) = level + 1) :
    EndsBlock source k (.error fault t.leave) := by
  obtain ⟨m, hkm, hon, heof, rfl, htrail⟩ := h
  refine ⟨fun m' hcloses => ?_, fun _ => ⟨m, t.leave, hon.leave, heof, rfl⟩⟩
  have hopen : level < bracesBefore source (m' + 1) := by
    by_cases hm' : m' < m + 1
    · exact htrail m' hcloses.lt hm'
    · rw [hon.bracesBefore_of_eof heof (by omega)]
      exact htrail m hkm (Nat.lt_succ_self m)
  have hclosed := hcloses.braces_eq
  omega

/-! ### Rounds under a probe -/

section Probed

variable (hprobe : probe.Spares maxDepth source)
  (hinner : (Inner.level n).Tracked (walk maxDepth source n) (probe.inner n))
include hprobe hinner

/-- A statement of a list is read the same under a probe that spares it. -/
theorem GoesOn.tracked (h : GoesOn source level k steps s) (hs : (walk maxDepth source n).here s)
    (heof : s.current.kind ≠ .eof) :
    Tracked (walk maxDepth source n) level s (statement (.level n) s)
      (probe.attempt (probe.inner n) level s) := by
  have hbegins := h.begins heof
  have htracked := tracked_statement hinner ⟨hbegins.starts, hs⟩
  exact ⟨(hprobe.statement hbegins).trans htracked.same, htracked.leveled, htracked.along⟩

theorem GoesOn.of_ok {found : Option Statement} (h : GoesOn source level k (steps + 1) s)
    (hs : (walk maxDepth source n).here s) (heof : s.current.kind ≠ .eof)
    (hrun : statement (.level n) s = .ok found t) :
    probe.attempt (probe.inner n) level s = .ok found t ∧
      (walk maxDepth source n).here t.advance ∧
      ∃ i, k < i ∧ (∀ j, k ≤ j → j < i → level ≤ bracesBefore source (j + 1)) ∧
        GoesOn source level i steps t.advance := by
  obtain ⟨hsame, hleveled, hwalks⟩ := h.tracked hprobe hinner hs heof
  rw [hrun] at hsame hleveled hwalks
  have hremaining := (Passage.remaining.statement (Passage.remaining.level n)).of_ok hrun
  refine ⟨hsame, ?_, h.next heof hwalks hremaining (.inl hleveled)⟩
  exact (walk maxDepth source n).here_advance ((walk maxDepth source n).keeps hs hwalks)

theorem GoesOn.of_error {fault : Fault} (h : GoesOn source level k (steps + 1) s)
    (hs : (walk maxDepth source n).here s) (heof : s.current.kind ≠ .eof)
    (hrun : statement (.level n) s = .error fault t) :
    probe.attempt (probe.inner n) level s = .error fault t ∧ (t.record fault).Inside level ∧
      Walks source level s ((t.record fault).resync level).2 ∧
      (((t.record fault).resync level).1 = false →
        (walk maxDepth source n).here ((t.record fault).resync level).2.advance ∧
        ∃ i, k < i ∧ (∀ j, k ≤ j → j < i → level ≤ bracesBefore source (j + 1)) ∧
          GoesOn source level i steps ((t.record fault).resync level).2.advance) := by
  obtain ⟨hsame, hleveled, hwalks⟩ := h.tracked hprobe hinner hs heof
  rw [hrun] at hsame hleveled hwalks
  have hinside := ParseState.Inside.record hleveled fault
  have hsync : Walks source level s _ := Walks.skip hwalks hleveled fault
  refine ⟨hsame, hinside, hsync, fun hopen => ⟨?_, ?_⟩⟩
  · exact (walk maxDepth source n).here_advance ((walk maxDepth source n).keeps hs hsync)
  · have hremaining : t.remaining ≤ s.remaining :=
      (Passage.remaining.statement (Passage.remaining.level n)).of_error hrun
    have hshorter := Passage.remaining.resync level (t.record fault)
    exact h.next heof hsync (Nat.le_trans hshorter hremaining) (hinside.resync.2 hopen)

/-- A list in braces is read the same under a probe that spares it, and ends where it should. -/
theorem endsList_blockStatements (hs : (walk maxDepth source n).here s)
    (h : GoesOn source (level + 1) k steps s) :
    probe.blockStatements (probe.inner n) (level + 1) steps s
        = blockStatements (.level n) (level + 1) steps s ∧
      EndsList source level k (blockStatements (.level n) (level + 1) steps s) := by
  induction steps generalizing s k with
  | zero => exact ⟨rfl, .of_eof h h.fueled.eof_of_zero⟩
  | succ steps ih =>
      by_cases hbrace : s.current.kind = .rightBrace
      · rw [blockStatements_of_brace hbrace, Probe.blockStatements_of_brace hbrace]
        exact ⟨rfl, .of_brace h hbrace⟩
      by_cases heof : s.current.kind = .eof
      · rw [blockStatements_of_eof heof, Probe.blockStatements_of_eof heof]
        exact ⟨rfl, .of_eof h heof⟩
      have hlevel := h.bracesBefore_eq heof
      cases hrun : statement (.level n) s with
      | ok found t =>
          obtain ⟨hattempt, ht, i, hki, htrail, hnext⟩ := h.of_ok hprobe hinner hs heof hrun
          obtain ⟨hrest, hends⟩ := ih ht hnext
          rw [blockStatements_of_ok hbrace heof hrun,
            Probe.blockStatements_of_ok hbrace heof hattempt]
          refine ⟨by rw [map_apply, map_apply, hrest], hends.cons found hki htrail hlevel ?_⟩
          rintro statement rfl
          rw [token_of_statement hrun, h.on.current_eq]
      | error fault t =>
          obtain ⟨hattempt, hinside, hsync, hopen⟩ := h.of_error hprobe hinner hs heof hrun
          cases hclosed : ((t.record fault).resync (level + 1)).1 with
          | true =>
              rw [blockStatements_of_error_of_closed hbrace heof hrun hclosed,
                Probe.blockStatements_of_error_of_closed hbrace heof hattempt hclosed]
              obtain ⟨-, hkind, hbraces⟩ := hinside.resync.1 hclosed
              obtain ⟨m, hkm, hon, htrail⟩ := hsync.trail h.on
              exact ⟨rfl, m, hkm, hon, hkind, Nat.succ.inj hbraces, htrail, by simp⟩
          | false =>
              rw [blockStatements_of_error_of_open hbrace heof hrun hclosed,
                Probe.blockStatements_of_error_of_open hbrace heof hattempt hclosed]
              obtain ⟨ht, i, hki, htrail, hnext⟩ := hopen hclosed
              obtain ⟨hrest, hends⟩ := ih ht hnext
              exact ⟨hrest, by simpa using hends.cons none hki htrail hlevel nofun⟩

theorem endsList_of_brace (h : (walk maxDepth source n).Stands (level + 1) s)
    (hon : s.On source k) :
    probe.blockStatements (probe.inner n) s.braces s.advance.remaining s.advance
        = blockStatements (.level n) s.braces s.advance.remaining s.advance ∧
      EndsList source level (k + 1)
        (blockStatements (.level n) s.braces s.advance.remaining s.advance) := by
  rw [h.stands.braces_eq]
  refine endsList_blockStatements hprobe hinner h.advance.here ⟨hon.advance, .inl ?_, .inl ?_⟩
  · rw [← hon.braces_eq, h.stands.braces_eq]
  · exact Nat.le_refl _

theorem tracked_blockBody (h : (walk maxDepth source n).Stands (level + 1) s) :
    Tracked (walk maxDepth source n) level s (blockBody (.level n) s)
      (probe.blockBody (probe.inner n) s) := by
  have hkeeps {R} (hR : Passage R) := hR.blockBody (hR.level n) s
  refine ⟨?_, leveled_blockBody (Inner.leveled_level n) h.stands, ?_, ?_, ?_⟩
  · obtain ⟨k, hon⟩ := h.here.1
    rw [blockBody_apply, Probe.blockBody_apply, map_apply, map_apply,
      (endsList_of_brace hprobe hinner h hon).1]
  · exact hkeeps Passage.depth
  · exact hkeeps Passage.maxDepth
  · intro k hon
    rw [blockBody_apply, state_map]
    obtain ⟨m, hkm, hlast, htrail⟩ := (endsList_of_brace hprobe hinner h hon).2.trail
    refine ⟨m, Nat.le_of_succ_le hkm, hlast, forall_between (fun j hkj hjk => ?_) htrail⟩
    obtain rfl : j = k := by omega
    rw [← hon.braces_eq, h.stands.braces_eq]
    exact Nat.le_succ level

theorem endsBlock_nested (h : (walk maxDepth source (n + 1)).Stands (level + 1) s)
    (hon : s.On source k) :
    EndsBlock source k (nested (blockBody (.level n)) s) := by
  have hlevel : bracesBefore source (k + 1) = level + 1 := by
    rw [← hon.braces_eq, h.stands.braces_eq]
  have hends := (endsList_of_brace hprobe hinner ⟨h.stands.enter, walk_enter h.here⟩ hon.enter).2
  have hdeep : ¬ s.maxDepth ≤ s.depth := by
    have hdepth := h.here.2.1
    rw [h.here.2.2]
    omega
  rw [nested, if_neg hdeep, blockBody_apply, map_apply]
  cases hrun : blockStatements (.level n) s.enter.braces s.enter.advance.remaining
      s.enter.advance with
  | ok statements t =>
      rw [hrun] at hends
      exact hends.endsBlock_ok s.enter.current hlevel
  | error fault t =>
      rw [hrun] at hends
      exact hends.endsBlock_error hlevel

end Probed

theorem Probe.Spares.tracked_level (hprobe : probe.Spares maxDepth source) (n : Nat) :
    (Inner.level n).Tracked (walk maxDepth source n) (probe.inner n) := by
  induction n with
  | zero =>
      constructor
      · intro level s least h
        exact .error _ h.starts.inside
      · intro level s h hkind
        obtain ⟨hon, hdepth, -⟩ := h.here
        have hsame := hprobe.block (r := ParseM.tooDeep s) hon hkind fun k _ hlt => by omega
        exact ⟨hsame, h.stands.inside_of_succ, (walk maxDepth source 0).refl level s⟩
  | succ n ih =>
      constructor
      · intro level s least h
        have hs := walk_enter h.here
        have hbody := tracked_expressionBody ih least ⟨h.starts.enter, hs⟩
        exact .nested (fun _ => hbody) h.starts.inside .leave
      · intro level s h hkind
        have hbody := tracked_blockBody hprobe ih ⟨h.stands.enter, walk_enter h.here⟩
        have hnested := Tracked.nested (c := walk maxDepth source (n + 1)) (fun _ => hbody)
          h.stands.inside_of_succ .leave
        refine ⟨?_, hnested.leveled, hnested.along⟩
        change probe.block s _ = _
        rw [hnested.same]
        exact hprobe.block h.here.1 hkind fun k hon _ => endsBlock_nested hprobe ih h hon

/-! ### Programs -/

theorem begins_programStatements (hprobe : probe.Spares maxDepth source)
    (hs : (walk maxDepth source n).here s) (h : GoesOn source 0 k steps s) :
    probe.programStatements (probe.inner n) steps s = s.programStatements (.level n) steps ∧
      ∀ statement ∈ (s.programStatements (.level n) steps).1, ∃ j,
        statement.token = tokenAt source j ∧ bracesBefore source j = 0 := by
  have hinner := hprobe.tracked_level n
  induction steps generalizing s k with
  | zero => exact ⟨rfl, by simp [ParseState.programStatements]⟩
  | succ steps ih =>
      by_cases heof : s.current.kind = .eof
      · rw [programStatements_of_eof heof, Probe.programStatements_of_eof heof]
        exact ⟨rfl, by simp⟩
      have hlevel := h.bracesBefore_eq heof
      cases hrun : statement (.level n) s with
      | ok found t =>
          obtain ⟨hattempt, ht, i, -, -, hnext⟩ := h.of_ok hprobe hinner hs heof hrun
          obtain ⟨hrest, hstatements⟩ := ih ht hnext
          rw [programStatements_of_ok heof hrun, Probe.programStatements_of_ok heof hattempt, hrest]
          refine ⟨rfl, List.forall_mem_append.mpr ⟨fun statement hmem => ?_, hstatements⟩⟩
          obtain rfl : found = some statement := by simpa using hmem
          exact ⟨k, by rw [token_of_statement hrun, h.on.current_eq], hlevel⟩
      | error fault t =>
          obtain ⟨hattempt, hinside, -, hopen⟩ := h.of_error hprobe hinner hs heof hrun
          obtain ⟨ht, i, -, -, hnext⟩ := hopen hinside.resync_zero_open
          rw [programStatements_of_error heof hrun, Probe.programStatements_of_error heof hattempt]
          exact ih ht hnext

theorem goesOn_start (maxDepth : Nat) (source : String) :
    GoesOn source 0 0 (ParseState.start maxDepth source).remaining (.start maxDepth source) :=
  ⟨.start maxDepth source, .inl rfl, .inl (Nat.le_refl _)⟩

theorem walk_start (maxDepth : Nat) (source : String) :
    (walk maxDepth source (ParseState.start maxDepth source).headroom).here
      (.start maxDepth source) :=
  ⟨⟨0, .start maxDepth source⟩, Nat.zero_add maxDepth, rfl⟩

theorem parse_of_spares (h : probe.Spares maxDepth source) :
    probe.parse maxDepth source = parse maxDepth source := by
  have hrun := (begins_programStatements h (walk_start maxDepth source)
    (goesOn_start maxDepth source)).1
  exact congrArg (fun run => (⟨⟨run.1⟩, run.2.faults, run.2.log⟩ : Parsed)) hrun

end Blocks

/-- **Braces delimit blocks.** Whatever a source holds, every block that the parser reads from it,
and that is not nested too deep, ends on the brace that closes it, or else, for want of one, at the
end of the source. Every statement that the parser attempts, and so every statement that it finds,
begins at the level of its list. -/
theorem blocks_delimited_by_braces (maxDepth : Nat) (source : String) :
    (∀ s ending, ReadsBlock maxDepth source s ending →
      (∃ k, s.On source k) ∧ s.current.kind = .leftBrace ∧
        ∀ k, s.On source k → s.depth < maxDepth → EndsBlock source k ending) ∧
    (∀ level s, AttemptsStatement maxDepth source level s → s.Begins source level) ∧
    ∀ statement ∈ (parse maxDepth source).program.statements, ∃ k,
      statement.token = tokenAt source k ∧ bracesBefore source k = 0 := by
  refine ⟨fun s ending hreads => ?_, fun level s hattempts => ?_, ?_⟩
  -- A probe of a call that is not as it should be shows nowhere, so there is no such call.
  · obtain ⟨probe, hblock, hstatement, hshows⟩ := hreads
    by_contra hbad
    refine hshows (parse_of_spares ⟨fun {t r} hon hkind hends => ?_, ?_⟩)
    · by_contra hne
      obtain ⟨rfl, rfl⟩ := hblock t r hne
      exact hbad ⟨hon, hkind, hends⟩
    · exact fun _ => hstatement _ _ _
  · obtain ⟨probe, hblock, hstatement, hshows⟩ := hattempts
    by_contra hbad
    refine hshows (parse_of_spares ⟨fun _ _ _ => hblock _ _, fun {level' t r} hbegins => ?_⟩)
    by_contra hne
    obtain ⟨rfl, rfl⟩ := hstatement level' t r hne
    exact hbad hbegins
  · have hidle : Probe.idle.Spares maxDepth source := ⟨fun _ _ _ => rfl, fun _ => rfl⟩
    exact (begins_programStatements hidle (walk_start maxDepth source)
      (goesOn_start maxDepth source)).2

/-- A block with a broken statement, which runs into the closing brace. -/
theorem blocks_delimited_by_braces_of_let :
    let s := (ParseState.start 9 "if(a){let}b").enter.advance.advance.advance.advance
    ReadsBlock 9 "if(a){let}b" s ((Inner.level 8).block s) ∧ Closes "if(a){let}b" 4 6 ∧
      (∃ block t, (Inner.level 8).block s = .ok block t ∧ t.On "if(a){let}b" 6) ∧
      AttemptsStatement 9 "if(a){let}b" 1 s.enter.advance ∧
      s.enter.advance.Begins "if(a){let}b" 1 := by
  intro s
  have hreads : ReadsBlock 9 "if(a){let}b" s ((Inner.level 8).block s) :=
    .of_mark (by decide +kernel)
  have hattempts : AttemptsStatement 9 "if(a){let}b" 1 s.enter.advance :=
    .of_mark (by decide +kernel)
  have hcloses : Closes "if(a){let}b" 4 6 := by
    refine ⟨by decide, by decide +kernel, fun j hlt hgt => ?_⟩
    obtain rfl : j = 5 := by omega
    decide +kernel
  have hon : s.On "if(a){let}b" 4 :=
    (ParseState.On.start 9 "if(a){let}b").enter.advance.advance.advance.advance
  obtain ⟨hblocks, hstatements, -⟩ := blocks_delimited_by_braces 9 "if(a){let}b"
  have hends := (hblocks s _ hreads).2.2 4 hon (by decide +kernel)
  obtain ⟨block, t, hrun, ht, -⟩ := hends.closed 6 hcloses
  exact ⟨hreads, hcloses, ⟨block, t, hrun, ht⟩, hattempts, hstatements 1 _ hattempts⟩

end MonkeySyntax
