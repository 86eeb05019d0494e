import MonkeySyntax.Proofs.Tiling

/-!
# Which texts are read as which tokens

A lexeme is as long as it can be. So a text that is written token by token, with blanks where one
likes, is read as these tokens, unless two of them stand side by side of which the first reads on
over the second. Which kinds of tokens do that to each other is said by `TokenKind.Fuses`; the
lexer, which knows nothing of the second token but its first character, goes by
`TokenKind.readsOn`.
-/

namespace MonkeySyntax

namespace TokenKind

/-- Names and keywords are words. -/
def isWord (kind : TokenKind) : Bool := kind == identifier || kind.isKeyword

/-- Two tokens of these kinds have to be kept apart. -/
def Fuses (a b : TokenKind) : Prop :=
  a.isWord = true ∧ b.isWord = true ∨ a = integer ∧ b = integer ∨
    (a = assign ∨ a = bang) ∧ (b = assign ∨ b = equal)

instance (a b : TokenKind) : Decidable (a.Fuses b) := inferInstanceAs (Decidable (_ ∨ _))

/-- Whether a token of this kind is longer if `c` comes right behind it. -/
def readsOn (kind : TokenKind) (c : Char) : Bool :=
  kind.isWord && isWordChar c || kind == integer && c.isDigit ||
    (kind == assign || kind == bang) && c == '='

end TokenKind

/-- The characters that operators and other marks begin with. -/
def punctuation : List Char :=
  ['=', '!', ';', ',', '(', ')', '\x7b', '\x7d', '+', '-', '*', '/', '<', '>']

/-- What a token of a kind can be written as. -/
inductive Lexical : TokenKind → String → Prop where
  | fixed {kind : TokenKind} {literal : String} (hspelling : kind.spelling? = some literal) :
      Lexical kind literal
  | name {literal : String} (hsome : literal ≠ "")
      (hword : ∀ c ∈ literal.toList, isWordChar c = true)
      (hkeyword : ∀ kind : TokenKind, kind.isKeyword = true → kind.spelling? ≠ some literal) :
      Lexical .identifier literal
  | number {literal : String} (hsome : literal ≠ "")
      (hdigit : ∀ c ∈ literal.toList, c.isDigit = true) : Lexical .integer literal
  | foreign {c : Char} (hblank : isBlank c = false) (hword : isWordChar c = false)
      (hdigit : c.isDigit = false) (hmark : c ∉ punctuation) : Lexical .illegal (String.ofList [c])

/-- The characters of a token by the way in which they are read. -/
inductive Lexeme.Shape (kind : TokenKind) : List Char → Prop where
  | word {c : Char} {cs : List Char} (hword : ∀ d ∈ c :: cs, isWordChar d = true)
      (hkind : .ofWord (String.ofList (c :: cs)) = kind) : Shape kind (c :: cs)
  | number {c : Char} {cs : List Char} (hdigit : ∀ d ∈ c :: cs, d.isDigit = true)
      (hkind : .integer = kind) : Shape kind (c :: cs)
  | symbol {c : Char} (hblank : isBlank c = false) (hword : isWordChar c = false)
      (hdigit : c.isDigit = false) (hkind : .ofSymbol c = kind) : Shape kind [c]
  | pair {c : Char} (hkind : TokenKind.withEquals? c = some kind) : Shape kind [c, '=']

theorem TokenKind.ofWord_eq_identifier {word : String}
    (h : ∀ kind : TokenKind, kind.isKeyword = true → kind.spelling? ≠ some word) :
    ofWord word = identifier := by
  have hnone : keywords.find? (fun kind => kind.spelling? == some word) = none := by
    rw [List.find?_eq_none]
    intro kind hkind
    simpa using h kind (List.of_mem_filter hkind)
  rw [ofWord, hnone]
  rfl

theorem TokenKind.ofWord_of_isKeyword {kind : TokenKind} {word : String}
    (h : kind.isKeyword = true) (hspelling : kind.spelling? = some word) : ofWord word = kind := by
  cases kind with
  | kwFn | kwLet | kwTrue | kwFalse | kwIf | kwElse | kwReturn =>
      obtain rfl := Option.some.inj hspelling
      decide
  | _ => cases h

theorem TokenKind.isWord_of_ofWord {kind : TokenKind} {word : String} (h : ofWord word = kind) :
    kind.isWord = true := by
  subst h
  unfold ofWord isWord
  cases hfind : keywords.find? fun kind => kind.spelling? == some word with
  | none => rfl
  | some kind =>
      have hkeyword : kind.isKeyword = true := List.of_mem_filter (List.mem_of_find?_eq_some hfind)
      simp [hkeyword]

namespace Lexeme

/-! ### Classes of characters -/

theorem isDigit_of_isWordChar {c : Char} (h : isWordChar c = true) : c.isDigit = false := by
  unfold isWordChar at h
  delta Char.isAlpha Char.isUpper Char.isLower at h
  simp only [Bool.or_eq_true, Bool.and_eq_true, decide_eq_true_eq, beq_iff_eq] at h
  simp only [Char.isDigit, Bool.and_eq_false_iff, decide_eq_false_iff_not]
  rcases h with (h | h) | rfl
  · right
    have := h.1
    simp [UInt32.le_iff_toNat_le] at *
    omega
  · right
    have := h.1
    simp [UInt32.le_iff_toNat_le] at *
    omega
  · exact .inr (by decide)

theorem isWordChar_of_isDigit {c : Char} (h : c.isDigit = true) : isWordChar c = false := by
  rw [Bool.eq_false_iff]
  intro hword
  rw [isDigit_of_isWordChar hword] at h
  exact Bool.noConfusion h

theorem classes_of_isBlank {c : Char} (h : isBlank c = true) :
    isWordChar c = false ∧ c.isDigit = false ∧ c ≠ '=' := by
  simp only [isBlank_iff, List.mem_cons, List.not_mem_nil, or_false] at h
  obtain rfl | rfl | rfl | rfl := h <;> decide

/-! ### What is written and what is read -/

theorem exists_cons_of_ne_empty {literal : String} (h : literal ≠ "") :
    ∃ c cs, literal.toList = c :: cs :=
  List.exists_cons_of_ne_nil (mt String.toList_eq_nil_iff.mp h)

theorem Shape.of_spelling? {kind : TokenKind} {literal : String}
    (h : kind.spelling? = some literal) : Shape kind literal.toList := by
  cases kind with
  | illegal | eof | identifier | integer => cases h
  | equal | notEqual =>
      obtain rfl := Option.some.inj h
      simp only [String.reduceToList]
      exact .pair rfl
  | kwFn | kwLet | kwTrue | kwFalse | kwIf | kwElse | kwReturn =>
      obtain rfl := Option.some.inj h
      simp only [String.reduceToList]
      exact .word (List.all_eq_true.mp rfl) (by decide)
  | _ =>
      obtain rfl := Option.some.inj h
      simp only [String.reduceToList]
      exact .symbol (by decide) (by decide) (by decide) rfl

theorem ofSymbol_of_not_mem {c : Char} (h : c ∉ punctuation) :
    TokenKind.ofSymbol c = .illegal := by
  simp [punctuation] at h
  simp [TokenKind.ofSymbol, h]

theorem Shape.of_lexical {kind : TokenKind} {literal : String} (h : Lexical kind literal) :
    Shape kind literal.toList := by
  cases h with
  | fixed hspelling => exact .of_spelling? hspelling
  | name hsome hword hkeyword =>
      obtain ⟨c, cs, hcs⟩ := exists_cons_of_ne_empty hsome
      rw [hcs] at hword ⊢
      refine .word hword ?_
      rw [← hcs, String.ofList_toList]
      exact TokenKind.ofWord_eq_identifier hkeyword
  | number hsome hdigit =>
      obtain ⟨c, cs, hcs⟩ := exists_cons_of_ne_empty hsome
      rw [hcs] at hdigit ⊢
      exact .number hdigit rfl
  | foreign hblank hword hdigit hmark =>
      rw [String.toList_ofList]
      exact .symbol hblank hword hdigit (ofSymbol_of_not_mem hmark)

theorem exists_shape_of_lexical {kind : TokenKind} {literal : String} (h : Lexical kind literal) :
    ∃ c cs, literal.toList = c :: cs ∧ Shape kind (c :: cs) := by
  have hshape := Shape.of_lexical h
  cases hchars : literal.toList with
  | nil =>
      rw [hchars] at hshape
      cases hshape
  | cons c cs => exact ⟨c, cs, rfl, hchars ▸ hshape⟩

theorem eq_of_withEquals? {c : Char} {kind : TokenKind} (h : TokenKind.withEquals? c = some kind) :
    c = '=' ∧ kind = .equal ∨ c = '!' ∧ kind = .notEqual := by
  unfold TokenKind.withEquals? at h
  split at h <;> simp_all

theorem ofSymbol_readsOn {c d : Char} (h : (TokenKind.ofSymbol c).readsOn d = true) :
    (c = '=' ∨ c = '!') ∧ d = '=' := by
  unfold TokenKind.ofSymbol at h
  split at h <;> simp_all [TokenKind.readsOn, TokenKind.isWord, TokenKind.isKeyword]

theorem takeWhile_of_forall_of_head {p : Char → Bool} {cs rest : List Char}
    (hcs : ∀ c ∈ cs, p c = true) (hrest : ∀ c ∈ rest.head?, p c = false) :
    (cs ++ rest).takeWhile p = cs ∧ (cs ++ rest).dropWhile p = rest := by
  rw [takeWhile_append_of_head hrest, dropWhile_append_of_head hrest,
    List.takeWhile_eq_self_iff.mpr hcs, List.dropWhile_eq_nil_iff.mpr hcs]
  exact ⟨rfl, rfl⟩

namespace Shape

variable {kind : TokenKind} {c d : Char} {cs rest : List Char}

theorem isBlank_eq (h : Shape kind (c :: cs)) : isBlank c = false := by
  rw [Bool.eq_false_iff]
  intro hblank
  obtain ⟨hnoWord, hnoDigit, -⟩ := classes_of_isBlank hblank
  cases h with
  | word hword hkind => simp [hword c List.mem_cons_self] at hnoWord
  | number hdigit hkind => simp [hdigit c List.mem_cons_self] at hnoDigit
  | symbol hother hword hdigit hkind => simp [hblank] at hother
  | pair hkind =>
      obtain ⟨rfl, -⟩ | ⟨rfl, -⟩ := eq_of_withEquals? hkind <;> exact absurd hblank (by decide)

/-- A token is read as it is written if it does not read on. -/
theorem scan_eq (h : Shape kind (c :: cs)) (hrest : ∀ d ∈ rest.head?, kind.readsOn d = false) :
    scan c (cs ++ rest) = ⟨kind, c :: cs, rest⟩ := by
  cases h with
  | word hword hkind =>
      obtain ⟨hc, hcs⟩ := List.forall_mem_cons.mp hword
      have hstop : ∀ d ∈ rest.head?, isWordChar d = false := by
        intro d hd
        have hreads := hrest d hd
        simp only [TokenKind.readsOn, TokenKind.isWord_of_ofWord hkind, Bool.or_eq_false_iff,
          Bool.true_and] at hreads
        exact hreads.1.1
      obtain ⟨htake, hdrop⟩ := takeWhile_of_forall_of_head hcs hstop
      rw [scan, if_pos hc]
      simp only [htake, hdrop, hkind]
  | number hdigit hkind =>
      obtain ⟨hc, hcs⟩ := List.forall_mem_cons.mp hdigit
      have hstop : ∀ d ∈ rest.head?, d.isDigit = false := by
        intro d hd
        have hreads := hrest d hd
        simp only [TokenKind.readsOn, ← hkind, Bool.or_eq_false_iff, beq_self_eq_true,
          Bool.true_and] at hreads
        exact hreads.1.2
      obtain ⟨htake, hdrop⟩ := takeWhile_of_forall_of_head hcs hstop
      simp [scan, isWordChar_of_isDigit hc, hc, htake, hdrop, hkind]
  | symbol hblank hword hdigit hkind =>
      have hsymbol : Lexeme.symbol c rest = ⟨kind, [c], rest⟩ := by
        unfold Lexeme.symbol
        split
        · rename_i other tail hpair
          obtain ⟨rfl, -⟩ | ⟨rfl, -⟩ := eq_of_withEquals? hpair <;> subst hkind <;>
            exact absurd (hrest '=' rfl) (by decide)
        · rw [hkind]
      simpa [scan, hword, hdigit] using hsymbol
  | pair hkind =>
      obtain ⟨rfl, rfl⟩ | ⟨rfl, rfl⟩ := eq_of_withEquals? hkind <;> rfl

/-- A token that reads on is not read as it is written. -/
theorem scan_chars_ne (h : Shape kind (c :: cs)) (hd : kind.readsOn d = true) :
    (scan c (cs ++ d :: rest)).chars ≠ c :: cs := by
  cases h with
  | word hword hkind =>
      obtain ⟨hc, hcs⟩ := List.forall_mem_cons.mp hword
      have hkindWord := TokenKind.isWord_of_ofWord hkind
      have hdWord : isWordChar d = true := by
        cases kind <;> simp_all [TokenKind.readsOn, TokenKind.isWord, TokenKind.isKeyword]
      rw [scan, if_pos hc]
      simp [List.takeWhile_append_of_pos hcs, hdWord]
  | number hdigit hkind =>
      obtain ⟨hc, hcs⟩ := List.forall_mem_cons.mp hdigit
      have hdDigit : d.isDigit = true := by
        subst hkind
        simpa [TokenKind.readsOn, TokenKind.isWord, TokenKind.isKeyword] using hd
      rw [scan, if_neg (by simp [isWordChar_of_isDigit hc]), if_pos hc]
      simp [List.takeWhile_append_of_pos hcs, hdDigit]
  | symbol hblank hword hdigit hkind =>
      subst hkind
      obtain ⟨rfl | rfl, rfl⟩ := ofSymbol_readsOn hd <;>
        simp [scan, hword, hdigit, Lexeme.symbol, TokenKind.withEquals?]
  | pair hkind =>
      obtain ⟨-, rfl⟩ | ⟨-, rfl⟩ := eq_of_withEquals? hkind <;>
        simp [TokenKind.readsOn, TokenKind.isWord, TokenKind.isKeyword] at hd

/-- The first character of a token tells words, integers and equals signs from the rest. -/
theorem first_iff (h : Shape kind (c :: cs)) : (isWordChar c = true ↔ kind.isWord = true) ∧
    (c.isDigit = true ↔ kind = .integer) ∧ (c = '=' ↔ kind = .assign ∨ kind = .equal) := by
  cases h with
  | word hword hkind =>
      have hc := hword c List.mem_cons_self
      have hkindWord := TokenKind.isWord_of_ofWord hkind
      refine ⟨by simp [hc, hkindWord], ?_, ?_⟩
      · rw [isDigit_of_isWordChar hc]
        constructor
        · simp
        · rintro rfl
          exact absurd hkindWord (by decide)
      · constructor
        · rintro rfl
          exact absurd hc (by decide)
        · rintro (rfl | rfl) <;> exact absurd hkindWord (by decide)
  | number hdigit hkind =>
      have hc := hdigit c List.mem_cons_self
      subst hkind
      refine ⟨?_, by simp [hc], ?_⟩
      · rw [isWordChar_of_isDigit hc]
        decide
      · constructor
        · rintro rfl
          exact absurd hc (by decide)
        · simp
  | symbol hblank hword hdigit hkind =>
      subst hkind
      rw [hword, hdigit]
      unfold TokenKind.ofSymbol
      split <;> simp_all [TokenKind.isWord, TokenKind.isKeyword]
  | pair hkind =>
      obtain ⟨rfl, rfl⟩ | ⟨rfl, rfl⟩ := eq_of_withEquals? hkind <;> decide

/-- Only integers have digits in them. -/
theorem eq_integer_of_mem {chars : List Char} (h : Shape kind chars) (hmem : c ∈ chars)
    (hdigit : c.isDigit = true) : kind = .integer := by
  cases h with
  | word hword hkind =>
      rw [isDigit_of_isWordChar (hword c hmem)] at hdigit
      cases hdigit
  | number hdigits hkind => exact hkind.symm
  | symbol hblank hword hother hkind =>
      obtain rfl := List.mem_singleton.mp hmem
      rw [hother] at hdigit
      cases hdigit
  | pair hkind =>
      obtain ⟨rfl, -⟩ | ⟨rfl, -⟩ := eq_of_withEquals? hkind <;>
        simp only [List.mem_cons, List.not_mem_nil, or_false] at hmem <;>
        obtain rfl | rfl := hmem <;>
        exact absurd hdigit (by decide)

/-- What a token does to the first character of another is what it does to that token. -/
theorem readsOn_iff (h : Shape kind (c :: cs)) (other : TokenKind) :
    other.readsOn c = true ↔ other.Fuses kind := by
  obtain ⟨hword, hdigit, hequals⟩ := h.first_iff
  unfold TokenKind.readsOn TokenKind.Fuses
  simp only [Bool.or_eq_true, Bool.and_eq_true, beq_iff_eq, hword, hdigit, hequals, or_assoc]

theorem lexical {chars : List Char} (h : Shape kind chars) :
    Lexical kind (String.ofList chars) := by
  cases h with
  | word hword hkind =>
      subst hkind
      generalize hliteral : String.ofList (_ :: _) = literal
      by_cases hname : TokenKind.ofWord literal = .identifier
      · rw [hname]
        subst hliteral
        refine .name (by simp) (by simpa using hword) ?_
        intro other hkeyword hspelling
        rw [TokenKind.ofWord_of_isKeyword hkeyword hspelling] at hname
        rw [hname] at hkeyword
        cases hkeyword
      · exact .fixed (TokenKind.spelling?_ofWord hname)
  | number hdigit hkind =>
      subst hkind
      exact .number (by simp) (by simpa using hdigit)
  | @symbol c hblank hword hdigit hkind =>
      subst hkind
      by_cases hmark : c ∈ punctuation
      · refine .fixed ?_
        simp only [punctuation, List.mem_cons, List.not_mem_nil, or_false] at hmark
        obtain rfl | rfl | rfl | rfl | rfl | rfl | rfl | rfl | rfl | rfl | rfl | rfl | rfl | rfl :=
          hmark <;> rfl
      · rw [ofSymbol_of_not_mem hmark]
        exact .foreign hblank hword hdigit hmark
  | pair hkind =>
      obtain ⟨rfl, rfl⟩ | ⟨rfl, rfl⟩ := eq_of_withEquals? hkind <;> exact .fixed rfl

end Shape

/-- Whatever does not begin with a blank begins with a token. -/
theorem shape_scan (cs : List Char) {c : Char} (h : isBlank c = false) :
    Shape (scan c cs).kind (scan c cs).chars := by
  unfold scan
  split
  · rename_i hword
    exact .word (List.forall_mem_cons.mpr ⟨hword, fun d hd => List.mem_takeWhile_imp hd⟩) rfl
  · rename_i hword
    split
    · rename_i hdigit
      exact .number (List.forall_mem_cons.mpr ⟨hdigit, fun d hd => List.mem_takeWhile_imp hd⟩) rfl
    · rename_i hdigit
      unfold symbol
      split
      · rename_i hpair
        exact .pair hpair
      · exact .symbol h (by simpa using hword) (by simpa using hdigit) rfl

end Lexeme

/-- A text of blanks. -/
structure Gap where
  text : String
  blank : ∀ c ∈ text.toList, c ∈ [' ', '\t', '\n', '\r']

/-- A token as it may be written, with the gap in front of it. -/
structure Piece where
  gap : Gap
  kind : TokenKind
  literal : String
  lexical : Lexical kind literal

/-- The second piece may be written behind the first. -/
def Piece.MayPrecede (a b : Piece) : Prop := b.gap.text = "" → ¬a.kind.Fuses b.kind

def written (tail : Gap) : List Piece → String
  | [] => tail.text
  | piece :: pieces => piece.gap.text ++ (piece.literal ++ written tail pieces)

theorem Gap.isBlank_of_mem {gap : Gap} {c : Char} (h : c ∈ gap.text.toList) : isBlank c = true :=
  isBlank_iff.mpr (gap.blank c h)

theorem TokenKind.readsOn_of_isBlank (kind : TokenKind) {c : Char} (h : isBlank c = true) :
    kind.readsOn c = false := by
  simp [readsOn, Lexeme.classes_of_isBlank h]

/-- A piece does not read on over what is written behind it exactly if it may stand there. -/
theorem readsOn_written_iff (piece : Piece) (tail : Gap) (pieces : List Piece) :
    (∀ c ∈ (written tail pieces).toList.head?, piece.kind.readsOn c = false) ↔
      ∀ next ∈ pieces.head?, piece.MayPrecede next := by
  cases pieces with
  | nil =>
      refine iff_of_true ?_ nofun
      intro c hc
      exact piece.kind.readsOn_of_isBlank (Gap.isBlank_of_mem (List.mem_of_head? hc))
  | cons next pieces =>
      obtain ⟨c, cs, hcs, hshape⟩ := Lexeme.exists_shape_of_lexical next.lexical
      simp only [List.head?_cons, Option.mem_def, Option.some.injEq, forall_eq', written,
        String.toList_append]
      cases hgap : next.gap.text.toList with
      | nil =>
          have hempty : next.gap.text = "" := String.toList_eq_nil_iff.mp hgap
          simp [Piece.MayPrecede, hempty, hcs, ← hshape.readsOn_iff]
      | cons d gap =>
          have hsome : next.gap.text ≠ "" := by
            intro hempty
            rw [hempty] at hgap
            cases hgap
          have hblank : isBlank d = true := next.gap.isBlank_of_mem (hgap ▸ List.mem_cons_self)
          simp [Piece.MayPrecede, hsome, piece.kind.readsOn_of_isBlank hblank]

/-- What a token says, apart from its place. -/
def Token.content (token : Token) : TokenKind × String := (token.kind, token.literal)

def Piece.content (piece : Piece) : TokenKind × String := (piece.kind, piece.literal)

theorem Lexer.content_tokens_written_iff (tail : Gap) (pieces : List Piece) {lexer : Lexer}
    (hrest : lexer.rest = (written tail pieces).toList) :
    lexer.tokens.map Token.content = pieces.map Piece.content ++ [(.eof, "")] ↔
      pieces.IsChain Piece.MayPrecede := by
  induction pieces generalizing lexer with
  | nil =>
      have hblank : ∀ c ∈ lexer.rest, isBlank c = true := by
        intro c hc
        rw [hrest] at hc
        exact tail.isBlank_of_mem hc
      have hnext := next_of_blank hblank
      rw [tokens_of_eof (by rw [hnext]; rfl), hnext]
      simp [Token.content, Token.markerAt, Token.fixed, TokenKind.spelling?]
  | cons piece pieces ih =>
      obtain ⟨c, cs, hcs, hshape⟩ := Lexeme.exists_shape_of_lexical piece.lexical
      have hliteral : String.ofList (c :: cs) = piece.literal := by rw [← hcs, String.ofList_toList]
      rw [written, String.toList_append, String.toList_append, hcs, List.cons_append] at hrest
      have hnext := next_of_gap hrest (fun d hd => piece.gap.isBlank_of_mem hd) hshape.isBlank_eq
      have hreal : lexer.next.1.kind ≠ .eof := by
        rw [hnext]
        exact Lexeme.scan_kind_ne_eof c _
      rw [tokens_of_ne_eof hreal, List.isChain_cons, ← readsOn_written_iff piece tail pieces,
        List.map_cons, List.map_cons, List.cons_append, List.cons_eq_cons]
      by_cases hstops : ∀ d ∈ (written tail pieces).toList.head?, piece.kind.readsOn d = false
      · rw [hshape.scan_eq hstops] at hnext
        have hcontent : lexer.next.1.content = piece.content := by
          rw [hnext, Token.content, Piece.content, hliteral]
        rw [ih (by rw [hnext]), and_iff_right hcontent, and_iff_right hstops]
      · -- The first token takes something of what is written behind it, and is not the piece.
        refine iff_of_false ?_ fun h => hstops h.1
        rintro ⟨hcontent, -⟩
        simp only [not_forall, Bool.not_eq_false] at hstops
        obtain ⟨d, hd, hreads⟩ := hstops
        obtain ⟨rest, hwritten⟩ := List.head?_eq_some_iff.mp hd
        rw [hnext, hwritten] at hcontent
        have hchars := congrArg String.toList (congrArg Prod.snd hcontent)
        rw [Token.content, Piece.content, String.toList_ofList, hcs] at hchars
        exact hshape.scan_chars_ne hreads hchars

theorem Lexer.lexical_next (lexer : Lexer) :
    lexer.next.1.kind = .eof ∨ Lexical lexer.next.1.kind lexer.next.1.literal := by
  rcases blank_or_exists_gap lexer.rest with hblank | ⟨gap, c, cs, hrest, hgap, hc⟩
  · rw [next_of_blank hblank]
    exact .inl rfl
  · rw [next_of_gap hrest hgap hc]
    exact .inr (Lexeme.shape_scan cs hc).lexical

/-- **Maximal munch, exactly.** A text that is written as some tokens, with gaps before, between and
behind them, is read as these tokens if and only if no two of them that have to be kept apart stand
side by side. -/
theorem content_tokenize_written_iff (tail : Gap) (pieces : List Piece) :
    (tokenize (written tail pieces)).map Token.content
        = pieces.map Piece.content ++ [(.eof, "")] ↔
      pieces.IsChain Piece.MayPrecede :=
  Lexer.content_tokens_written_iff tail pieces rfl

end MonkeySyntax
