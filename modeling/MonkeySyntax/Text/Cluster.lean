import MonkeySyntax.Text.Break

/-!
# Clusters of characters

A text is divided into clusters from left to right: a character goes on the cluster before it or
starts one of its own. Main statement: the clusters together are the text.
-/

namespace MonkeySyntax

/-- Marks that may stand between consonants which a linking mark joins; the non-joiner keeps them
apart. -/
def betweenConsonants (c : Char) : Bool :=
  c ≠ '\u200c' && (BreakClass.ofChar c = .mark || BreakClass.ofChar c = .joiner)

/-- Whether a cluster, last character first, ends with a consonant and marks of which one links. -/
def endsLinked (cluster : List Char) : Bool :=
  (cluster.takeWhile betweenConsonants).any isLinkingMark &&
    (cluster.dropWhile betweenConsonants).head?.any isLinkingConsonant

/-- Whether a cluster, last character first, ends with a pictograph and marks. -/
def endsPictograph (cluster : List Char) : Bool :=
  (cluster.dropWhile fun c => BreakClass.ofChar c = .mark).head?.any isPictograph

/-- Whether a cluster, last character first, ends with half a flag. -/
def endsHalfFlag (cluster : List Char) : Bool :=
  (cluster.takeWhile fun c => BreakClass.ofChar c = .regional).length % 2 = 1

/-- Whether `c` goes on the cluster that consists of `earlier`, last character first, and then
`last`. -/
def continues (earlier : List Char) (last c : Char) : Bool :=
  match BreakClass.ofChar last, BreakClass.ofChar c with
  | .carriageReturn, .lineFeed => true
  | .carriageReturn, _ | .lineFeed, _ | .control, _ => false
  | _, .carriageReturn | _, .lineFeed | _, .control => false
  | _, .mark | _, .joiner | _, .spacingMark => true
  | .leader, _ => true
  | .initialJamo, .initialJamo | .initialJamo, .vowelJamo => true
  | .initialJamo, .openSyllable | .initialJamo, .closedSyllable => true
  | .openSyllable, .vowelJamo | .openSyllable, .finalJamo => true
  | .vowelJamo, .vowelJamo | .vowelJamo, .finalJamo => true
  | .closedSyllable, .finalJamo | .finalJamo, .finalJamo => true
  | .regional, .regional => endsHalfFlag (last :: earlier)
  | previous, _ =>
    (isLinkingConsonant c && endsLinked (last :: earlier)) ||
      (previous = .joiner && isPictograph c && endsPictograph earlier)

/-- Adds a character to clusters, the last of which comes first with its last character first. -/
def addToClusters : List (List Char) → Char → List (List Char)
  | (last :: earlier) :: before, c =>
    if continues earlier last c then (c :: last :: earlier) :: before
    else [c] :: (last :: earlier) :: before
  | before, c => [c] :: before

def clusters (text : List Char) : List (List Char) :=
  ((text.foldl addToClusters []).map List.reverse).reverse

theorem flatten_addToClusters (before : List (List Char)) (c : Char) :
    (addToClusters before c).flatten = c :: before.flatten := by
  unfold addToClusters
  split
  · split <;> simp
  · simp

theorem flatten_foldl_addToClusters (text : List Char) (before : List (List Char)) :
    (text.foldl addToClusters before).flatten = text.reverse ++ before.flatten := by
  induction text generalizing before with
  | nil => simp
  | cons c cs ih => simp [ih, flatten_addToClusters]

theorem flatten_clusters (text : List Char) : (clusters text).flatten = text := by
  have h := congrArg List.reverse (flatten_foldl_addToClusters text [])
  simpa [clusters, List.reverse_flatten] using h

end MonkeySyntax
