import Reckoner.Text.ClusterClass

/-!
# Clusters

The clusters of a text are the groups of characters that a reader takes for one character each.
A text is read from left to right, and whether the next character goes on with the cluster at
hand or starts a new one depends on its class and on what the cluster holds.

* `flatten_clusters`: the clusters in order are the text.
-/

namespace Reckoner.Text

/-- Whether a text, last character first, ends in a pictograph and its extenders. -/
def endsInPictograph (before : List Char) : Bool :=
  (before.dropWhile fun c => ClusterClass.of c == .extender).head?.any
    fun c => ClusterClass.of c == .pictograph

/-- Whether a text, last character first, ends in an odd number of halves of flags. -/
def endsInHalfFlag (before : List Char) : Bool :=
  (before.takeWhile fun c => ClusterClass.of c == .regional).length % 2 == 1

/-- Whether a text, last character first, ends in a consonant and marks, with a linker among
them. -/
def endsInLinkedConsonant (before : List Char) : Bool :=
  (before.takeWhile isConjunctMark).any isLinker &&
    (before.dropWhile isConjunctMark).head?.any fun c => ClusterClass.of c == .consonant

/-- Whether a character goes on with the cluster in front of it, given last character first. -/
def joins : List Char → Char → Bool
  | [], _ => false
  | b :: before, c =>
    match ClusterClass.of b, ClusterClass.of c with
    | .carriageReturn, .lineFeed => true
    | .carriageReturn, _ | .lineFeed, _ | .control, _ => false
    | _, .carriageReturn | _, .lineFeed | _, .control => false
    | _, .extender | _, .joiner | _, .spacing => true
    | .prepended, _ => true
    | .leading, .leading | .leading, .vowel | .leading, .openSyllable
    | .leading, .closedSyllable => true
    | .openSyllable, .vowel | .openSyllable, .trailing | .vowel, .vowel
    | .vowel, .trailing => true
    | .closedSyllable, .trailing | .trailing, .trailing => true
    | .joiner, .pictograph => endsInPictograph before
    | .regional, .regional => endsInHalfFlag (b :: before)
    | _, .consonant => endsInLinkedConsonant (b :: before)
    | _, _ => false

/-- The clusters of a text that goes on behind the characters of one, given last character
first. -/
def clustersFrom (cluster : List Char) : List Char → List (List Char)
  | [] => [cluster.reverse]
  | c :: cs =>
    if joins cluster c then clustersFrom (c :: cluster) cs
    else cluster.reverse :: clustersFrom [c] cs

/-- The clusters of a text. -/
def clusters : List Char → List (List Char)
  | [] => []
  | c :: cs => clustersFrom [c] cs

theorem flatten_clustersFrom (cluster cs : List Char) :
    (clustersFrom cluster cs).flatten = cluster.reverse ++ cs := by
  induction cs generalizing cluster with
  | nil => simp [clustersFrom]
  | cons c cs ih =>
    rw [clustersFrom]
    split
    · rw [ih, List.reverse_cons, List.append_assoc, List.singleton_append]
    · rw [List.flatten_cons, ih, List.reverse_singleton, List.singleton_append]

@[simp] theorem flatten_clusters (cs : List Char) : (clusters cs).flatten = cs := by
  cases cs with
  | nil => rfl
  | cons c cs => rw [clusters, flatten_clustersFrom]; rfl

end Reckoner.Text
