import Reckoner.Text.Cluster

/-!
# Erasures

A backspace in a text that was typed takes back the cluster in front of it, and nothing where
there is none left. The clusters are those of the text as it was typed, backspaces included, so
what closes up behind an erased cluster does not grow together.

What a backspace has to take back is remembered as a number of bytes, and the number in one byte.
So only the remainder by 256 of a large cluster is taken back, from its end on, and a remainder
that ends inside a character cannot be taken back at all.

* `erase?_of_not_mem`: a text without backspaces stays as it is.
-/

namespace Reckoner.Text

/-- The character that takes back the cluster in front of it. -/
def backspace : Char := '\x08'

/-! ## Bytes -/

/-- The number of bytes that a text takes. -/
def byteSize : List Char → Nat
  | [] => 0
  | c :: cs => c.utf8Size + byteSize cs

/-- A text without a number of bytes at its start, if these are whole characters. -/
def dropBytes? : Nat → List Char → Option (List Char)
  | 0, cs => some cs
  | _ + 1, [] => none
  | n + 1, c :: cs =>
    if c.utf8Size ≤ n + 1 then dropBytes? (n + 1 - c.utf8Size) cs else none

/-! ## Drafts -/

/-- A text while it is typed: its characters, and how many bytes the next backspaces take back,
both with the last first. -/
structure Draft where
  chars : List Char
  sizes : List Nat

namespace Draft

/-- The draft before anything is typed. -/
def blank : Draft := ⟨[], []⟩

/-- The draft with a cluster added. One byte remembers its size. -/
def add (d : Draft) (cluster : List Char) : Draft :=
  ⟨cluster.reverse ++ d.chars, byteSize cluster % 256 :: d.sizes⟩

/-- The draft with the last cluster taken back, as far as its size is remembered. -/
def takeBack? (d : Draft) : Option Draft :=
  match d.sizes with
  | [] => some d
  | n :: sizes => (dropBytes? n d.chars).map fun cs => ⟨cs, sizes⟩

/-- The draft after one more cluster of what is typed. -/
def type? (d : Draft) (cluster : List Char) : Option Draft :=
  if cluster = [backspace] then d.takeBack? else some (d.add cluster)

/-- The text of a draft. -/
def text (d : Draft) : List Char := d.chars.reverse

end Draft

/-- What is left of a text when its backspaces have taken effect. There is none if a backspace
would tear a character. -/
def erase? (cs : List Char) : Option (List Char) :=
  ((clusters cs).foldlM Draft.type? Draft.blank).map Draft.text

/-! ## Texts that are typed without a backspace -/

theorem foldlM_type?_of_not_mem {groups : List (List Char)} (h : [backspace] ∉ groups)
    (d : Draft) :
    (groups.foldlM Draft.type? d).map Draft.text = some (d.text ++ groups.flatten) := by
  induction groups generalizing d with
  | nil =>
    rw [List.flatten_nil, List.append_nil]
    rfl
  | cons g groups ih =>
    rw [List.mem_cons, not_or] at h
    rw [List.foldlM_cons, Draft.type?, if_neg (Ne.symm h.1)]
    refine (ih h.2 (d.add g)).trans ?_
    rw [Draft.text, Draft.add, List.reverse_append, List.reverse_reverse, List.append_assoc,
      List.flatten_cons, Draft.text]

theorem erase?_of_not_mem {cs : List Char} (h : backspace ∉ cs) : erase? cs = some cs := by
  have hmem : [backspace] ∉ clusters cs := fun hm => by
    have := List.mem_flatten_of_mem hm (List.mem_singleton_self backspace)
    rw [flatten_clusters] at this
    exact h this
  rw [erase?, foldlM_type?_of_not_mem hmem, flatten_clusters]
  rfl

end Reckoner.Text
