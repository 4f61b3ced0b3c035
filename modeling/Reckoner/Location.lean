/-!
# Locations and spans

A location is a line and a column, both counted from one. Passing a line feed starts a new line,
passing any other character moves one column on.

* `Location.after_append`: passing a text piece by piece.
* `Location.after_eq_of_not_mem`: a text without a line feed moves only the column.
-/

namespace Reckoner

/-- A place in a text. -/
structure Location where
  line : Nat
  column : Nat
  deriving DecidableEq

namespace Location

/-- The place before the first character. -/
def start : Location := ⟨1, 1⟩

instance : Inhabited Location := ⟨start⟩

/-- The place behind one more character. -/
def step (l : Location) (c : Char) : Location :=
  if c = '\n' then ⟨l.line + 1, 1⟩ else ⟨l.line, l.column + 1⟩

/-- The place behind a piece of text. -/
def after (l : Location) (text : List Char) : Location :=
  text.foldl step l

instance : ToString Location :=
  ⟨fun l => "line " ++ toString l.line ++ ", column " ++ toString l.column⟩

@[simp] theorem after_nil (l : Location) : l.after [] = l := rfl

@[simp] theorem after_cons (l : Location) (c : Char) (text : List Char) :
    l.after (c :: text) = (l.step c).after text := rfl

@[simp] theorem after_append (l : Location) (s t : List Char) :
    l.after (s ++ t) = (l.after s).after t :=
  List.foldl_append

theorem after_eq_of_not_mem (l : Location) {text : List Char} (h : '\n' ∉ text) :
    l.after text = ⟨l.line, l.column + text.length⟩ := by
  induction text generalizing l with
  | nil => rfl
  | cons c text ih =>
    simp only [List.mem_cons, not_or] at h
    rw [after_cons, step, if_neg (Ne.symm h.1), ih _ h.2]
    simp only [List.length_cons, mk.injEq, true_and]
    omega

end Location

/-- A stretch of text, from the place before it to the place behind it. -/
structure Span where
  start : Location
  stop : Location
  deriving DecidableEq

namespace Span

/-- The empty stretch at a place. -/
def point (l : Location) : Span := ⟨l, l⟩

/-- The empty stretch at the beginning of a text. -/
def initial : Span := point .start

instance : Inhabited Span := ⟨initial⟩

/-- An empty stretch is written as its place, any other as both ends. -/
instance : ToString Span :=
  ⟨fun s => if s.start = s.stop then toString s.start
    else toString s.start ++ " till " ++ toString s.stop⟩

end Span

end Reckoner
