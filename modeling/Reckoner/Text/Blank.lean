import Reckoner.Text.CodePoints

/-!
# Blank characters

The characters with the property White_Space. They separate lexemes, and a line of nothing else
is blank. The property has been stable for many versions of the standard.
-/

namespace Reckoner.Text

/-- The blank characters. -/
def blank : CodePoints :=
  ⟨[(0x9, 0xD), (0x20, 0x20), (0x85, 0x85), (0xA0, 0xA0), (0x1680, 0x1680), (0x2000, 0x200A),
    (0x2028, 0x2029), (0x202F, 0x202F), (0x205F, 0x205F), (0x3000, 0x3000)]⟩

/-- Whether the character is blank. -/
def isBlank (c : Char) : Bool :=
  blank.contains c

theorem ascending_blank : CodePoints.ascending blank.ranges = true := by
  decide

theorem isBlank_iff (c : Char) :
    isBlank c = true ↔ ∃ r ∈ blank.ranges, r.1 ≤ c.toNat ∧ c.toNat ≤ r.2 :=
  CodePoints.contains_iff ascending_blank c

end Reckoner.Text
