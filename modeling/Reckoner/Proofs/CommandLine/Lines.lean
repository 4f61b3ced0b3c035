import Reckoner.CommandLine.Dialogue
import Mathlib.Tactic.SplitIfs

/-!
# Lines of an input

The bytes of a text hold that of a line feed only where the text has a line feed. So texts without
any, each written with a line feed behind it, are cut where they were put together, and the lines
read are the texts, as long as these hold no backspace to be applied and no carriage return that
would belong to the ending.

* `newline_not_mem_bytesOfText`: no line feed is encoded but by itself.
* `Line.ofBytes_join`: plain texts are read as they were written.
-/

namespace Reckoner.CommandLine

/-! ## Bytes -/

theorem bytesOfText_eq (s : String) : bytesOfText s = s.toList.flatMap String.utf8EncodeChar := by
  obtain ⟨cs, rfl⟩ : ∃ cs, s = String.ofList cs := ⟨s.toList, String.ofList_toList.symm⟩
  rw [String.toList_ofList]
  exact List.toList_data_toByteArray

theorem bytesOfText_append (s t : String) :
    bytesOfText (s ++ t) = bytesOfText s ++ bytesOfText t := by
  rw [bytesOfText_eq, bytesOfText_eq, bytesOfText_eq, String.toList_append, List.flatMap_append]

theorem bytesOfText_newline : bytesOfText "\n" = [10] := rfl

/-- The encoding of a character holds a line feed only if the character is one: where it takes
several bytes, each is at least 128. -/
theorem eq_newline_of_mem_utf8EncodeChar {c : Char} (h : (10 : UInt8) ∈ String.utf8EncodeChar c) :
    c = '\n' := by
  suffices hnewline : c.val.toNat = 10 from Char.ext (UInt32.toNat_inj.mp hnewline)
  have hval : c.toNat = c.val.toNat := rfl
  simp only [String.utf8EncodeChar] at h
  split_ifs at h <;> simp [← UInt8.toNat_inj] at h <;> omega

theorem newline_not_mem_bytesOfText {s : String} (h : '\n' ∉ s.toList) :
    (10 : UInt8) ∉ bytesOfText s := by
  rw [bytesOfText_eq]
  intro hmem
  obtain ⟨c, hc, hbyte⟩ := List.mem_flatMap.mp hmem
  exact h (eq_newline_of_mem_utf8EncodeChar hbyte ▸ hc)

/-! ## Lines -/

namespace Line

theorem cut_append_newline {bytes : List UInt8} (h : (10 : UInt8) ∉ bytes) (rest : List UInt8) :
    cut (bytes ++ 10 :: rest) = (bytes, true) :: cut rest := by
  induction bytes with
  | nil => rfl
  | cons b bytes ih =>
    obtain ⟨hb, hbytes⟩ := not_or.mp (mt List.mem_cons.mpr h)
    rw [List.cons_append, cut, if_neg (Ne.symm hb), ih hbytes]

/-- The text is read as it is where it stands as a line. -/
structure Plain (s : String) : Prop where
  newline : '\n' ∉ s.toList
  backspace : Text.backspace ∉ s.toList
  getLast? : s.toList.getLast? ≠ some '\r'

instance (s : String) : Decidable (Plain s) :=
  decidable_of_iff
    ('\n' ∉ s.toList ∧ Text.backspace ∉ s.toList ∧ s.toList.getLast? ≠ some '\r')
    ⟨fun h => ⟨h.1, h.2.1, h.2.2⟩, fun h => ⟨h.newline, h.backspace, h.getLast?⟩⟩

theorem Plain.ofCut {s : String} (h : Plain s) : ofCut (bytesOfText s) true = .text s := by
  have htext : dropReturn s.toList = s.toList := if_neg h.getLast?
  have herase := Text.erase?_of_not_mem h.backspace
  simp only [Line.ofCut, textOfBytes_bytesOfText, if_true, htext, herase, Option.elim_some,
    String.ofList_toList]

/-- Plain texts that are written with a line feed behind each are read as they were. -/
theorem ofBytes_join {lines : List String} (h : ∀ s ∈ lines, Plain s) :
    ofBytes (bytesOfText (String.join (lines.map fun s => s ++ "\n"))) = lines.map .text := by
  induction lines with
  | nil => rfl
  | cons s lines ih =>
    have hs : Plain s := h s List.mem_cons_self
    have hcut := cut_append_newline (newline_not_mem_bytesOfText hs.newline)
    rw [List.map_cons, String.join_cons, bytesOfText_append, bytesOfText_append,
      bytesOfText_newline, List.append_assoc, List.singleton_append, ofBytes, hcut, List.map_cons,
      List.map_cons, hs.ofCut]
    exact congrArg _ (ih fun t ht => h t (List.mem_cons_of_mem s ht))

end Line

end Reckoner.CommandLine
