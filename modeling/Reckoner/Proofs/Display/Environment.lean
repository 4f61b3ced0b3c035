import Reckoner.Proofs.Display.Word
import Reckoner.Env

/-!
# The texts of environments

The text of an environment lists its entries between braces, each a name, a colon and a value, with
a comma between two of them. Names and values are words, so that the marks behind them tell where
they end, and the text can be taken apart entry by entry.

* `Env.Named`: the environments whose names are names of the language.
* `Env.toList_text`: the text, entry by entry.
* `Env.eq_of_text_eq`: environments with the same text are equal.
-/

namespace Reckoner

open Display Token.Pattern

namespace Env

/-- The names in the environment are an ASCII letter or underscore and word characters. -/
def Named (env : Env) : Prop := ∀ e ∈ env.toList, identifier.Matches e.1.toList

theorem named_iff {env : Env} :
    env.Named ↔ ∀ name, (env.find? name).isSome → identifier.Matches name.toList := by
  constructor
  · intro h name hname
    obtain ⟨value, hvalue⟩ := Option.isSome_iff_exists.mp hname
    exact h (name, value) (Bindings.mem_toList_iff.mpr hvalue)
  · rintro h ⟨name, value⟩ hmem
    exact h name (by rw [Bindings.mem_toList_iff.mp hmem]; rfl)

theorem named_empty : Named ∅ := by
  rintro _ ⟨⟩

/-! ## Entries -/

/-- An entry between commas. -/
def entry (e : String × Value) : String := e.1 ++ ": " ++ toString e.2

/-- The characters of an entry. -/
def entryText (e : String × Value) : List Char :=
  e.1.toList ++ ':' :: ' ' :: (toString e.2).toList

/-- The text behind an entry, up to the brace that closes. -/
def behindEntry : List (String × Value) → List Char
  | [] => ['\x7d']
  | e :: es => ',' :: ' ' :: (entryText e ++ behindEntry es)

/-- The text behind the brace that opens. -/
def entriesText : List (String × Value) → List Char
  | [] => ['\x7d']
  | e :: es => entryText e ++ behindEntry es

theorem toList_entry (e : String × Value) : (entry e).toList = entryText e := by
  simp [entry, entryText]

theorem toList_intercalate_entries (e : String × Value) (es : List (String × Value)) :
    (", ".intercalate ((e :: es).map entry)).toList ++ ['\x7d'] =
      entryText e ++ behindEntry es := by
  induction es generalizing e with
  | nil => rw [List.map_singleton, String.intercalate_singleton, toList_entry, behindEntry]
  | cons d es ih =>
    rw [List.map_cons, List.map_cons, String.intercalate_cons_cons, ← List.map_cons,
      String.toList_append, String.toList_append, toList_entry, List.append_assoc, ih,
      List.append_assoc]
    rfl

/-- The text, entry by entry. -/
theorem toList_text (env : Env) : env.text.toList = '\x7b' :: entriesText env.toList := by
  rw [text, String.toList_append, String.toList_append, List.append_assoc]
  cases env.toList with
  | nil => rfl
  | cons e es => exact congrArg ('\x7b' :: ·) (toList_intercalate_entries e es)

/-! ## Taking a text apart -/

section

variable {d e : String × Value} {ds es : List (String × Value)} {r s : List Char}

/-- A text that begins with an entry and goes on with a mark determines the entry and what is
behind it. -/
theorem entryText_append_inj (hd : identifier.Matches d.1.toList)
    (he : identifier.Matches e.1.toList) (hr : Ends r) (hs : Ends s)
    (h : entryText d ++ r = entryText e ++ s) : d = e ∧ r = s := by
  simp only [entryText, List.append_assoc, List.cons_append] at h
  obtain ⟨hname, hbehind⟩ := (isWord_of_matches hd).append_mark_inj (by decide)
    (isWord_of_matches he) h
  obtain ⟨hvalue, hrest⟩ := d.2.isWord_toString.append_inj e.2.isWord_toString hr hs hbehind
  exact ⟨Prod.ext (String.toList_inj.mp hname)
    (Value.toString_injective (String.toList_inj.mp hvalue)), hrest⟩

theorem ends_behindEntry (es : List (String × Value)) : Ends (behindEntry es) := by
  cases es with
  | nil => exact ends_cons (by decide) _
  | cons e es => exact ends_cons (by decide) _

theorem behindEntry_injective (hds : ∀ d ∈ ds, identifier.Matches d.1.toList)
    (hes : ∀ e ∈ es, identifier.Matches e.1.toList) (h : behindEntry ds = behindEntry es) :
    ds = es := by
  induction ds generalizing es with
  | nil =>
    cases es with
    | nil => rfl
    | cons e es => exact absurd (List.head_eq_of_cons_eq h) (by decide)
  | cons d ds ih =>
    cases es with
    | nil => exact absurd (List.head_eq_of_cons_eq h) (by decide)
    | cons e es =>
      obtain ⟨rfl, hbehind⟩ := entryText_append_inj (hds d (by simp)) (hes e (by simp))
        (ends_behindEntry ds) (ends_behindEntry es)
        (List.tail_eq_of_cons_eq (List.tail_eq_of_cons_eq h))
      rw [ih (fun d hd => hds d (by simp [hd])) (fun e he => hes e (by simp [he])) hbehind]

/-- No entry begins like the brace that closes. -/
theorem entryText_append_ne (he : identifier.Matches e.1.toList) (r s : List Char) :
    entryText e ++ r ≠ '\x7d' :: s := by
  cases hname : e.1.toList with
  | nil => exact absurd hname he.ne_nil
  | cons c cs =>
    rw [hname] at he
    intro h
    rw [entryText, hname] at h
    obtain rfl : c = '\x7d' := List.head_eq_of_cons_eq h
    exact absurd he.1 (by decide)

theorem entriesText_injective (hds : ∀ d ∈ ds, identifier.Matches d.1.toList)
    (hes : ∀ e ∈ es, identifier.Matches e.1.toList) (h : entriesText ds = entriesText es) :
    ds = es := by
  cases ds with
  | nil =>
    cases es with
    | nil => rfl
    | cons e es => exact absurd h.symm (entryText_append_ne (hes e (by simp)) _ _)
  | cons d ds =>
    cases es with
    | nil => exact absurd h (entryText_append_ne (hds d (by simp)) _ _)
    | cons e es =>
      obtain ⟨rfl, hbehind⟩ := entryText_append_inj (hds d (by simp)) (hes e (by simp))
        (ends_behindEntry ds) (ends_behindEntry es) h
      rw [behindEntry_injective (fun d hd => hds d (by simp [hd]))
        (fun e he => hes e (by simp [he])) hbehind]

end

/-- Environments with the same text are equal. -/
theorem eq_of_text_eq {s t : Env} (hs : s.Named) (ht : t.Named) (h : s.text = t.text) : s = t := by
  have hentries : entriesText s.toList = entriesText t.toList := by
    have htext := congrArg String.toList h
    rw [toList_text, toList_text] at htext
    exact List.tail_eq_of_cons_eq htext
  obtain ⟨ds, _⟩ := s
  obtain ⟨es, _⟩ := t
  obtain rfl : ds = es := entriesText_injective hs ht hentries
  rfl

end Env

end Reckoner
