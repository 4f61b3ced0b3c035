/-!
# Bindings

A finite table from names to things, kept in strictly ascending order of the names by code
point. Each table has one representation, so tables are equal exactly if they bind the same
names to the same things.

* `Bindings.find?_insert`: what a name is bound to after another binding.
* `Bindings.ext_find?`: equal look-ups mean equal tables.
-/

namespace Reckoner

/-- A table from names to things, in ascending order of the names. -/
structure Bindings (α : Type) where
  toList : List (String × α)
  ascending : toList.Pairwise fun a b => a.1 < b.1

namespace Bindings

variable {α : Type}

instance [DecidableEq α] : DecidableEq (Bindings α) := fun s t =>
  decidable_of_iff (s.toList = t.toList) (by cases s; cases t; simp)

/-- The table without entries. -/
def empty : Bindings α := ⟨[], .nil⟩

instance : EmptyCollection (Bindings α) := ⟨empty⟩

instance : Inhabited (Bindings α) := ⟨empty⟩

/-- Puts an entry at its place in an ascending list, over an entry of the same name. -/
def insertEntry (name : String) (x : α) : List (String × α) → List (String × α)
  | [] => [(name, x)]
  | e :: es =>
    if name < e.1 then (name, x) :: e :: es
    else if e.1 < name then e :: insertEntry name x es
    else (name, x) :: es

theorem mem_insertEntry {name : String} {x : α} {es : List (String × α)} {e : String × α}
    (h : e ∈ insertEntry name x es) : e = (name, x) ∨ e ∈ es := by
  induction es with
  | nil => simpa [insertEntry] using h
  | cons d es ih =>
    simp only [insertEntry] at h
    split at h
    · simpa using h
    · split at h
      · rcases List.mem_cons.mp h with rfl | h
        · simp
        · rcases ih h with rfl | h <;> simp [*]
      · rcases List.mem_cons.mp h with rfl | h <;> simp [*]

theorem pairwise_insertEntry {name : String} {x : α} {es : List (String × α)}
    (h : es.Pairwise fun a b => a.1 < b.1) :
    (insertEntry name x es).Pairwise fun a b => a.1 < b.1 := by
  induction es with
  | nil => simp [insertEntry]
  | cons d es ih =>
    rw [List.pairwise_cons] at h
    simp only [insertEntry]
    split
    · rename_i hlt
      refine List.pairwise_cons.mpr ⟨fun e he => ?_, List.pairwise_cons.mpr h⟩
      rcases List.mem_cons.mp he with rfl | he
      · exact hlt
      · exact String.lt_trans hlt (h.1 e he)
    · split
      · rename_i hgt
        refine List.pairwise_cons.mpr ⟨fun e he => ?_, ih h.2⟩
        rcases mem_insertEntry he with rfl | he
        · exact hgt
        · exact h.1 e he
      · rename_i h₁ h₂
        have heq : name = d.1 := String.le_antisymm h₂ h₁
        refine List.pairwise_cons.mpr ⟨fun e he => ?_, h.2⟩
        exact heq ▸ h.1 e he

/-- The table with a name bound to a thing, whatever it was bound to before. -/
def insert (s : Bindings α) (name : String) (x : α) : Bindings α :=
  ⟨insertEntry name x s.toList, pairwise_insertEntry s.ascending⟩

/-- What a name is bound to. -/
def find? (s : Bindings α) (name : String) : Option α :=
  s.toList.lookup name

/-- The table of a list of bindings. Of several for one name the last counts. -/
def ofList (es : List (String × α)) : Bindings α :=
  es.foldl (fun s e => s.insert e.1 e.2) ∅

/-- The number of bound names. -/
def size (s : Bindings α) : Nat := s.toList.length

/-- Whether no name is bound. -/
def isEmpty (s : Bindings α) : Bool := s.toList.isEmpty

/-! ## Look-up -/

theorem lookup_cons (name : String) (e : String × α) (es : List (String × α)) :
    (e :: es).lookup name = if name = e.1 then some e.2 else es.lookup name := by
  obtain ⟨key, x⟩ := e
  rw [List.lookup_cons]
  by_cases h : name = key
  · simp [h]
  · simp [h, beq_eq_false_iff_ne.mpr h]

theorem lookup_insertEntry (name other : String) (x : α) (es : List (String × α)) :
    (insertEntry name x es).lookup other = if other = name then some x else es.lookup other := by
  induction es with
  | nil => rw [insertEntry, lookup_cons]
  | cons d es ih =>
    simp only [insertEntry]
    split
    · rw [lookup_cons]
    · rename_i h₁
      split
      · rename_i h₂
        have hne : d.1 ≠ name := fun heq => String.lt_irrefl _ (heq ▸ h₂)
        rw [lookup_cons, lookup_cons, ih]
        by_cases hd : other = d.1
        · simp [hd, hne]
        · simp [hd]
      · rename_i h₂
        have heq : name = d.1 := String.le_antisymm h₂ h₁
        rw [lookup_cons, lookup_cons, ← heq]
        by_cases ho : other = name <;> simp [ho]

@[simp] theorem find?_insert (s : Bindings α) (name other : String) (x : α) :
    (s.insert name x).find? other = if other = name then some x else s.find? other :=
  lookup_insertEntry name other x s.toList

theorem mem_iff_lookup {es : List (String × α)} (h : es.Pairwise fun a b => a.1 < b.1)
    {name : String} {x : α} : (name, x) ∈ es ↔ es.lookup name = some x := by
  induction es with
  | nil => simp
  | cons d es ih =>
    rw [List.pairwise_cons] at h
    rw [List.mem_cons, lookup_cons]
    split
    · rename_i hd
      have hnone : (name, x) ∉ es := fun hm => String.lt_irrefl _ (hd ▸ h.1 _ hm)
      rw [or_iff_left hnone, Prod.ext_iff, Option.some.injEq]
      exact ⟨fun h => h.2.symm, fun h => ⟨hd, h.symm⟩⟩
    · rename_i hd
      simp [hd, Prod.ext_iff, ih h.2]

theorem mem_toList_iff {s : Bindings α} {name : String} {x : α} :
    (name, x) ∈ s.toList ↔ s.find? name = some x :=
  mem_iff_lookup s.ascending

/-! ## Extensionality -/

theorem eq_of_mem_iff {es ds : List (String × α)} (he : es.Pairwise fun a b => a.1 < b.1)
    (hd : ds.Pairwise fun a b => a.1 < b.1) (h : ∀ e, e ∈ es ↔ e ∈ ds) : es = ds := by
  induction es generalizing ds with
  | nil => exact (List.eq_nil_iff_forall_not_mem.mpr fun e he => by simpa using (h e).mpr he).symm
  | cons e es ih =>
    cases ds with
    | nil => exact absurd ((h e).mp (List.mem_cons_self ..)) (by simp)
    | cons d ds =>
      rw [List.pairwise_cons] at he hd
      have hed : e = d := by
        rcases List.mem_cons.mp ((h e).mp (List.mem_cons_self ..)) with heq | hmem
        · exact heq
        · rcases List.mem_cons.mp ((h d).mpr (List.mem_cons_self ..)) with heq | hmem'
          · exact heq.symm
          · exact absurd (String.lt_trans (hd.1 _ hmem) (he.1 _ hmem')) (String.lt_irrefl _)
      subst hed
      congr 1
      refine ih he.2 hd.2 fun c => ⟨fun hc => ?_, fun hc => ?_⟩
      · rcases List.mem_cons.mp ((h c).mp (List.mem_cons_of_mem _ hc)) with rfl | hmem
        · exact absurd (he.1 _ hc) (String.lt_irrefl _)
        · exact hmem
      · rcases List.mem_cons.mp ((h c).mpr (List.mem_cons_of_mem _ hc)) with rfl | hmem
        · exact absurd (hd.1 _ hc) (String.lt_irrefl _)
        · exact hmem

theorem ext_find? {s t : Bindings α} (h : ∀ name, s.find? name = t.find? name) : s = t := by
  have hl : s.toList = t.toList := eq_of_mem_iff s.ascending t.ascending fun e => by
    rw [show e = (e.1, e.2) from rfl, mem_toList_iff, mem_toList_iff, h]
  cases s; cases t; simp_all

end Bindings

end Reckoner
