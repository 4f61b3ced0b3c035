import Reckoner.Proofs.Parse.Alike
import Reckoner.Proofs.Scan.Composition

/-!
# Pieces of text with blanks around them

Texts are put together from pieces, with blanks or nothing around each piece. Where no two pieces
can run into each other, such a text is read to the tokens of its pieces, wherever it begins, up to
the places of the tokens.

* `Scan.ReadsLike.append`: two texts, one behind the other.
* `Spaced.readsLike`: pieces with blanks around them.
-/

namespace Reckoner

open Text Token.Pattern
open List (Forall₂)

/-! ## What a text reads like -/

namespace Token

theorem map_shift_alike (here : Location) (ts : List Token) :
    Forall₂ Alike (ts.map (shift here)) ts := by
  rw [List.forall₂_map_left_iff, List.forall₂_same]
  exact fun t _ => ⟨rfl, fun _ => rfl⟩

theorem forall_kind_of_alike {P : Kind → Prop} {ts us : List Token} (h : Forall₂ Alike ts us)
    (hus : ∀ u ∈ us, P u.kind) : ∀ t ∈ ts, P t.kind := by
  induction h with
  | nil => simp
  | cons htu _ ih =>
    rw [List.forall_mem_cons] at hus ⊢
    exact ⟨htu.1 ▸ hus.1, ih hus.2⟩

theorem forall_getLast?_of_alike {P : Kind → Prop} {ts us : List Token} (h : Forall₂ Alike ts us)
    (hus : ∀ u ∈ us.getLast?, P u.kind) : ∀ t ∈ ts.getLast?, P t.kind := by
  have hkinds : ts.map kind = us.map kind := by
    rw [← List.forall₂_eq_eq_eq, List.forall₂_map_left_iff, List.forall₂_map_right_iff]
    exact h.imp fun _ _ h => h.1
  intro t ht
  have hlast : us.getLast?.map kind = some t.kind := by
    rw [← List.getLast?_map, ← hkinds, List.getLast?_map, ht, Option.map_some]
  obtain ⟨u, hu, hkind⟩ := Option.map_eq_some_iff.mp hlast
  exact hkind ▸ hus u hu

end Token

namespace Scan

/-- Wherever the text begins, it is read to its end, and to tokens alike the given ones. -/
def ReadsLike (cs : List Char) (like : List Token) : Prop :=
  ∀ here, ∃ ts stop, Forall₂ Token.Alike ts like ∧ Reads here cs ⟨ts, stop, []⟩

variable {a b cs : List Char} {as bs : List Token}

theorem readsLike_gap (h : ∀ c ∈ cs, isBlank c = true) : ReadsLike cs [] := by
  intro here
  have hread := (reads_nil (here.after cs)).gap h
  rw [List.append_nil] at hread
  exact ⟨[], _, .nil, hread⟩

theorem readsLike_lexeme {kind : Token.Kind} {lexeme : String} (h : kind.Matches lexeme.toList) :
    ReadsLike lexeme.toList [⟨kind, lexeme, .initial⟩] := by
  intro here
  have hread := Reads.lexeme h (by simp) (reads_nil (here.after lexeme.toList))
  rw [List.append_nil, String.ofList_toList] at hread
  let read : Token := ⟨kind, lexeme, here, here.after lexeme.toList⟩
  exact ⟨[read], _, .cons ⟨rfl, fun _ => rfl⟩ .nil, hread⟩

/-- What is read of a text once is read of it everywhere. -/
theorem Reads.readsLike {stop : Location} (h : Reads .start cs ⟨as, stop, []⟩) :
    ReadsLike cs as :=
  fun here => ⟨_, _, Token.map_shift_alike here as, Reads.shift here [] h⟩

theorem ReadsLike.append (ha : ReadsLike a as) (hb : ReadsLike b bs)
    (h : ∀ t ∈ as, ∀ c ∈ b.head?, t.kind.continues c = false) :
    ReadsLike (a ++ b) (as ++ bs) := by
  intro here
  obtain ⟨ts, stop, hts, hread⟩ := ha here
  obtain ⟨us, stop', hus, hread'⟩ := hb stop
  refine ⟨ts ++ us, stop', List.rel_append hts hus, hread.append rfl (fun t ht _ => ?_) hread'⟩
  exact Token.forall_kind_of_alike (P := fun k => ∀ c ∈ b.head?, k.continues c = false) hts h t ht

end Scan

/-! ## Spaced pieces -/

/-- The text is the pieces in order, with blanks or nothing in front of them, between them and
behind them. -/
inductive Spaced : List String → String → Prop
  | nil {gap : String} : (∀ c ∈ gap.toList, isBlank c = true) → Spaced [] gap
  | cons {gap piece text : String} {pieces : List String} :
    (∀ c ∈ gap.toList, isBlank c = true) → Spaced pieces text →
    Spaced (piece :: pieces) (gap ++ piece ++ text)

/-- The piece begins with a character that is not part of a word. -/
def BeginsApart (piece : String) : Prop :=
  ∃ c ∈ piece.toList.head?, isWord c = false

/-- The first of two pieces, with their tokens, cannot run into the second: its tokens never go on,
or the second begins with a character that is not part of a word. -/
def Parted (p q : String × List Token) : Prop :=
  (∀ t ∈ p.2, ∀ c, t.kind.continues c = false) ∨ BeginsApart q.1

/-! ## Marks -/

/-- The lexeme is the mark of the kind. -/
def IsMark (kind : Token.Kind) (lexeme : String) : Prop :=
  ∃ c, lexeme.toList = [c] ∧ (kind, c) ∈ marks

theorem isMark_openParen : IsMark .openParen "(" := ⟨'(', by decide, by decide⟩

theorem isMark_closeParen : IsMark .closeParen ")" := ⟨')', by decide, by decide⟩

theorem isMark_assign : IsMark .assign "=" := ⟨'=', by decide, by decide⟩

namespace IsMark

variable {kind : Token.Kind} {lexeme : String}

theorem readsLike (h : IsMark kind lexeme) :
    Scan.ReadsLike lexeme.toList [⟨kind, lexeme, .initial⟩] := by
  obtain ⟨c, hlexeme, hmark⟩ := h
  exact Scan.readsLike_lexeme (hlexeme ▸ Token.Kind.matches_mark hmark)

theorem beginsApart (h : IsMark kind lexeme) : BeginsApart lexeme := by
  obtain ⟨c, hlexeme, hmark⟩ := h
  refine ⟨c, ?_, (not_isWord_of_mem_marks _ hmark).1⟩
  rw [hlexeme]
  rfl

theorem not_continues (h : IsMark kind lexeme) (c : Char) : kind.continues c = false := by
  obtain ⟨_, -, hmark⟩ := h
  exact Token.Kind.not_continues_mark hmark c

theorem parted (h : IsMark kind lexeme) (q : String × List Token) :
    Parted (lexeme, [⟨kind, lexeme, .initial⟩]) q := by
  refine Or.inl fun t ht => ?_
  rw [List.mem_singleton.mp ht]
  exact h.not_continues

end IsMark

/-! ## Texts of pieces -/

namespace Spaced

variable {pieces : List String} {text : String}

/-- A piece with no blanks in front of it. -/
theorem piece (h : Spaced pieces text) (piece : String) :
    Spaced (piece :: pieces) (piece ++ text) := by
  have hcons : Spaced (piece :: pieces) ("" ++ piece ++ text) := .cons (by simp) h
  rwa [String.empty_append] at hcons

theorem not_isWord_head? (h : Spaced pieces text) (hpieces : ∀ p ∈ pieces.head?, BeginsApart p) :
    ∀ c ∈ text.toList.head?, isWord c = false := by
  intro c hc
  cases h with
  | nil hgap => exact isWord_eq_false_of_isBlank (hgap c (List.mem_of_head? hc))
  | @cons gap piece text pieces hgap _ =>
    obtain ⟨d, hd, hword⟩ := hpieces piece rfl
    rw [String.toList_append, String.toList_append, List.append_assoc] at hc
    cases hcs : gap.toList with
    | nil =>
      rw [Option.mem_def] at hd
      rw [hcs, List.nil_append, List.head?_append, hd] at hc
      cases hc
      exact hword
    | cons e cs =>
      rw [hcs] at hc
      cases hc
      exact isWord_eq_false_of_isBlank (hgap c (by simp [hcs]))

/-- Pieces that cannot run into each other are read to their tokens, one after the other. -/
theorem readsLike {parts : List (String × List Token)} (h : Spaced (parts.map Prod.fst) text)
    (hreads : ∀ p ∈ parts, Scan.ReadsLike p.1.toList p.2) (hparted : parts.IsChain Parted) :
    Scan.ReadsLike text.toList (parts.flatMap Prod.snd) := by
  induction parts generalizing text with
  | nil =>
    cases h with
    | nil hgap => exact Scan.readsLike_gap hgap
  | cons p parts ih =>
    cases h with
    | @cons gap _ text _ hgap htext =>
      have hfirst := hreads p (List.mem_cons_self ..)
      have hbehind := ih htext (fun q hq => hreads q (List.mem_cons_of_mem _ hq)) hparted.tail
      have hborder : ∀ t ∈ p.2, ∀ c ∈ text.toList.head?, t.kind.continues c = false := by
        intro t ht c hc
        cases parts with
        | nil =>
          have hword := htext.not_isWord_head? (by simp) c hc
          exact Token.Kind.not_continues_of_not_isWord _ hword
        | cons q parts =>
          obtain hclosed | hbegins := (List.isChain_cons_cons.mp hparted).1
          · exact hclosed t ht c
          · have hword := htext.not_isWord_head? (by simpa using hbegins) c hc
            exact Token.Kind.not_continues_of_not_isWord _ hword
      have happend := (Scan.readsLike_gap hgap).append (hfirst.append hbehind hborder) (by simp)
      rw [String.toList_append, String.toList_append, List.append_assoc]
      exact happend

end Spaced

end Reckoner
