import Std.Data.TreeMap

/-!
Lists of distinct items in the order in which they were first added, with a quick way from an item
to its place. Main statements: adding an item that is present changes nothing, adding a new one puts
it at the end, and the place of an item is its place in the list.
-/

namespace TypedConfig.Module

/-- Distinct items, the newest first. The tree answers where an item stands in first-seen order. -/
structure Distinct (α : Type) [Ord α] [DecidableEq α] where
  newest : List α
  size : Nat
  places : Std.TreeMap α Nat
  nodup : newest.Nodup
  size_eq : size = newest.length
  places_eq : ∀ a : α, places[a]? = newest.reverse.idxOf? a

namespace Distinct

variable {α : Type} [Ord α] [DecidableEq α]

/-- No items. -/
def empty : Distinct α := ⟨[], 0, ∅, .nil, rfl, fun _ => rfl⟩

/-- The items in first-seen order. -/
def toList (d : Distinct α) : List α := d.newest.reverse

/-- The place of an item, counted from zero. -/
def place? (d : Distinct α) (a : α) : Option Nat := d.places[a]?

@[simp] theorem toList_empty : (empty : Distinct α).toList = [] := rfl

@[simp] theorem length_toList (d : Distinct α) : d.toList.length = d.size := by
  simp [toList, d.size_eq]

theorem nodup_toList (d : Distinct α) : d.toList.Nodup :=
  List.pairwise_reverse.2 (d.nodup.imp Ne.symm)

theorem place?_eq (d : Distinct α) (a : α) : d.place? a = d.toList.idxOf? a := d.places_eq a

theorem getElem?_of_place? {d : Distinct α} {a : α} {i : Nat} (h : d.place? a = some i) :
    d.toList[i]? = some a := by
  rw [place?_eq] at h
  obtain ⟨hi, ha, -⟩ := List.idxOf?_eq_some_iff.1 h
  rw [List.getElem?_eq_getElem hi, ha]

theorem isSome_place?_iff {d : Distinct α} {a : α} : (d.place? a).isSome ↔ a ∈ d.toList := by
  rw [place?_eq]
  exact List.isSome_idxOf?

omit [Ord α] in
theorem idxOf?_concat {l : List α} {a : α} (h : a ∉ l) (b : α) :
    (l ++ [a]).idxOf? b = if a = b then some l.length else l.idxOf? b := by
  by_cases hab : a = b
  · subst hab
    have hn : l.findIdx? (· == a) = none := by
      have := List.idxOf?_eq_none_iff.2 h
      simpa [List.idxOf?] using this
    simp [List.idxOf?, List.findIdx?_append, hn]
  · simp [List.idxOf?, List.findIdx?_append, hab]

variable [Std.TransOrd α] [Std.LawfulEqOrd α]

/-- Adds an item unless it is present. -/
def insert (d : Distinct α) (a : α) : Distinct α :=
  if h : d.places[a]? = none then
    have ha : a ∉ d.newest.reverse := by
      rw [← List.idxOf?_eq_none_iff, ← d.places_eq, h]
    ⟨a :: d.newest, d.size + 1, d.places.insert a d.size,
      List.nodup_cons.2 ⟨by simpa using ha, d.nodup⟩, by simp [d.size_eq], by
      intro b
      rw [Std.TreeMap.getElem?_insert, List.reverse_cons, idxOf?_concat ha]
      simp [d.places_eq, d.size_eq]⟩
  else d

theorem insert_of_mem {d : Distinct α} {a : α} (h : a ∈ d.toList) : d.insert a = d := by
  have : d.places[a]? ≠ none := by
    rw [d.places_eq]
    intro hn
    exact List.idxOf?_eq_none_iff.1 hn h
  simp [insert, this]

theorem toList_insert_of_not_mem {d : Distinct α} {a : α} (h : a ∉ d.toList) :
    (d.insert a).toList = d.toList ++ [a] := by
  have : d.places[a]? = none := by
    rw [d.places_eq]
    exact List.idxOf?_eq_none_iff.2 h
  simp [insert, this, toList]

theorem toList_insert (d : Distinct α) (a : α) :
    (d.insert a).toList = if a ∈ d.toList then d.toList else d.toList ++ [a] := by
  by_cases h : a ∈ d.toList
  · simp [h, insert_of_mem h]
  · simp [h, toList_insert_of_not_mem h]

@[simp] theorem mem_toList_insert (d : Distinct α) (a b : α) :
    b ∈ (d.insert a).toList ↔ b ∈ d.toList ∨ b = a := by
  rw [toList_insert]
  split <;> simp_all

end Distinct

end TypedConfig.Module
