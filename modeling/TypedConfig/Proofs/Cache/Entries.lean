import Mathlib.Data.List.Nodup
import TypedConfig.Cache.State

/-!
Entries and their keys. With one entry at most for each key, looking a key up is finding its entry among
the others; swapping an entry changes what its own key finds and nothing else.
-/

namespace TypedConfig.Cache

namespace State

variable {σ : Type} {s : State σ} {key k : Key} {e new : Entry} {entries : List (Key × Entry)}

theorem lookup_eq_some_of_mem (hnodup : (entries.map Prod.fst).Nodup) (h : (key, e) ∈ entries) :
    entries.lookup key = some e := by
  induction entries with
  | nil => cases h
  | cons p rest ih =>
    obtain ⟨k, f⟩ := p
    rw [List.map_cons, List.nodup_cons] at hnodup
    rw [List.lookup_cons]
    rcases List.mem_cons.1 h with heq | hmem
    · cases heq
      simp
    · have hne : (key == k) = false := by
        rw [beq_eq_false_iff_ne]
        rintro rfl
        exact hnodup.1 (List.mem_map.2 ⟨(key, e), hmem, rfl⟩)
      rw [hne]
      exact ih hnodup.2 hmem

/-! ### Swapping an entry -/

@[simp] theorem keys_swapEntry (key : Key) (new : Entry) (entries : List (Key × Entry)) :
    (swapEntry key new entries).map Prod.fst = entries.map Prod.fst := by
  unfold swapEntry
  rw [List.map_map]
  refine List.map_congr_left fun p _ => ?_
  simp only [Function.comp_apply]
  split
  · rename_i hp
    exact hp.symm
  · rfl

theorem mem_swapEntry {p : Key × Entry} (h : p ∈ swapEntry key new entries) :
    p = (key, new) ∨ p ∈ entries := by
  obtain ⟨q, hq, rfl⟩ := List.mem_map.1 h
  split
  · exact Or.inl rfl
  · exact Or.inr hq

theorem lookup_swapEntry_self (h : entries.lookup key = some e) :
    (swapEntry key new entries).lookup key = some new := by
  induction entries with
  | nil => cases h
  | cons p rest ih =>
    obtain ⟨k, f⟩ := p
    by_cases hk : k = key
    · subst hk
      simp [swapEntry]
    · have hne : (key == k) = false := beq_eq_false_iff_ne.2 (Ne.symm hk)
      rw [List.lookup_cons, hne] at h
      have hhead : swapEntry key new ((k, f) :: rest) = (k, f) :: swapEntry key new rest := by
        simp [swapEntry, hk]
      rw [hhead, List.lookup_cons, hne]
      exact ih h

theorem lookup_swapEntry_of_ne (hk : k ≠ key) :
    (swapEntry key new entries).lookup k = entries.lookup k := by
  induction entries with
  | nil => rfl
  | cons p rest ih =>
    obtain ⟨k', f⟩ := p
    by_cases hk' : k' = key
    · subst hk'
      have hne : (k == k') = false := beq_eq_false_iff_ne.2 hk
      have hhead : swapEntry k' new ((k', f) :: rest) = (k', new) :: swapEntry k' new rest := by
        simp [swapEntry]
      rw [hhead, List.lookup_cons, List.lookup_cons, hne]
      exact ih
    · have hhead : swapEntry key new ((k', f) :: rest) = (k', f) :: swapEntry key new rest := by
        simp [swapEntry, hk']
      rw [hhead, List.lookup_cons, List.lookup_cons, ih]

/-! ### Dropping an entry -/

theorem lookup_filter_of_ne (hk : k ≠ key) :
    (entries.filter fun p => p.1 ≠ key).lookup k = entries.lookup k := by
  induction entries with
  | nil => rfl
  | cons p rest ih =>
    obtain ⟨k', f⟩ := p
    by_cases hk' : k' = key
    · subst hk'
      have hne : (k == k') = false := beq_eq_false_iff_ne.2 hk
      rw [List.filter_cons_of_neg (by simp), List.lookup_cons, hne]
      exact ih
    · rw [List.filter_cons_of_pos (by simpa using hk'), List.lookup_cons, List.lookup_cons, ih]

@[simp] theorem entry?_clear (s : State σ) (k : Key) : State.entry? s.clear k = none := rfl

theorem entry?_invalidate_self (s : State σ) (key : Key) :
    State.entry? (s.invalidate key).2 key = none := by
  unfold invalidate
  split
  · assumption
  · refine List.lookup_eq_none_iff.2 fun p hp => ?_
    have hne : p.1 ≠ key := of_decide_eq_true (List.mem_filter.1 hp).2
    exact bne_iff_ne.2 hne.symm

theorem entry?_invalidate_of_ne (s : State σ) (hk : k ≠ key) :
    State.entry? (s.invalidate key).2 k = s.entry? k := by
  unfold invalidate
  split
  · rfl
  · exact lookup_filter_of_ne hk

end State

end TypedConfig.Cache
