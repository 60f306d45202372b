import Mathlib.Data.List.Forall2
import Mathlib.Data.List.Nodup
import Mathlib.Data.List.Perm.Basic
import TypedConfig.Module.Activate

/-!
Activation puts accessors into the order of their declarations. Taking a slot out moves another one
into its place, so the slots that are left are only known up to their order; as names are distinct,
that is enough to find every slot (`matchSlots_eq_ok`).
-/

namespace TypedConfig.Module

open Contract (Accessor Descriptor)

section SwapRemove

variable {α : Type} {xs : List α} {i : Nat}

theorem perm_swapRemove (h : i < xs.length) : (xs[i] :: swapRemove xs i).Perm xs := by
  obtain rfl | ⟨ys, last, rfl⟩ := List.eq_nil_or_concat' xs
  · simp at h
  unfold swapRemove
  rw [List.getLast?_concat]
  by_cases hi : i < ys.length
  · have hset := List.set_perm_cons_eraseIdx hi last
    have hget := List.getElem_cons_eraseIdx_perm hi
    simp only [List.set_append_left _ _ hi, List.dropLast_concat, List.getElem_append_left hi]
    calc (ys[i] :: ys.set i last).Perm (ys[i] :: last :: ys.eraseIdx i) := hset.cons _
      _ |>.Perm (last :: ys[i] :: ys.eraseIdx i) := .swap ..
      _ |>.Perm (last :: ys) := hget.cons _
      _ |>.Perm (ys ++ [last]) := (List.perm_append_singleton ..).symm
  · obtain rfl : i = ys.length := by
      simp at h
      omega
    simp only [List.set_append_right _ _ (Nat.le_refl _), Nat.sub_self, List.set_cons_zero,
      List.dropLast_concat, List.getElem_concat_length]
    exact (List.perm_append_singleton ..).symm

end SwapRemove

/-! ### Matching slots with declarations -/

/-- A slot that an accessor of a contract is looking for. -/
structure Slot.Matches (s : Slot) (a : Accessor) : Prop where
  name : s.name = a.name
  kind : s.value.kind = a.kind

theorem matchSlots_cons_of_missing {slots : List Slot} {a : Accessor}
    (h : ∀ s ∈ slots, s.name ≠ a.name) (rest : List Accessor) :
    matchSlots slots (a :: rest) = .error (.missingAccessor a.name) := by
  have hi : slots.findIdx? (fun s => s.name == a.name) = none :=
    List.findIdx?_eq_none_iff.2 fun s hs => by simpa using h s hs
  rw [matchSlots, hi]

/-- One accessor at a time: among slots of distinct names the one that has the accessor's name is taken out, and the
others are matched with the other accessors. -/
theorem exists_matchSlots_cons {slots : List Slot} {s : Slot} {a : Accessor}
    (hnodup : (slots.map Slot.name).Nodup) (hs : s ∈ slots) (hname : s.name = a.name)
    (rest : List Accessor) :
    ∃ left, (s :: left).Perm slots ∧ matchSlots slots (a :: rest) =
      if s.value.kind ≠ a.kind then .error (.kindMismatch a.name a.kind s.value.kind)
      else (matchSlots left rest).map (s :: ·) := by
  cases hi : slots.findIdx? fun x => x.name == a.name with
  | none =>
    have hno := List.findIdx?_eq_none_iff.1 hi s hs
    simp [hname] at hno
  | some i =>
    obtain ⟨hlt, hfound, -⟩ := List.findIdx?_eq_some_iff_getElem.1 hi
    have heq : slots[i] = s := by
      have hnames : slots[i].name = s.name := by rw [hname]; simpa using hfound
      exact List.inj_on_of_nodup_map hnodup (List.getElem_mem hlt) hs hnames
    have hget : slots[i]? = some s := by rw [List.getElem?_eq_getElem hlt, heq]
    refine ⟨swapRemove slots i, heq ▸ perm_swapRemove hlt, ?_⟩
    rw [matchSlots]
    simp only [hi, hget, hname]
    by_cases hkind : s.value.kind ≠ a.kind
    · rw [if_pos hkind, if_pos hkind]
    · rw [if_neg hkind, if_neg hkind]
      cases matchSlots (swapRemove slots i) rest <;> rfl

/-- **Every declared accessor is found**, whatever the order of the slots, and the slots come out in
the order of the declarations. -/
theorem matchSlots_eq_ok {slots wanted : List Slot} {accessors : List Accessor}
    (h : List.Forall₂ Slot.Matches wanted accessors) (hnodup : (wanted.map Slot.name).Nodup)
    (hp : slots.Perm wanted) : matchSlots slots accessors = .ok wanted := by
  induction h generalizing slots with
  | nil =>
    rw [hp.eq_nil, matchSlots]
  | @cons s a wanted accessors hm _ ih =>
    have hslots : (slots.map Slot.name).Nodup := (hp.map Slot.name).nodup_iff.2 hnodup
    obtain ⟨left, hleft, hmatch⟩ := exists_matchSlots_cons hslots
      (hp.mem_iff.2 List.mem_cons_self) hm.name accessors
    have hrest := ih (List.nodup_cons.1 hnodup).2 (hleft.trans hp).cons_inv
    rw [hmatch, if_neg (not_not.2 hm.kind), hrest]
    rfl

theorem activate_eq_ok {bytes : List UInt8} {m : Contents} {d : Descriptor}
    (h : Contents.parse bytes = .ok m) (hinterface : m.interface = some (internalName d.typeName))
    (hslots : List.Forall₂ Slot.Matches m.slots d.accessors)
    (hnodup : (m.slots.map Slot.name).Nodup) :
    activate bytes d = .ok ⟨m.typeName, d.typeName, m.slots⟩ := by
  rw [activate, h]
  show (if m.interface ≠ some (internalName d.typeName) then _ else _) = _
  rw [if_neg (by simp [hinterface]), matchSlots_eq_ok hslots hnodup (.refl _)]
  rfl

theorem activate_eq_error {bytes : List UInt8} {e : ActivationError} (d : Descriptor)
    (h : Contents.parse bytes = .error e) : activate bytes d = .error e := by
  rw [activate, h]
  rfl

end TypedConfig.Module
