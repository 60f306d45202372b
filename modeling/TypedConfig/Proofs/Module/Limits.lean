import Mathlib.Algebra.BigOperators.Group.Finset.Basic
import TypedConfig.Proofs.Module.Reassemble

/-!
The limits of the format. What a module needs says how large its pool becomes and which texts stand in it, and
these two and the number of methods decide whether it is assembled and how it is refused otherwise
(`Contents.assemble_eq_error_iff_limit`). Within the limits the indices can be reckoned in sixteen bits: no cast,
sum or product on the way to one of them is too large (`Layout.exact_indices`).
-/

namespace TypedConfig.Module

/-! ### What a module needs -/

/-- The text that a constant is, if it is one. -/
def Constant.text? : Constant → Option String
  | .text s => some s
  | _ => none

namespace Contents

variable (m : Contents)

/-- What a module needs in its pool, in the order in which it is met and as often. -/
def needed : List Constant := m.constants.flatMap Constant.closure

/-- The texts that a module needs, in the order in which they are met. -/
def neededTexts : List String := m.needed.filterMap Constant.text?

/-- The count of the pool: the first place, the places of what the module needs, each once, and the two entries
at the end. -/
def entryCount : Nat := 3 + ∑ c ∈ m.needed.toFinset, c.width

/-- The limit that a module breaks, if it breaks one: the size of the pool before the length of a text, and the
length of the first text that is too long before the number of methods. -/
def limitError? : Option BuildError :=
  if maxShort < m.entryCount then some (.poolOverflow m.entryCount)
  else
    match m.neededTexts.find? fun s => maxShort < (encodeText s).length with
    | some s => some (.textTooLong (encodeText s).length)
    | none => if maxShort < m.slots.length + 1 then some (.tooManyMethods m.slots.length) else none

end Contents

namespace Pool

theorem places_ofList (cs : List Constant) :
    (ofList cs).places = ∑ c ∈ (cs.flatMap Constant.closure).toFinset, c.width := by
  have hmembers : (cs.flatMap Constant.closure).toFinset = (ofList cs).members.toFinset := by
    ext k
    rw [List.mem_toFinset, List.mem_toFinset, mem_members, holds_ofList, List.mem_flatMap]
  rw [hmembers, List.sum_toFinset _ (nodup_members _), sum_width, totalWidth_members]

end Pool

/-! ### The first text that is too long -/

section Texts

variable {α : Type} [Ord α] [DecidableEq α] [Std.TransOrd α] [Std.LawfulEqOrd α]

/-- Among the items added to distinct ones, the first to satisfy a condition is the first of all that were to be
added. Only items that are there already are left out, and these do not come first. -/
theorem Distinct.find?_foldl_insert (q : α → Bool) (xs : List α) (d : Distinct α) :
    (xs.foldl insert d).toList.find? q = (d.toList ++ xs).find? q := by
  induction xs generalizing d with
  | nil => rw [List.foldl_nil, List.append_nil]
  | cons x xs ih =>
    rw [List.foldl_cons, ih]
    by_cases hx : x ∈ d.toList
    · rw [insert_of_mem hx, List.find?_append, List.find?_append]
      by_cases hq : q x = true
      · have hsome : (d.toList.find? q).isSome := List.find?_isSome.2 ⟨x, hx, hq⟩
        obtain ⟨y, hy⟩ := Option.isSome_iff_exists.1 hsome
        rw [hy, Option.some_or, Option.some_or]
      · rw [List.find?_cons_of_neg hq]
    · rw [toList_insert_of_not_mem hx, List.append_assoc, List.singleton_append]

theorem Pool.texts_foldl_add (cs : List Constant) (p : Pool) :
    (cs.foldl add p).texts =
      ((cs.flatMap Constant.closure).filterMap Constant.text?).foldl Distinct.insert p.texts := by
  induction cs generalizing p with
  | nil => rfl
  | cons c cs ih =>
    rw [List.foldl_cons, ih, List.flatMap_cons, List.filterMap_append, List.foldl_append]
    cases c <;> rfl

theorem Pool.find?_texts_ofList (q : String → Bool) (cs : List Constant) :
    (ofList cs).texts.toList.find? q =
      ((cs.flatMap Constant.closure).filterMap Constant.text?).find? q := by
  rw [ofList, texts_foldl_add, Distinct.find?_foldl_insert]
  rfl

end Texts

namespace Contents

variable {m : Contents}

theorem places_add_three : (Pool.ofList m.constants).places + 3 = m.entryCount := by
  rw [Pool.places_ofList, entryCount, needed, Nat.add_comm]

theorem layout_eq_poolOverflow (h : maxShort < m.entryCount) :
    m.layout = .error (.poolOverflow m.entryCount) := by
  rw [layout, Pool.freeze, dif_pos (places_add_three ▸ h), places_add_three]

theorem layout_eq_textTooLong {s : String} (h : m.entryCount ≤ maxShort)
    (hs : m.neededTexts.find? (fun s => maxShort < (encodeText s).length) = some s) :
    m.layout = .error (.textTooLong (encodeText s).length) := by
  have hplaces : ¬ maxShort < (Pool.ofList m.constants).places + 3 := by
    rw [places_add_three]
    exact Nat.not_lt.2 h
  rw [neededTexts, needed, ← Pool.find?_texts_ofList] at hs
  rw [layout, Pool.freeze, dif_neg hplaces]
  split
  · rename_i s' hs'
    rw [hs] at hs'
    rw [Option.some.inj hs']
  · rename_i hnone
    rw [hs] at hnone
    cases hnone

theorem exists_layout (h : m.entryCount ≤ maxShort)
    (hs : m.neededTexts.find? (fun s => maxShort < (encodeText s).length) = none) :
    ∃ l, m.layout = .ok l := by
  refine Pool.exists_freeze_iff.2 ⟨places_add_three ▸ h, ?_⟩
  rw [neededTexts, needed, ← Pool.find?_texts_ofList] at hs
  simpa using hs

theorem assemble_cases (m : Contents) :
    (∃ e, m.limitError? = some e ∧ m.assemble = .error e) ∨
      m.limitError? = none ∧ ∃ bytes, m.assemble = .ok bytes := by
  by_cases hcount : maxShort < m.entryCount
  · exact Or.inl ⟨_, if_pos hcount, assemble_of_layout_eq_error (layout_eq_poolOverflow hcount)⟩
  · have hle := Nat.not_lt.1 hcount
    cases hs : m.neededTexts.find? fun s => maxShort < (encodeText s).length with
    | some s =>
      refine Or.inl ⟨.textTooLong (encodeText s).length, ?_,
        assemble_of_layout_eq_error (layout_eq_textTooLong hle hs)⟩
      rw [limitError?, if_neg hcount, hs]
    | none =>
      obtain ⟨l, hl⟩ := exists_layout hle hs
      by_cases hmethods : maxShort < m.slots.length + 1
      · refine Or.inl ⟨.tooManyMethods m.slots.length, ?_, assemble_eq_tooManyMethods hl hmethods⟩
        rw [limitError?, if_neg hcount, hs]
        exact if_pos hmethods
      · refine Or.inr ⟨?_, exists_assemble_iff.2 ⟨⟨l, hl⟩, Nat.not_lt.1 hmethods⟩⟩
        rw [limitError?, if_neg hcount, hs]
        exact if_neg hmethods

theorem limitError?_ne_missingConstant (what : String) :
    m.limitError? ≠ some (.missingConstant what) := by
  unfold limitError?
  intro h
  split at h
  · cases h
  · split at h
    · cases h
    · split at h <;> cases h

end Contents

/-! ### Sixteen bits -/

/-- How an index is reckoned in sixteen bits, from lengths and places that are cast. -/
inductive Reckoning where
  | cast (n : Nat)
  | add (a b : Reckoning)
  | twice (a : Reckoning)

namespace Reckoning

/-- What the reckoning comes to without a bound. -/
def value : Reckoning → Nat
  | cast n => n
  | add a b => a.value + b.value
  | twice a => 2 * a.value

/-- What the reckoning comes to in sixteen bits. -/
def short : Reckoning → UInt16
  | cast n => .ofNat n
  | add a b => a.short + b.short
  | twice a => 2 * a.short

/-- No cast truncates, and no sum and no product wraps around. -/
def NoWrap : Reckoning → Prop
  | cast n => n ≤ maxShort
  | add a b => a.NoWrap ∧ b.NoWrap ∧ a.value + b.value ≤ maxShort
  | twice a => a.NoWrap ∧ 2 * a.value ≤ maxShort

/-- If the end fits in sixteen bits then so does everything on the way to it. -/
theorem noWrap_of_le {a : Reckoning} (h : a.value ≤ maxShort) : a.NoWrap := by
  induction a with
  | cast n => exact h
  | add a b iha ihb =>
    rw [value] at h
    exact ⟨iha (by omega), ihb (by omega), h⟩
  | twice a ih =>
    rw [value] at h
    exact ⟨ih (by omega), h⟩

theorem NoWrap.value_le {a : Reckoning} (h : a.NoWrap) : a.value ≤ maxShort := by
  cases a with
  | cast n => exact h
  | add a b => exact h.2.2
  | twice a => exact h.2

theorem NoWrap.toNat_short {a : Reckoning} (h : a.NoWrap) : a.short.toNat = a.value := by
  have hle := h.value_le
  simp only [maxShort] at hle
  induction a with
  | cast n =>
    rw [value] at hle
    rw [short, value, UInt16.toNat_ofNat', Nat.mod_eq_of_lt (by omega)]
  | add a b iha ihb =>
    rw [value] at hle
    rw [short, value, UInt16.toNat_add, iha h.1 (by omega), ihb h.2.1 (by omega),
      Nat.mod_eq_of_lt (by omega)]
  | twice a ih =>
    rw [value] at hle
    rw [short, value, UInt16.toNat_mul, ih h.1 (by omega)]
    have htwo : (2 : UInt16).toNat = 2 := rfl
    rw [htwo, Nat.mod_eq_of_lt (by omega)]

end Reckoning

namespace Layout

open Reckoning

variable (l : Layout)

/-- A base is the base before it and the length of the group between them. -/
def classBaseShort : Reckoning := .add (.cast 0) (.cast l.pool.texts.size)
def stringBaseShort : Reckoning := .add l.classBaseShort (.cast l.pool.classes.size)
def intBaseShort : Reckoning := .add l.stringBaseShort (.cast l.pool.strings.size)
def doubleBaseShort : Reckoning := .add l.intBaseShort (.cast l.pool.ints.size)
def longBaseShort : Reckoning := .add l.doubleBaseShort (.twice (.cast l.pool.doubles.size))

/-- How the index of a constant is reckoned. -/
def indexShort? : Constant → Option Reckoning
  | .text s => (l.pool.texts.place? s).map fun i => .add (.add (.cast 0) (.cast i)) (.cast 1)
  | .classRef s =>
    (l.pool.classes.place? s).map fun i => .add (.add l.classBaseShort (.cast i)) (.cast 1)
  | .string s =>
    (l.pool.strings.place? s).map fun i => .add (.add l.stringBaseShort (.cast i)) (.cast 1)
  | .int n => (l.pool.ints.place? n).map fun i => .add (.add l.intBaseShort (.cast i)) (.cast 1)
  | .double bits =>
    (l.pool.doubles.place? bits).map fun i =>
      .add (.add l.doubleBaseShort (.twice (.cast i))) (.cast 1)
  | .long n =>
    (l.pool.longs.place? n).map fun i => .add (.add l.longBaseShort (.twice (.cast i))) (.cast 1)

/-- How the numbers after the last constant are reckoned: the two indices at the end and the count. -/
def endShort (k : Nat) : Reckoning := .add (.cast l.pool.places) (.cast k)

/-- Nothing that is reckoned for a layout wraps around or is truncated: the index of a constant, the two indices
at the end, the count, and the length of a text. -/
structure Exact (l : Layout) : Prop where
  index : ∀ c i, l.index? c = some i → ∃ a, l.indexShort? c = some a ∧ a.NoWrap ∧ a.short.toNat = i
  nameAndType : (l.endShort 1).NoWrap ∧ (l.endShort 1).short.toNat = l.nameAndTypeIndex
  methodRef : (l.endShort 2).NoWrap ∧ (l.endShort 2).short.toNat = l.methodRefIndex
  count : (l.endShort 3).NoWrap ∧ (l.endShort 3).short.toNat = l.count
  text : ∀ s ∈ l.pool.texts.toList, (cast (encodeText s).length).NoWrap

theorem value_indexShort? (c : Constant) : (l.indexShort? c).map value = l.index? c := by
  cases c <;>
    simp [indexShort?, index?, classBaseShort, stringBaseShort, intBaseShort, doubleBaseShort,
      longBaseShort, classBase, stringBase, intBase, doubleBase, longBase, value, Function.comp_def]

theorem lt_count_of_index? {c : Constant} {i : Nat} (h : l.index? c = some i) : i < l.count := by
  have hc : l.pool.Holds c := by
    by_contra hc
    rw [index?_eq_none hc] at h
    cases h
  rw [index?_eq hc] at h
  exact Option.some.inj h ▸ index_lt hc

/-- **Within the limits sixteen bits are enough.** Every number that is reckoned for a layout is less than the
count, or is the count, and the count fits. -/
theorem exact_indices : l.Exact := by
  have hcount : l.count ≤ maxShort := l.fits
  have hend : ∀ k ≤ 3, (l.endShort k).NoWrap ∧ (l.endShort k).short.toNat = l.pool.places + k := by
    intro k hk
    have hvalue : (l.endShort k).value = l.pool.places + k := rfl
    have hle : l.pool.places + k ≤ l.count := Nat.add_le_add_left hk _
    have hno : (l.endShort k).NoWrap := noWrap_of_le (hvalue ▸ hle.trans hcount)
    exact ⟨hno, hno.toNat_short.trans hvalue⟩
  refine ⟨?_, hend 1 (by decide), hend 2 (by decide), hend 3 (by decide), l.short⟩
  intro c i hi
  have hlt := l.lt_count_of_index? hi
  rw [← value_indexShort?] at hi
  obtain ⟨a, ha, rfl⟩ := Option.map_eq_some_iff.1 hi
  have hno : a.NoWrap := noWrap_of_le (hlt.le.trans hcount)
  exact ⟨a, ha, hno, hno.toNat_short⟩

end Layout

/-! ### Assembling within the limits -/

namespace Contents

/-- **A module is refused exactly at the limits of the format.** It is refused for the limit that it breaks, and
assembled if it breaks none. No constant is ever missing, and no index of an assembled module is reckoned
wrongly for want of bits. -/
theorem assemble_eq_error_iff_limit (m : Contents) :
    (∀ e, m.assemble = .error e ↔ m.limitError? = some e) ∧
    ((∃ bytes, m.assemble = .ok bytes) ↔ m.limitError? = none) ∧
    (∀ what, m.assemble ≠ .error (.missingConstant what)) ∧
    ∀ bytes, m.assemble = .ok bytes →
      ∃ l, m.layout = .ok l ∧ l.count = m.entryCount ∧ l.Exact := by
  refine ⟨?_, ?_, ?_, ?_⟩
  · intro e
    rcases assemble_cases m with ⟨e', hlimit, herror⟩ | ⟨hlimit, bytes, hok⟩
    · rw [hlimit, herror, Except.error.injEq, Option.some.injEq]
    · simp [hlimit, hok]
  · rcases assemble_cases m with ⟨e, hlimit, herror⟩ | ⟨hlimit, bytes, hok⟩
    · simp [hlimit, herror]
    · simp [hlimit, hok]
  · intro what h
    rcases assemble_cases m with ⟨e, hlimit, herror⟩ | ⟨hlimit, bytes, hok⟩
    · obtain rfl : e = .missingConstant what := Except.error.inj (herror.symm.trans h)
      exact limitError?_ne_missingConstant what hlimit
    · rw [hok] at h
      cases h
  · intro bytes hok
    obtain ⟨⟨l, hl⟩, -⟩ := exists_assemble_iff.1 ⟨bytes, hok⟩
    refine ⟨l, hl, ?_, l.exact_indices⟩
    rw [← places_add_three, ← Pool.freeze_eq_ok hl]
    rfl

end Contents

end TypedConfig.Module
