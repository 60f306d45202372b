import Mathlib.Data.List.Nodup
import Mathlib.Data.List.Perm.Basic
import TypedConfig.Proofs.Module.Accepted
import TypedConfig.Proofs.Module.Sections

/-!
What a method table may hold. Its methods are initializers and accessors, each under its name; `Decoded` says
what has to be true of them, and decoding succeeds for just these tables (`decodeMethods_eq_ok_iff`). An accepted
module therefore has no accessor twice.
-/

namespace TypedConfig.Module

open Scalar (Kind Value)

/-- The methods that are not initializers. -/
def accessorsOf (ms : List RawMethod) : List RawMethod := ms.filter fun m => m.name ≠ initName

section Accessors

variable {m : RawMethod} {ms : List RawMethod}

theorem accessorsOf_cons_of_eq (h : m.name = initName) : accessorsOf (m :: ms) = accessorsOf ms := by
  simp [accessorsOf, h]

theorem accessorsOf_cons_of_ne (h : m.name ≠ initName) :
    accessorsOf (m :: ms) = m :: accessorsOf ms := by
  simp [accessorsOf, h]

end Accessors

theorem RawMethod.standsFor_of_decode {t : PoolTable} {raw : RawMethod} {v : Value}
    (h : raw.decode t = .ok v) : raw.StandsFor t ⟨raw.name, v⟩ :=
  ⟨rfl, (RawMethod.of_decode_eq_ok h).1, h⟩

/-- A method table and its slots: at least one initializer, each of which passes the check, and one slot for every
other method, in their order and under distinct names. -/
structure Decoded (t : PoolTable) (superIndex : Nat) (ms : List RawMethod) (slots : List Slot) :
    Prop where
  initialized : initName ∈ ms.map RawMethod.name
  initializers : ∀ m ∈ ms, m.name = initName → m.checkInitializer t superIndex = .ok ()
  accessors : List.Forall₂ (RawMethod.StandsFor t) (accessorsOf ms) slots
  nodup : (slots.map Slot.name).Nodup

section Decode

variable {t : PoolTable} {superIndex : Nat} {raws ms : List RawMethod} {new slots acc : List Slot}
  {seen : Distinct String} {found : Bool}

/-- What decoding comes to from names that have been met and slots that have been decoded. -/
theorem exists_decoded (h : decodeMethods t superIndex ms seen acc found = .ok slots) :
    ∃ new, slots = acc.reverse ++ new ∧ (found = true ∨ initName ∈ ms.map RawMethod.name) ∧
      (∀ m ∈ ms, m.name = initName → m.checkInitializer t superIndex = .ok ()) ∧
      List.Forall₂ (RawMethod.StandsFor t) (accessorsOf ms) new ∧
      (new.map Slot.name).Nodup ∧ ∀ n ∈ new.map Slot.name, n ∉ seen.toList := by
  induction ms generalizing seen acc found with
  | nil =>
    cases found with
    | false => simp [decodeMethods] at h
    | true =>
      obtain rfl : acc.reverse = slots := by simpa [decodeMethods] using h
      exact ⟨[], by simp, Or.inl rfl, by simp, .nil, by simp, by simp⟩
  | cons m ms ih =>
    by_cases hname : m.name = initName
    · rw [decodeMethods, if_pos hname] at h
      cases hcheck : m.checkInitializer t superIndex with
      | error e =>
        rw [hcheck] at h
        cases h
      | ok u =>
        rw [hcheck] at h
        obtain ⟨new, hslots, -, hinit, hstand, hnodup, hnew⟩ := ih h
        refine ⟨new, hslots, Or.inr (by simp [hname]), ?_, ?_, hnodup, hnew⟩
        · exact List.forall_mem_cons.2 ⟨fun _ => hcheck, hinit⟩
        · rwa [accessorsOf_cons_of_eq hname]
    · rw [decodeMethods, if_neg hname] at h
      by_cases hseen : (seen.place? m.name).isSome
      · rw [if_pos hseen] at h
        cases h
      · rw [if_neg hseen] at h
        cases hdecode : m.decode t with
        | error e =>
          rw [hdecode] at h
          cases h
        | ok v =>
          rw [hdecode] at h
          obtain ⟨new, hslots, hfound, hinit, hstand, hnodup, hnew⟩ := ih h
          simp only [Distinct.mem_toList_insert, not_or] at hnew
          rw [Distinct.isSome_place?_iff] at hseen
          refine ⟨⟨m.name, v⟩ :: new, by simp [hslots], ?_, ?_, ?_, ?_, ?_⟩
          · exact hfound.imp_right (List.mem_cons_of_mem _)
          · exact List.forall_mem_cons.2 ⟨fun h => absurd h hname, hinit⟩
          · rw [accessorsOf_cons_of_ne hname]
            exact .cons (RawMethod.standsFor_of_decode hdecode) hstand
          · exact List.nodup_cons.2 ⟨fun hmem => (hnew _ hmem).2 rfl, hnodup⟩
          · exact List.forall_mem_cons.2 ⟨hseen, fun n hn => (hnew n hn).1⟩

theorem decodeMethods_of_decoded (hfound : found = true ∨ initName ∈ ms.map RawMethod.name)
    (hinit : ∀ m ∈ ms, m.name = initName → m.checkInitializer t superIndex = .ok ())
    (hstand : List.Forall₂ (RawMethod.StandsFor t) (accessorsOf ms) new)
    (hnodup : (new.map Slot.name).Nodup) (hnew : ∀ n ∈ new.map Slot.name, n ∉ seen.toList) :
    decodeMethods t superIndex ms seen acc found = .ok (acc.reverse ++ new) := by
  induction ms generalizing seen acc found new with
  | nil =>
    obtain rfl : found = true := hfound.resolve_right (by simp)
    cases hstand
    simp [decodeMethods]
  | cons m ms ih =>
    have hinit' := fun x hx => hinit x (List.mem_cons_of_mem m hx)
    by_cases hname : m.name = initName
    · rw [accessorsOf_cons_of_eq hname] at hstand
      rw [decodeMethods, if_pos hname, hinit m List.mem_cons_self hname]
      exact ih (Or.inl rfl) hinit' hstand hnodup hnew
    · rw [accessorsOf_cons_of_ne hname] at hstand
      obtain _ | @⟨_, s, _, new, hm, hstand⟩ := hstand
      rw [List.map_cons] at hnodup hnew
      obtain ⟨hs, hnodup⟩ := List.nodup_cons.1 hnodup
      have hfound : found = true ∨ initName ∈ ms.map RawMethod.name := by
        rcases hfound with hfound | hfound
        · exact Or.inl hfound
        · exact Or.inr ((List.mem_cons.1 hfound).resolve_left (Ne.symm hname))
      rw [decodeMethods_cons hm (hm.name ▸ hname) (hnew _ List.mem_cons_self),
        ih hfound hinit' hstand hnodup]
      · simp
      · intro n hn hmem
        rcases (Distinct.mem_toList_insert _ _ _).1 hmem with hmem | rfl
        · exact hnew n (List.mem_cons_of_mem _ hn) hmem
        · exact hs hn

/-- **When a method table is decoded, and to which slots.** -/
theorem decodeMethods_eq_ok_iff :
    decodeMethods t superIndex ms .empty [] false = .ok slots ↔ Decoded t superIndex ms slots := by
  constructor
  · intro h
    obtain ⟨new, rfl, hfound, hinit, hstand, hnodup, -⟩ := exists_decoded h
    exact ⟨hfound.resolve_left (by simp), hinit, hstand, hnodup⟩
  · intro h
    have hnew : ∀ n ∈ slots.map Slot.name, n ∉ (Distinct.empty : Distinct String).toList := by
      simp
    exact decodeMethods_of_decoded (Or.inr h.initialized) h.initializers h.accessors h.nodup hnew

/-- **The order of the methods is the order of the slots**, and has no other effect. -/
theorem Decoded.exists_of_perm (h : Decoded t superIndex ms slots) (hp : raws.Perm ms) :
    ∃ slots', Decoded t superIndex raws slots' ∧ slots'.Perm slots := by
  have haccessors : (accessorsOf raws).Perm (accessorsOf ms) := hp.filter _
  obtain ⟨slots', hstand, hslots⟩ :=
    List.perm_comp_forall₂ haccessors h.accessors
  refine ⟨slots', ⟨?_, fun m hm => h.initializers m (hp.mem_iff.1 hm), hstand, ?_⟩, hslots⟩
  · exact (hp.map RawMethod.name).mem_iff.2 h.initialized
  · exact ((hslots.map Slot.name).nodup_iff).2 h.nodup

theorem Decoded.names_accessorsOf (h : Decoded t superIndex ms slots) :
    (accessorsOf ms).map RawMethod.name = slots.map Slot.name := by
  have hstand := h.accessors
  clear h
  generalize accessorsOf ms = raws at hstand
  induction hstand with
  | nil => rfl
  | cons hm _ ih => rw [List.map_cons, List.map_cons, hm.name, ih]

theorem Decoded.init_notMem (h : Decoded t superIndex ms slots) :
    initName ∉ slots.map Slot.name := by
  rw [← h.names_accessorsOf]
  simp [accessorsOf]

/-- One of the methods is the initializer, so there are fewer slots than methods. -/
theorem Decoded.length_lt (h : Decoded t superIndex ms slots) : slots.length < ms.length := by
  obtain ⟨m, hm, hname⟩ := List.mem_map.1 h.initialized
  rw [← h.accessors.length_eq]
  exact List.length_filter_lt_length_iff_exists.2 ⟨m, hm, by simp [hname]⟩

theorem Decoded.exists_standsFor (h : Decoded t superIndex ms slots) {s : Slot} (hs : s ∈ slots) :
    ∃ m ∈ ms, m.StandsFor t s := by
  obtain ⟨hlen, hget⟩ := List.forall₂_iff_get.1 h.accessors
  obtain ⟨i, hi, rfl⟩ := List.getElem_of_mem hs
  exact ⟨_, List.mem_of_mem_filter (List.get_mem _ _), hget i (hlen ▸ hi) hi⟩

end Decode

/-! ### The methods of an accepted module -/

theorem Skeleton.decode_eq_ok_iff {sk : Skeleton} {p : Contents} :
    sk.decode = .ok p ↔ sk.typeName = p.typeName ∧ sk.interface = p.interface ∧
      Decoded sk.table sk.superIndex sk.methods p.slots := by
  rw [← decodeMethods_eq_ok_iff, decode]
  cases decodeMethods sk.table sk.superIndex sk.methods .empty [] false with
  | error e => simp [Except.map]
  | ok slots =>
    cases p
    simp [Except.map]

namespace Contents

variable {bytes : List UInt8} {p : Contents}

/-- **When bytes are parsed**: their structure is read and their methods are decoded to the slots. -/
theorem parse_eq_ok_iff :
    parse bytes = .ok p ↔ ∃ sk c, Skeleton.read (.start bytes) = .ok sk c ∧
      sk.typeName = p.typeName ∧ sk.interface = p.interface ∧
      Decoded sk.table sk.superIndex sk.methods p.slots := by
  simp only [← Skeleton.decode_eq_ok_iff]
  rw [parse_eq_decode]
  cases Skeleton.read (.start bytes) <;> simp

theorem parseAgainst_eq_ok_iff {t : PoolTable} {c : Cursor} :
    parseAgainst t c = .ok p ↔ ∃ sk d, Skeleton.readAfter t c = .ok sk d ∧ d.rest = [] ∧
      sk.typeName = p.typeName ∧ sk.interface = p.interface ∧
      Decoded sk.table sk.superIndex sk.methods p.slots := by
  simp only [← Skeleton.decode_eq_ok_iff]
  rw [parseAgainst]
  cases Skeleton.readAfter t c with
  | error e d => simp
  | ok sk d => by_cases hrest : d.rest = [] <;> simp [hrest]

theorem nodup_iff_count_of_filter {α : Type} [DecidableEq α] {xs : List α} {a : α} (ha : a ∈ xs)
    (h : (xs.filter fun x => x ≠ a).Nodup) : xs.Nodup ↔ xs.count a = 1 := by
  constructor
  · intro hxs
    exact List.count_eq_one_of_mem hxs ha
  · intro hcount
    rw [List.nodup_iff_count_le_one]
    intro x
    by_cases hx : x = a
    · rw [hx, hcount]
    · have hle := List.nodup_iff_count_le_one.1 h x
      rwa [List.count_filter (by simpa using hx)] at hle

/-- The names of the methods in the table of a module, in their order. -/
def methodNames (bytes : List UInt8) : List String :=
  match Skeleton.read (.start bytes) with
  | .ok sk _ => sk.methods.map RawMethod.name
  | .error _ _ => []

/-- **No accessor is defined twice.** The table of an accepted module has an initializer, and its other methods
are the accessors, whose names are distinct. So no method is defined twice exactly if there is only one
initializer. -/
theorem nodup_methodNames_iff (h : parse bytes = .ok p) :
    initName ∈ methodNames bytes ∧
      (methodNames bytes).filter (fun n => n ≠ initName) = p.slots.map Slot.name ∧
      (p.slots.map Slot.name).Nodup ∧
      ((methodNames bytes).Nodup ↔ (methodNames bytes).count initName = 1) := by
  obtain ⟨sk, c, hread, -, -, hd⟩ := parse_eq_ok_iff.1 h
  have hmethods : methodNames bytes = sk.methods.map RawMethod.name := by
    rw [methodNames, hread]
  have hslots : (methodNames bytes).filter (fun n => n ≠ initName) = p.slots.map Slot.name := by
    rw [hmethods, List.filter_map, ← hd.names_accessorsOf]
    rfl
  have hinit : initName ∈ methodNames bytes := hmethods ▸ hd.initialized
  refine ⟨hinit, hslots, hd.nodup, nodup_iff_count_of_filter hinit ?_⟩
  rw [hslots]
  exact hd.nodup

theorem nodup_methodNames_iff_ratioModule :
    parse ratioModule = .ok ⟨"T", none, [⟨"r", .float64 0x3FF8000000000000⟩]⟩ ∧
    initName ∈ methodNames ratioModule ∧
      (methodNames ratioModule).filter (fun n => n ≠ initName) = ["r"] ∧ ["r"].Nodup ∧
      ((methodNames ratioModule).Nodup ↔ (methodNames ratioModule).count initName = 1) := by
  have h : parse ratioModule = .ok ⟨"T", none, [⟨"r", .float64 0x3FF8000000000000⟩]⟩ := by
    decide +kernel
  exact ⟨h, nodup_methodNames_iff h⟩

/-- A module without accessors in which the initializer stands twice. -/
def twiceInitialized : List UInt8 :=
  [0xCA, 0xFE, 0xBA, 0xBE, 0x00, 0x00, 0x00, 0x34, 0x00, 0x0A, 0x01, 0x00, 0x04, 0x43, 0x6F,
    0x64, 0x65, 0x01, 0x00, 0x01, 0x54, 0x07, 0x00, 0x02, 0x01, 0x00, 0x10, 0x6A, 0x61, 0x76,
    0x61, 0x2F, 0x6C, 0x61, 0x6E, 0x67, 0x2F, 0x4F, 0x62, 0x6A, 0x65, 0x63, 0x74, 0x07, 0x00,
    0x04, 0x01, 0x00, 0x06, 0x3C, 0x69, 0x6E, 0x69, 0x74, 0x3E, 0x01, 0x00, 0x03, 0x28, 0x29,
    0x56, 0x0C, 0x00, 0x06, 0x00, 0x07, 0x0A, 0x00, 0x05, 0x00, 0x08, 0x00, 0x11, 0x00, 0x03,
    0x00, 0x05, 0x00, 0x00, 0x00, 0x00, 0x00, 0x02, 0x00, 0x01, 0x00, 0x06, 0x00, 0x07, 0x00,
    0x01, 0x00, 0x01, 0x00, 0x00, 0x00, 0x11, 0x00, 0x02, 0x00, 0x01, 0x00, 0x00, 0x00, 0x05,
    0x2A, 0xB7, 0x00, 0x09, 0xB1, 0x00, 0x00, 0x00, 0x00, 0x00, 0x01, 0x00, 0x06, 0x00, 0x07,
    0x00, 0x01, 0x00, 0x01, 0x00, 0x00, 0x00, 0x11, 0x00, 0x02, 0x00, 0x01, 0x00, 0x00, 0x00,
    0x05, 0x2A, 0xB7, 0x00, 0x09, 0xB1, 0x00, 0x00, 0x00, 0x00, 0x00, 0x00]

/-- **An initializer may be defined twice.** -/
theorem not_nodup_methodNames :
    parse twiceInitialized = .ok ⟨"T", none, []⟩ ∧
    methodNames twiceInitialized = [initName, initName] ∧ ¬ (methodNames twiceInitialized).Nodup := by
  decide +kernel

end Contents

end TypedConfig.Module
