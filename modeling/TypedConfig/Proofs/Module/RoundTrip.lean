import Mathlib.Data.List.Forall2
import TypedConfig.Proofs.Module.Methods

/-!
The round trip. The bytes of a module are read back as its layout's table, the initializer and one
method for each slot (`exists_assemble`); what is left to fail are the names, of which none may come
twice and none may be the initializer's (`parse_assemble`).
-/

namespace TypedConfig.Module

open Scalar (Kind Value)

/-! ### Methods that stand for slots -/

/-- A method as read that is decoded to a slot. -/
structure RawMethod.StandsFor (t : PoolTable) (raw : RawMethod) (s : Slot) : Prop where
  name : raw.name = s.name
  type : raw.type = descriptor s.value.kind
  decode : raw.decode t = .ok s.value

theorem descriptor_ne_initDescriptor (k : Kind) : descriptor k ≠ initDescriptor := by
  cases k <;> decide

section Decode

variable {t : PoolTable} {superIndex : Nat} {raw : RawMethod} {raws : List RawMethod} {s : Slot}
  {slots acc r : List Slot} {seen : Distinct String} {found : Bool}

theorem decodeMethods_cons (h : raw.StandsFor t s) (hi : s.name ≠ initName)
    (hs : s.name ∉ seen.toList) :
    decodeMethods t superIndex (raw :: raws) seen acc found =
      decodeMethods t superIndex raws (seen.insert s.name) (s :: acc) found := by
  have hseen : ¬ (seen.place? raw.name).isSome := by
    rwa [h.name, Distinct.isSome_place?_iff]
  have hname : ¬ raw.name = initName := by rwa [h.name]
  rw [decodeMethods, if_neg hname, if_neg hseen, h.decode, h.name]

/-- A slot under the name of the initializer has a method that fails the initializer's check. -/
theorem decodeMethods_cons_init (h : raw.StandsFor t s) (hi : s.name = initName) :
    decodeMethods t superIndex (raw :: raws) seen acc found = .error (.badInitializer raw.code) := by
  have htype : raw.type ≠ initDescriptor := h.type ▸ descriptor_ne_initDescriptor _
  rw [decodeMethods, if_pos (h.name.trans hi), RawMethod.checkInitializer, if_pos htype]

theorem decodeMethods_cons_seen (h : raw.StandsFor t s) (hi : s.name ≠ initName)
    (hs : s.name ∈ seen.toList) :
    decodeMethods t superIndex (raw :: raws) seen acc found =
      .error (.malformed (.methodTwice raw.name)) := by
  have hseen : (seen.place? raw.name).isSome := by
    rwa [h.name, Distinct.isSome_place?_iff]
  have hname : ¬ raw.name = initName := by rwa [h.name]
  rw [decodeMethods, if_neg hname, if_pos hseen]

/-- Names that are distinct, new and not the initializer's are decoded one after the other. -/
theorem decodeMethods_eq_ok (h : List.Forall₂ (RawMethod.StandsFor t) raws slots)
    (hnodup : (slots.map Slot.name).Nodup) (hinit : initName ∉ slots.map Slot.name)
    (hseen : ∀ n ∈ slots.map Slot.name, n ∉ seen.toList) :
    decodeMethods t superIndex raws seen acc true = .ok (acc.reverse ++ slots) := by
  induction h generalizing seen acc with
  | nil => simp [decodeMethods]
  | @cons raw s raws slots hm _ ih =>
    rw [List.map_cons] at hnodup hinit hseen
    obtain ⟨hs, hnodup⟩ := List.nodup_cons.1 hnodup
    rw [List.mem_cons, not_or] at hinit
    rw [decodeMethods_cons hm (Ne.symm hinit.1) (hseen _ List.mem_cons_self), ih hnodup hinit.2]
    · simp
    · intro n hn hmem
      rcases (Distinct.mem_toList_insert _ _ _).1 hmem with hmem | rfl
      · exact hseen n (List.mem_cons_of_mem _ hn) hmem
      · exact hs hn

theorem of_decodeMethods_eq_ok (h : List.Forall₂ (RawMethod.StandsFor t) raws slots)
    (hr : decodeMethods t superIndex raws seen acc found = .ok r) :
    (slots.map Slot.name).Nodup ∧ initName ∉ slots.map Slot.name ∧
      ∀ n ∈ slots.map Slot.name, n ∉ seen.toList := by
  induction h generalizing seen acc with
  | nil => simp
  | @cons raw s raws slots hm _ ih =>
    have hi : s.name ≠ initName := by
      intro hi
      rw [decodeMethods_cons_init hm hi] at hr
      cases hr
    have hs : s.name ∉ seen.toList := by
      intro hs
      rw [decodeMethods_cons_seen hm hi hs] at hr
      cases hr
    rw [decodeMethods_cons hm hi hs] at hr
    obtain ⟨hnodup, hinit, hseen⟩ := ih hr
    simp only [Distinct.mem_toList_insert, not_or] at hseen
    simp only [List.map_cons, List.nodup_cons, List.mem_cons, not_or]
    refine ⟨⟨fun hmem => (hseen _ hmem).2 rfl, hnodup⟩, ⟨Ne.symm hi, hinit⟩, ?_⟩
    rintro n (rfl | hn)
    · exact hs
    · exact (hseen n hn).1

/-- Among distinct names the initializer's is the only one that fails. -/
theorem decodeMethods_eq_badInitializer (h : List.Forall₂ (RawMethod.StandsFor t) raws slots)
    (hnodup : (slots.map Slot.name).Nodup) (hinit : initName ∈ slots.map Slot.name)
    (hseen : ∀ n ∈ slots.map Slot.name, n ∉ seen.toList) :
    ∃ code, decodeMethods t superIndex raws seen acc found = .error (.badInitializer code) := by
  induction h generalizing seen acc with
  | nil => simp at hinit
  | @cons raw s raws slots hm _ ih =>
    by_cases hi : s.name = initName
    · exact ⟨_, decodeMethods_cons_init hm hi⟩
    · rw [List.map_cons] at hnodup hinit hseen
      obtain ⟨hs, hnodup⟩ := List.nodup_cons.1 hnodup
      have hinit : initName ∈ slots.map Slot.name :=
        (List.mem_cons.1 hinit).resolve_left (Ne.symm hi)
      rw [decodeMethods_cons hm hi (hseen _ List.mem_cons_self)]
      refine ih hnodup hinit fun n hn hmem => ?_
      rcases (Distinct.mem_toList_insert _ _ _).1 hmem with hmem | rfl
      · exact hseen n (List.mem_cons_of_mem _ hn) hmem
      · exact hs hn

end Decode

/-! ### Reading what has been assembled -/

theorem reads_readMethods {t : PoolTable} {bytes : List (List UInt8)} {raws : List RawMethod}
    (h : List.Forall₂ (Reads (RawMethod.read t)) bytes raws) (acc : List RawMethod) :
    Reads (readMethods t raws.length acc) bytes.flatten (acc.reverse ++ raws) := by
  induction h generalizing acc with
  | nil => simpa [readMethods] using Reads.pure acc.reverse
  | @cons b raw bytes raws hm _ ih =>
    intro rest position
    have hfirst := hm (bytes.flatten ++ rest) position
    have hrest := ih (raw :: acc) rest (position + b.length)
    simp only [readMethods, List.length_cons, List.flatten_cons, List.append_assoc, hfirst, hrest]
    simp [Nat.add_assoc]

namespace Contents

variable {m : Contents} {l : Layout} {bytes : List UInt8}

theorem holds_of_layout (hl : m.layout = .ok l) {c : Constant} (hc : c ∈ m.constants) :
    l.pool.Holds c := by
  rw [Pool.freeze_eq_ok hl]
  exact Pool.holds_of_mem hc

theorem complete_of_layout (hl : m.layout = .ok l) : l.Complete superName where
  closed := by
    rw [Pool.freeze_eq_ok hl]
    exact Pool.closed_ofList _
  init := holds_of_layout hl (by simp [constants])
  initType := holds_of_layout hl (by simp [constants])
  super := holds_of_layout hl (by simp [constants])

theorem exists_interfaceField (hl : m.layout = .ok l) :
    ∃ field, m.interfaceField l = .ok field ∧
      Reads (readInterface (l.table superName)) field m.interface := by
  unfold interfaceField
  cases hi : m.interface with
  | none => exact ⟨_, rfl, (Reads.u16 (n := 0) (by decide)).bind_last (.pure none)⟩
  | some name =>
    have hc : l.pool.Holds (.classRef name) := holds_of_layout hl (by simp [constants, hi])
    have hlook := Layout.className_table superName (complete_of_layout hl).closed hc
    refine ⟨be16 1 ++ be16 (l.index (.classRef name)), ?_, ?_⟩
    · show (l.require (.classRef name) name).map (fun i => be16 1 ++ be16 i) = _
      rw [Layout.require_eq hc]
      rfl
    · refine (Reads.u16 (n := 1) (by decide)).bind ?_
      exact (Reads.u16 ((Layout.index_lt hc).trans Layout.count_lt)).bind_last
        ((Reads.look hlook).map rfl)

/-- The methods of the slots, as written and as read. -/
theorem exists_methods (hl : m.layout = .ok l) {slots : List Slot} (hs : slots ⊆ m.slots) :
    ∃ written raws, slots.mapM l.method = .ok written ∧
      List.Forall₂ (Reads (RawMethod.read (l.table superName))) written raws ∧
      List.Forall₂ (RawMethod.StandsFor (l.table superName)) raws slots := by
  induction slots with
  | nil => exact ⟨[], [], rfl, .nil, .nil⟩
  | cons s slots ih =>
    obtain ⟨hmem, hs⟩ := List.cons_subset.1 hs
    obtain ⟨written, raws, hw, hread, hstand⟩ := ih hs
    have hconst : ∀ c ∈ s.constants, l.pool.Holds c := fun c hc =>
      holds_of_layout hl (by
        rw [constants, List.mem_append, List.mem_flatMap]
        exact Or.inr ⟨s, hmem, hc⟩)
    have hcode : l.pool.Holds (.text codeName) := holds_of_layout hl (by simp [constants])
    obtain ⟨b, code, hb, hread', hdecode⟩ :=
      Layout.exists_method superName (complete_of_layout hl).closed hcode hconst
    refine ⟨b :: written, ⟨s.name, descriptor s.value.kind, code⟩ :: raws, ?_, .cons hread' hread,
      .cons ⟨rfl, rfl, hdecode⟩ hstand⟩
    rw [List.mapM_cons, hb, hw]
    rfl

/-- The initializer as read. -/
def initializer (l : Layout) : RawMethod :=
  ⟨initName, initDescriptor, [opSelf, opInvoke] ++ be16 l.methodRefIndex ++ [opReturn]⟩

/-- The count that the bytes of a module give for their pool. -/
def storedCount (bytes : List UInt8) : Nat := ofBytes ((bytes.drop 8).take 2)

theorem storedCount_eq (n : Nat) (rest : List UInt8) :
    storedCount (be32 magic ++ (be16 minorVersion ++ (be16 majorVersion ++ (be16 n ++ rest)))) =
      n % 65536 :=
  ofBytes_be16 n

/-- Filling in the reference of the initializer changes its code only. -/
theorem patch16_initializer (before head tail methods last : List UInt8) (n : Nat) :
    patch16 (before ++ head ++ initializerCode ++ tail ++ methods ++ last)
      (before.length + head.length + initPatchOffset) n =
      before ++ (head ++ ([opSelf, opInvoke] ++ be16 n ++ [opReturn]) ++ tail ++ methods ++ last) := by
  have h := @patch16_append (before ++ head ++ [opSelf, opInvoke])
    ([opReturn] ++ tail ++ methods ++ last) (be16 unpatchedIndex) rfl n
  simp only [List.length_append, List.length_cons, List.length_nil] at h
  simpa [initializerCode, initPatchOffset] using h

theorem reads_readParts {t : PoolTable} {pool field methods : List UInt8} {typeName : String}
    {interface : Option String} {raws : List RawMethod} {thisIndex superIndex : Nat}
    (hthis : thisIndex < 65536) (hsuper : superIndex < 65536) (hn : raws.length < 65536)
    (hpool : Reads PoolTable.read pool t) (hthisName : t.className thisIndex = .ok typeName)
    (hsuperName : t.className superIndex = .ok superName)
    (hfield : Reads (readInterface t) field interface)
    (hmethods : Reads (readMethods t raws.length []) methods raws) :
    Reads Skeleton.readParts
      (be32 magic ++ (be16 minorVersion ++ (be16 majorVersion ++ (pool ++ (be16 moduleAccess ++
        (be16 thisIndex ++ (be16 superIndex ++ (field ++ (be16 0 ++ (be16 raws.length ++
        (methods ++ be16 0)))))))))))
      ⟨t, typeName, superIndex, interface, raws⟩ := by
  refine (Reads.u32 (n := magic) (by decide)).bind (.bind_nil (.ensure (by simp) _) ?_)
  refine (Reads.u16 (n := minorVersion) (by decide)).bind ?_
  refine (Reads.u16 (n := majorVersion) (by decide)).bind (.bind_nil (.ensure (by simp) _) ?_)
  refine hpool.bind ?_
  refine (Reads.u16 (n := moduleAccess) (by decide)).bind ?_
  refine (Reads.u16 hthis).bind (.bind_nil (.look hthisName) ?_)
  refine (Reads.u16 hsuper).bind (.bind_nil (.look hsuperName) (.bind_nil (.ensure (by simp) _) ?_))
  refine hfield.bind ?_
  refine (Reads.u16 (n := 0) (by decide)).bind (.bind_nil (.ensure (by simp) _) ?_)
  refine (Reads.u16 hn).bind (hmethods.bind ?_)
  refine (Reads.u16 (n := 0) (by decide)).bind_last (.bind_nil (.ensure (by simp) _) ?_)
  exact .pure _

theorem read_eq_of_reads {sk : Skeleton} {bytes : List UInt8}
    (h : Reads Skeleton.readParts bytes sk) :
    Skeleton.read (.start bytes) = .ok sk ⟨[], bytes.length⟩ := by
  rw [Skeleton.read, h.start]
  rfl

/-- **What is assembled is read back**: the table of the layout, the initializer, and one method for
each slot. -/
theorem exists_assemble (hl : m.layout = .ok l) (hn : m.slots.length + 1 ≤ maxShort) :
    ∃ bytes raws n, m.assemble = .ok bytes ∧ storedCount bytes = l.count ∧
      List.Forall₂ (RawMethod.StandsFor (l.table superName)) raws m.slots ∧
      Skeleton.read (.start bytes) = .ok ⟨l.table superName, m.typeName,
        l.index (.classRef superName), m.interface, initializer l :: raws⟩ n := by
  have hcomplete := complete_of_layout hl
  have hthis : l.pool.Holds (.classRef m.typeName) := holds_of_layout hl (by simp [constants])
  have hcode : l.pool.Holds (.text codeName) := holds_of_layout hl (by simp [constants])
  have hi : ∀ {c}, l.pool.Holds c → l.index c < 65536 := fun hc =>
    (Layout.index_lt hc).trans Layout.count_lt
  obtain ⟨pool, hpool, hreadPool⟩ := Layout.reads_table hcomplete
  obtain ⟨field, hfield, hreadField⟩ := exists_interfaceField hl
  obtain ⟨head, hhead, hreadInit⟩ := Layout.exists_methodHead superName (n := initializerCode.length)
    hcomplete.init hcomplete.initType hcode (by decide)
  obtain ⟨written, raws, hwritten, hreadMethods, hstand⟩ := exists_methods hl (List.Subset.refl _)
  have hlen : (initializer l :: raws).length = m.slots.length + 1 := by
    rw [List.length_cons, hstand.length_eq]
  have hmethods : Reads (readMethods (l.table superName) (initializer l :: raws).length [])
      (head ++ ([opSelf, opInvoke] ++ be16 l.methodRefIndex ++ [opReturn]) ++ Layout.methodTail ++
        written.flatten) (initializer l :: raws) :=
    reads_readMethods (.cons (hreadInit (initializer l).code rfl) hreadMethods) []
  have hparts := reads_readParts (hi hthis) (hi hcomplete.super)
    (by rw [hlen]; exact Nat.lt_succ_of_le hn) hreadPool
    (Layout.className_table superName hcomplete.closed hthis)
    (Layout.className_table superName hcomplete.closed hcomplete.super) hreadField hmethods
  refine ⟨_, raws, _, ?_, ?_, hstand, read_eq_of_reads hparts⟩
  · unfold assemble
    rw [hl]
    simp only [bind, Except.bind, hpool, Layout.require_eq hthis,
      Layout.require_eq hcomplete.super, hfield, if_neg (Nat.not_lt.2 hn), hhead, hwritten, pure,
      Except.pure]
    rw [patch16_initializer]
    simp only [List.append_assoc, hlen]
  · rw [Layout.bytes_eq hcomplete, Except.ok.injEq] at hpool
    rw [← hpool, List.append_assoc (be16 l.count), storedCount_eq, Nat.mod_eq_of_lt Layout.count_lt]

theorem assemble_of_layout_eq_error {e : BuildError} (hl : m.layout = .error e) :
    m.assemble = .error e := by
  rw [assemble, hl]
  rfl

theorem assemble_eq_tooManyMethods (hl : m.layout = .ok l) (hn : maxShort < m.slots.length + 1) :
    m.assemble = .error (.tooManyMethods m.slots.length) := by
  have hcomplete := complete_of_layout hl
  have hthis : l.pool.Holds (.classRef m.typeName) := holds_of_layout hl (by simp [constants])
  obtain ⟨pool, hpool, -⟩ := Layout.reads_table hcomplete
  obtain ⟨field, hfield, -⟩ := exists_interfaceField hl
  unfold assemble
  rw [hl]
  simp only [bind, Except.bind, hpool, Layout.require_eq hthis,
    Layout.require_eq hcomplete.super, hfield, if_pos hn]

/-- **When a module is assembled**: its constants have a layout and its methods can be counted. -/
theorem exists_assemble_iff :
    (∃ bytes, m.assemble = .ok bytes) ↔
      (∃ l, m.layout = .ok l) ∧ m.slots.length + 1 ≤ maxShort := by
  constructor
  · rintro ⟨bytes, h⟩
    cases hl : m.layout with
    | error e =>
      rw [assemble_of_layout_eq_error hl] at h
      cases h
    | ok l =>
      refine ⟨⟨l, rfl⟩, ?_⟩
      by_contra hn
      rw [assemble_eq_tooManyMethods hl (Nat.lt_of_not_le hn)] at h
      cases h
  · rintro ⟨⟨l, hl⟩, hn⟩
    obtain ⟨bytes, -, -, h, -⟩ := exists_assemble hl hn
    exact ⟨bytes, h⟩

/-- Parsing what was assembled is decoding the methods of the slots: the initializer comes first and
passes. -/
theorem parse_of_assemble_eq_ok (hl : m.layout = .ok l) (h : m.assemble = .ok bytes) :
    storedCount bytes = l.count ∧
    ∃ t superIndex raws, List.Forall₂ (RawMethod.StandsFor t) raws m.slots ∧
      parse bytes = (decodeMethods t superIndex raws .empty [] true).map
        fun slots => ⟨m.typeName, m.interface, slots⟩ := by
  obtain ⟨-, hn⟩ := exists_assemble_iff.1 ⟨bytes, h⟩
  obtain ⟨bytes', raws, n, h', hcount, hstand, hread⟩ := exists_assemble hl hn
  obtain rfl : bytes' = bytes := Except.ok.inj (h'.symm.trans h)
  refine ⟨hcount, _, l.index (.classRef superName), raws, hstand, ?_⟩
  have hinit := Layout.checkInitializer_table (complete_of_layout hl)
  have hname : (initializer l).name = initName := rfl
  rw [parse, hread]
  simp only [decodeMethods, hname, if_true]
  simp only [initializer, hinit]
  cases decodeMethods (l.table superName) (l.index (.classRef superName)) raws .empty [] true <;> rfl

/-- The modules that can be parsed are read back as they were. -/
theorem parse_eq_ok (h : m.assemble = .ok bytes) (hnodup : (m.slots.map Slot.name).Nodup)
    (hinit : initName ∉ m.slots.map Slot.name) : parse bytes = .ok m := by
  obtain ⟨⟨l, hl⟩, -⟩ := exists_assemble_iff.1 ⟨bytes, h⟩
  obtain ⟨-, t, superIndex, raws, hstand, hparse⟩ := parse_of_assemble_eq_ok hl h
  rw [hparse, decodeMethods_eq_ok hstand hnodup hinit (by simp)]
  rfl

theorem of_parse_eq_ok {p : Contents} (h : m.assemble = .ok bytes) (hp : parse bytes = .ok p) :
    (m.slots.map Slot.name).Nodup ∧ initName ∉ m.slots.map Slot.name := by
  obtain ⟨⟨l, hl⟩, -⟩ := exists_assemble_iff.1 ⟨bytes, h⟩
  obtain ⟨-, t, superIndex, raws, hstand, hparse⟩ := parse_of_assemble_eq_ok hl h
  rw [hparse] at hp
  cases hr : decodeMethods t superIndex raws .empty [] true with
  | error e =>
    rw [hr] at hp
    cases hp
  | ok r =>
    obtain ⟨hnodup, hinit, -⟩ := of_decodeMethods_eq_ok hstand hr
    exact ⟨hnodup, hinit⟩

theorem parse_eq_badInitializer (h : m.assemble = .ok bytes)
    (hnodup : (m.slots.map Slot.name).Nodup) (hinit : initName ∈ m.slots.map Slot.name) :
    ∃ code, parse bytes = .error (.badInitializer code) := by
  obtain ⟨⟨l, hl⟩, -⟩ := exists_assemble_iff.1 ⟨bytes, h⟩
  obtain ⟨-, t, superIndex, raws, hstand, hparse⟩ := parse_of_assemble_eq_ok hl h
  have hbad : ∃ code, decodeMethods t superIndex raws .empty [] true =
      .error (.badInitializer code) :=
    decodeMethods_eq_badInitializer hstand hnodup hinit (by simp)
  obtain ⟨code, hcode⟩ := hbad
  exact ⟨code, by rw [hparse, hcode]; rfl⟩

/-- **Round trip.** What has been assembled is parsed if and only if no two accessors share a name and
none is named like the initializer, and what it is parsed as is the module itself. -/
theorem parse_assemble (h : m.assemble = .ok bytes) :
    ((∃ p, parse bytes = .ok p) ↔
      (m.slots.map Slot.name).Nodup ∧ initName ∉ m.slots.map Slot.name) ∧
    ∀ p, parse bytes = .ok p → p = m := by
  refine ⟨⟨?_, ?_⟩, ?_⟩
  · rintro ⟨p, hp⟩
    exact of_parse_eq_ok h hp
  · rintro ⟨hnodup, hinit⟩
    exact ⟨m, parse_eq_ok h hnodup hinit⟩
  · intro p hp
    obtain ⟨hnodup, hinit⟩ := of_parse_eq_ok h hp
    rw [parse_eq_ok h hnodup hinit] at hp
    exact (Except.ok.inj hp).symm

/-- A module with a quiet NaN that carries a payload, a negative zero, and an accessor that shares its
name with the label of every code block. -/
def nanModule : Contents :=
  ⟨"a/B$CG0", some "a/B",
    [⟨"x", .float32 0x7FC00001⟩, ⟨"Code", .float64 0x8000000000000000⟩, ⟨"y", .bool true⟩]⟩

theorem parse_assemble_nanModule :
    ∃ bytes, nanModule.assemble = .ok bytes ∧
      ((∃ p, parse bytes = .ok p) ↔
        (nanModule.slots.map Slot.name).Nodup ∧ initName ∉ nanModule.slots.map Slot.name) ∧
      ∀ p, parse bytes = .ok p → p = nanModule := by
  obtain ⟨bytes, h⟩ : ∃ bytes, nanModule.assemble = .ok bytes := ⟨_, rfl⟩
  exact ⟨bytes, h, parse_assemble h⟩

end Contents

end TypedConfig.Module
