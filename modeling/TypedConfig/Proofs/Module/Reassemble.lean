import Mathlib.Algebra.Order.BigOperators.Group.List
import Mathlib.Data.List.Nodup
import Mathlib.Data.List.Perm.Subperm
import TypedConfig.Proofs.Module.Decoding

/-!
Accepted bytes are assembled again. The pool of what they were parsed as holds every constant once,
and the table that was read holds an entry for each, so the new pool is no larger (`places_lt`) and no
text in it is longer; what is assembled is then parsed as the same contents (`exists_reassembled`).
-/

namespace TypedConfig.Module

/-! ### The roles of a pool -/

namespace Pool

variable {p : Pool} {c : Constant}

/-- The roles that the entries of a pool play, with those of the two entries at the end. -/
def roles (p : Pool) : List Role := p.members.map .constant ++ [.nameAndType, .methodRef]

theorem nodup_roles (p : Pool) : p.roles.Nodup := by
  refine List.nodup_append'.2 ⟨p.nodup_members.map fun _ _ h => Role.constant.inj h, by decide, ?_⟩
  simp [List.disjoint_left]

theorem sum_width (xs : List Constant) : (xs.map Constant.width).sum = totalWidth xs := by
  induction xs with
  | nil => rfl
  | cons x xs ih => rw [List.map_cons, List.sum_cons, ih, totalWidth_cons]

theorem sum_width_roles (p : Pool) : (p.roles.map Role.width).sum = p.places + 2 := by
  have hwidth : Role.width ∘ Role.constant = Constant.width := funext Role.width_constant
  rw [roles, List.map_append, List.sum_append, List.map_map, hwidth, sum_width, totalWidth_members]
  rfl

end Pool

/-- Distinct roles that are all played take no more places than those that are played. -/
theorem sum_width_le {rs qs : List Role} (h : rs.Nodup) (hs : rs ⊆ qs) :
    (rs.map Role.width).sum ≤ (qs.map Role.width).sum := by
  obtain ⟨zs, hperm, hsub⟩ := List.subperm_of_subset h hs
  calc (rs.map Role.width).sum = (zs.map Role.width).sum := (hperm.map _).sum_eq.symm
    _ ≤ (qs.map Role.width).sum := (hsub.map _).sum_le_sum (by simp)

/-! ### A pool no larger than the table -/

section Table

variable {es : List Entry} {cs : List Constant}

theorem Entry.eq_of_mem_places {e f : Entry} (h : f ∈ e.places) (hf : f ≠ .continuation) : f = e := by
  unfold places at h
  split at h
  · simpa [hf] using h
  · simpa using h

theorem length_encodeText_of_mem_roles (hes : ∀ e ∈ es, e.Writable) {s : String}
    (h : .constant (.text s) ∈ (PoolTable.ofEntries es).roles) :
    (encodeText s).length ≤ maxShort := by
  obtain ⟨e, he, hr⟩ := List.mem_filterMap.1 h
  obtain rfl : e = .text s := by
    cases e <;> simp_all [PoolTable.role?]
  rcases List.mem_cons.1 he with he | he
  · cases he
  · obtain ⟨f, hf, hef⟩ := List.mem_flatMap.1 he
    obtain rfl := Entry.eq_of_mem_places hef (by simp)
    exact (hes _ hf).2 s rfl

/-- **Nothing outgrows the table.** If every constant plays its role in a table that was read, the pool
of the constants has a layout, and its count is at most the size of the table. -/
theorem exists_freeze_of_roles (hes : ∀ e ∈ es, e.Writable)
    (hsize : (PoolTable.ofEntries es).entries.size < 65536)
    (hcs : ∀ c ∈ cs, .constant c ∈ (PoolTable.ofEntries es).roles)
    (hinit : (PoolTable.ofEntries es).HasInitializer) :
    ∃ l, (Pool.ofList cs).freeze = .ok l ∧ l.count ≤ (PoolTable.ofEntries es).entries.size := by
  have hholds : ∀ k, (Pool.ofList cs).Holds k → .constant k ∈ (PoolTable.ofEntries es).roles := by
    intro k hk
    obtain ⟨c, hc, hkc⟩ := Pool.holds_ofList.1 hk
    exact PoolTable.mem_roles_of_closure (hcs c hc) hkc
  have hsub : (Pool.ofList cs).roles ⊆ (PoolTable.ofEntries es).roles := by
    intro r hr
    rcases List.mem_append.1 hr with hr | hr
    · obtain ⟨k, hk, rfl⟩ := List.mem_map.1 hr
      exact hholds k (Pool.mem_members.1 hk)
    · simp only [List.mem_cons, List.not_mem_nil, or_false] at hr
      rcases hr with rfl | rfl
      · exact hinit.nameAndType
      · exact hinit.methodRef
  have hplaces : (Pool.ofList cs).places + 3 ≤ (PoolTable.ofEntries es).entries.size := by
    have h1 := sum_width_le (Pool.nodup_roles _) hsub
    have h2 := PoolTable.sum_width_roles_lt es
    rw [Pool.sum_width_roles] at h1
    omega
  have hfreeze : ∃ l, (Pool.ofList cs).freeze = .ok l := by
    refine Pool.exists_freeze_iff.2 ⟨?_, fun s hs => ?_⟩
    · simp only [maxShort]
      omega
    · exact length_encodeText_of_mem_roles hes (hholds (.text s) hs)
  obtain ⟨l, hl⟩ := hfreeze
  refine ⟨l, hl, ?_⟩
  rw [Layout.count, Pool.freeze_eq_ok hl]
  exact hplaces

end Table

/-! ### Assembling again -/

namespace Contents

variable {bytes : List UInt8} {p : Contents}

/-- What accepted bytes are parsed as: distinct accessors, few enough methods, and a table that was
read in which every constant of the contents plays its role. -/
theorem of_parse_eq_ok_table (h : parse bytes = .ok p) :
    ∃ es, (∀ e ∈ es, e.Writable) ∧ (PoolTable.ofEntries es).entries.size = storedCount bytes ∧
      storedCount bytes < 65536 ∧ (PoolTable.ofEntries es).HasInitializer ∧
      (∀ c ∈ p.constants, .constant c ∈ (PoolTable.ofEntries es).roles) ∧
      (p.slots.map Slot.name).Nodup ∧ initName ∉ p.slots.map Slot.name ∧
      p.slots.length + 1 ≤ maxShort := by
  obtain ⟨sk, d, hread, htype, hinterface, hdecoded⟩ := parse_eq_ok_iff.1 h
  have hfound := Skeleton.of_readParts_eq_ok (Skeleton.read_eq_ok_iff.1 hread).1
  obtain ⟨es, hes, hwritable⟩ := hfound.table
  obtain ⟨init, hmem, hname⟩ := List.mem_map.1 hdecoded.initialized
  have hinit := RawMethod.of_checkInitializer_eq_ok (hdecoded.initializers init hmem hname)
  have hlabel : .constant (.text codeName) ∈ sk.table.roles := (hfound.methods init hmem).label
  have hslot : ∀ s ∈ p.slots, ∀ c ∈ s.constants, .constant c ∈ sk.table.roles := by
    intro s hs c hc
    obtain ⟨raw, hraw, hstands⟩ := hdecoded.exists_standsFor hs
    obtain ⟨hdescriptor, hvalue⟩ := RawMethod.of_decode_eq_ok hstands.decode
    have hnamed := hfound.methods raw hraw
    simp only [Slot.constants, List.mem_append, List.mem_cons, List.not_mem_nil, or_false,
      Option.mem_toList] at hc
    rcases hc with (rfl | rfl) | hc
    · exact hstands.name ▸ hnamed.name
    · exact hdescriptor ▸ hnamed.type
    · exact hvalue c hc
  refine ⟨es, hwritable, hes ▸ hfound.size, hfound.size_lt, hes ▸ hinit, ?_,
    hdecoded.nodup, hdecoded.init_notMem, ?_⟩
  · intro c hc
    rw [← hes]
    simp only [constants, List.mem_append, List.mem_cons, List.not_mem_nil, or_false, List.mem_map,
      Option.mem_toList, List.mem_flatMap] at hc
    rcases hc with (((rfl | rfl | rfl) | ⟨name, hname, rfl⟩) | rfl | rfl) | ⟨s, hs, hc⟩
    · exact hlabel
    · exact htype ▸ hfound.type
    · exact hfound.super
    · exact hfound.interface name (hinterface.trans hname)
    · exact hinit.name
    · exact hinit.type
    · exact hslot s hs c hc
  · have hlt := hdecoded.length_lt
    have hmethods := hfound.methods_lt
    simp only [maxShort]
    omega

/-- **Re-emission.** Bytes that are parsed, wherever they come from, are assembled again from what they
were parsed as, with no larger pool, and are parsed as the same contents. -/
theorem exists_reassembled (h : parse bytes = .ok p) :
    ∃ again, p.assemble = .ok again ∧ storedCount again ≤ storedCount bytes ∧
      parse again = .ok p := by
  obtain ⟨es, hes, hsize, hlt, hinit, hconst, hnodup, hname, hlen⟩ := of_parse_eq_ok_table h
  obtain ⟨l, hl, hcount⟩ := exists_freeze_of_roles hes (hsize ▸ hlt) hconst hinit
  obtain ⟨again, -, -, hagain, hstored, -⟩ := exists_assemble hl hlen
  exact ⟨again, hagain, by rw [hstored, ← hsize]; exact hcount, parse_eq_ok hagain hnodup hname⟩

/-- A module that nothing assembles: its name is written in a longer form than needed, and once more,
unused, at the end of the pool. -/
def overlongModule : List UInt8 :=
  [0xCA, 0xFE, 0xBA, 0xBE, 0x00, 0x00, 0x00, 0x34, 0x00, 0x0B, 0x01, 0x00, 0x04, 0x43, 0x6F,
    0x64, 0x65, 0x01, 0x00, 0x02, 0xC1, 0x94, 0x07, 0x00, 0x02, 0x01, 0x00, 0x10, 0x6A, 0x61,
    0x76, 0x61, 0x2F, 0x6C, 0x61, 0x6E, 0x67, 0x2F, 0x4F, 0x62, 0x6A, 0x65, 0x63, 0x74, 0x07,
    0x00, 0x04, 0x01, 0x00, 0x06, 0x3C, 0x69, 0x6E, 0x69, 0x74, 0x3E, 0x01, 0x00, 0x03, 0x28,
    0x29, 0x56, 0x0C, 0x00, 0x06, 0x00, 0x07, 0x0A, 0x00, 0x05, 0x00, 0x08, 0x01, 0x00, 0x01,
    0x54, 0x00, 0x11, 0x00, 0x03, 0x00, 0x05, 0x00, 0x00, 0x00, 0x00, 0x00, 0x01, 0x00, 0x01,
    0x00, 0x06, 0x00, 0x07, 0x00, 0x01, 0x00, 0x01, 0x00, 0x00, 0x00, 0x11, 0x00, 0x02, 0x00,
    0x01, 0x00, 0x00, 0x00, 0x05, 0x2A, 0xB7, 0x00, 0x09, 0xB1, 0x00, 0x00, 0x00, 0x00, 0x00,
    0x00]

theorem exists_reassembled_overlongModule :
    parse overlongModule = .ok ⟨"T", none, []⟩ ∧
      ∃ again, assemble ⟨"T", none, []⟩ = .ok again ∧
        storedCount again ≤ storedCount overlongModule ∧ parse again = .ok ⟨"T", none, []⟩ := by
  have h : parse overlongModule = .ok ⟨"T", none, []⟩ := by decide +kernel
  exact ⟨h, exists_reassembled h⟩

end Contents

end TypedConfig.Module
