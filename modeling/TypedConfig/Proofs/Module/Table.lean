import TypedConfig.Module.Pool
import TypedConfig.Proofs.Module.Pool
import TypedConfig.Proofs.Module.Reading

/-!
The pool on both sides. The writer computes indices from the sizes of groups, the reader counts places
as it goes; both come to the same table. `reads_table` reads the bytes of a layout back as its table,
and `get_table` finds every constant of the layout at its index.
-/

namespace TypedConfig.Module

/-! ### Entries and their bytes -/

namespace Entry

/-- What an entry puts into the table: itself and, if it is wide, a continuation. -/
def places (e : Entry) : List Entry := if e.isWide then [e, .continuation] else [e]

/-- The bytes of an entry. -/
def bytes : Entry → List UInt8
  | .text s => be8 tagText ++ (be16 (encodeText s).length ++ encodeText s)
  | .classRef n => be8 tagClass ++ be16 n
  | .string n => be8 tagString ++ be16 n
  | .int n => be8 tagInt ++ be32 n.toUInt32.toNat
  | .long n => be8 tagLong ++ be64 n.toUInt64.toNat
  | .double bits => be8 tagDouble ++ be64 bits.toNat
  | .nameAndType a b => be8 tagNameAndType ++ (be16 a ++ be16 b)
  | .methodRef a b => be8 tagMethodRef ++ (be16 a ++ be16 b)
  | .continuation => []

/-- Whether the numbers in an entry fit in their fields. -/
def Fits : Entry → Prop
  | .text s => (encodeText s).length < 65536
  | .classRef n | .string n => n < 65536
  | .nameAndType a b | .methodRef a b => a < 65536 ∧ b < 65536
  | .int _ | .long _ | .double _ => True
  | .continuation => False

theorem reads_bytes {e : Entry} (h : e.Fits) (start : Nat) : Reads (readAt start) e.bytes e := by
  cases e with
  | text s =>
    refine (Reads.u8 (n := tagText) (by decide)).bind ?_
    refine (Reads.u16 h).bind ?_
    refine (Reads.take (encodeText s)).bind_last ?_
    rw [decodeText?_encodeText]
    exact Reads.pure _
  | classRef n =>
    refine (Reads.u8 (n := tagClass) (by decide)).bind ?_
    exact (Reads.u16 h).map rfl
  | string n =>
    refine (Reads.u8 (n := tagString) (by decide)).bind ?_
    exact (Reads.u16 h).map rfl
  | int n =>
    refine (Reads.u8 (n := tagInt) (by decide)).bind ?_
    exact (Reads.u32 n.toUInt32.toNat_lt).map (by simp)
  | long n =>
    refine (Reads.u8 (n := tagLong) (by decide)).bind ?_
    exact (Reads.u64 n.toUInt64.toNat_lt).map (by simp)
  | double bits =>
    refine (Reads.u8 (n := tagDouble) (by decide)).bind ?_
    exact (Reads.u64 bits.toNat_lt).map (by simp)
  | nameAndType a b =>
    refine (Reads.u8 (n := tagNameAndType) (by decide)).bind ?_
    exact (Reads.u16 h.1).bind ((Reads.u16 h.2).map rfl)
  | methodRef a b =>
    refine (Reads.u8 (n := tagMethodRef) (by decide)).bind ?_
    exact (Reads.u16 h.1).bind ((Reads.u16 h.2).map rfl)
  | continuation => exact h.elim

theorem reads_read {e : Entry} (h : e.Fits) : Reads read e.bytes e := by
  intro rest position
  exact reads_bytes h position rest position

end Entry

/-! ### Tables -/

namespace PoolTable

variable {e : Entry} {c d : Cursor}

theorem readEntries_of_narrow (he : e.isWide = false) (h : Entry.read c = .ok e d) (n : Nat)
    (acc : Array Entry) : readEntries (n + 1) acc c = readEntries n (acc.push e) d := by
  cases n with
  | zero => simp [readEntries, h, he]; rfl
  | succ n => simp [readEntries, h, he]

theorem readEntries_of_wide (he : e.isWide = true) (h : Entry.read c = .ok e d) (n : Nat)
    (acc : Array Entry) :
    readEntries (n + 2) acc c = readEntries n ((acc.push e).push .continuation) d := by
  simp [readEntries, h, he]

theorem reads_readEntries {es : List Entry} (h : ∀ e ∈ es, e.Fits) (acc : Array Entry) :
    Reads (readEntries (es.flatMap Entry.places).length acc) (es.flatMap Entry.bytes)
      (acc ++ (es.flatMap Entry.places).toArray) := by
  induction es generalizing acc with
  | nil => simpa [readEntries] using Reads.pure acc
  | cons e es ih =>
    intro rest position
    have he := Entry.reads_read (h e List.mem_cons_self) (es.flatMap Entry.bytes ++ rest) position
    have hes := fun acc => ih (fun e he => h e (List.mem_cons_of_mem _ he)) acc rest
      (position + e.bytes.length)
    rw [List.flatMap_cons, List.flatMap_cons, List.append_assoc, List.length_append, Entry.places]
    cases hw : e.isWide with
    | true =>
      have hlen : [e, .continuation].length + (es.flatMap Entry.places).length =
          (es.flatMap Entry.places).length + 2 := by simp; omega
      simp only [if_true, hlen]
      rw [readEntries_of_wide hw he, hes]
      simp [Nat.add_assoc]
    | false =>
      have hlen : [e].length + (es.flatMap Entry.places).length =
          (es.flatMap Entry.places).length + 1 := by simp; omega
      simp only [Bool.false_eq_true, if_false, hlen]
      rw [readEntries_of_narrow hw he, hes]
      simp [Nat.add_assoc]

/-- The table of entries: the unused first place and the places of each. -/
def ofEntries (es : List Entry) : PoolTable :=
  ⟨(Entry.continuation :: es.flatMap Entry.places).toArray⟩

theorem reads_ofEntries {es : List Entry} (h : ∀ e ∈ es, e.Fits)
    (hn : (ofEntries es).entries.size < 65536) :
    Reads read (be16 (ofEntries es).entries.size ++ es.flatMap Entry.bytes) (ofEntries es) := by
  refine (Reads.u16 hn).bind ?_
  have hsize : (ofEntries es).entries.size = (es.flatMap Entry.places).length + 1 := by
    simp [ofEntries]
  rw [hsize]
  refine (reads_readEntries h #[.continuation]).map ?_
  simp [ofEntries]

end PoolTable

/-! ### The table of a layout -/

namespace Layout

variable (l : Layout) (superType : String)

/-- The entry of a constant. -/
def entryOf : Constant → Entry
  | .text s => .text s
  | .classRef s => .classRef (l.index (.text s))
  | .string s => .string (l.index (.text s))
  | .int n => .int n
  | .double bits => .double bits
  | .long n => .long n

/-- The entries in the order of their indices. -/
def entries : List Entry :=
  l.pool.texts.toList.map (fun s => l.entryOf (.text s)) ++
    (l.pool.classes.toList.map (fun s => l.entryOf (.classRef s)) ++
    (l.pool.strings.toList.map (fun s => l.entryOf (.string s)) ++
    (l.pool.ints.toList.map (fun n => l.entryOf (.int n)) ++
    (l.pool.doubles.toList.map (fun b => l.entryOf (.double b)) ++
    (l.pool.longs.toList.map (fun n => l.entryOf (.long n)) ++
    [.nameAndType (l.index (.text initName)) (l.index (.text initDescriptor)),
      .methodRef (l.index (.classRef superType)) l.nameAndTypeIndex])))))

/-- The table that the layout is read back as. -/
def table : PoolTable := .ofEntries (l.entries superType)

/-- The two entries at the end. -/
def endEntries : List Entry :=
  [.nameAndType (l.index (.text initName)) (l.index (.text initDescriptor)),
    .methodRef (l.index (.classRef superType)) l.nameAndTypeIndex]

theorem entries_eq : l.entries superType = l.pool.members.map l.entryOf ++ l.endEntries superType := by
  simp [entries, Pool.members, endEntries, Function.comp_def]

theorem length_places_entryOf (c : Constant) : (l.entryOf c).places.length = c.width := by
  cases c <;> rfl

/-- The places of the table: the unused first one, those of the constants, and one for each of the
two entries at the end. -/
theorem entries_table :
    (l.table superType).entries.toList =
      .continuation :: (l.pool.members.flatMap (fun c => (l.entryOf c).places) ++
        l.endEntries superType) := by
  simp only [table, PoolTable.ofEntries, entries_eq, List.flatMap_append, List.flatMap_map]
  rfl

theorem size_table : (l.table superType).entries.size = l.count := by
  rw [← Array.length_toList, entries_table, List.length_cons, List.length_append,
    length_flatMap_eq l.length_places_entryOf, Pool.totalWidth_members]
  rfl

variable {l}

/-- The places of a constant begin at its index. -/
theorem getElem?_table_add {c : Constant} (h : l.pool.Holds c) {k : Nat} (hk : k < c.width) :
    (l.table superType).entries[l.index c + k]? = (l.entryOf c).places[k]? := by
  have hstart := getElem?_flatMap_startOf l.length_places_entryOf (Pool.mem_members.2 h) hk
  have hle := startOf_add_width_le (Pool.mem_members.2 h)
  rw [← Array.getElem?_toList, entries_table, index_eq_startOf h, Nat.add_right_comm,
    List.getElem?_cons_succ, List.getElem?_append_left, hstart]
  rw [length_flatMap_eq l.length_places_entryOf]
  omega

/-- **Every constant stands at its index.** -/
theorem getElem?_table {c : Constant} (h : l.pool.Holds c) :
    (l.table superType).entries[l.index c]? = some (l.entryOf c) := by
  have := getElem?_table_add superType h c.width_pos
  rw [← Nat.add_zero (l.index c), this]
  cases c <;> rfl

theorem getElem?_table_end (j : Nat) :
    (l.table superType).entries[l.nameAndTypeIndex + j]? = (l.endEntries superType)[j]? := by
  rw [← Array.getElem?_toList, entries_table, nameAndTypeIndex, Nat.add_right_comm,
    List.getElem?_cons_succ, List.getElem?_append_right, length_flatMap_eq l.length_places_entryOf,
    Pool.totalWidth_members, Nat.add_sub_cancel_left]
  rw [length_flatMap_eq l.length_places_entryOf, Pool.totalWidth_members]
  exact Nat.le_add_right _ _

theorem index_lt {c : Constant} (h : l.pool.Holds c) : l.index c < l.count := by
  have := (Array.getElem?_eq_some_iff.1 (getElem?_table superName h)).1
  rwa [size_table] at this

theorem count_lt : l.count < 65536 := by
  have := l.fits
  simp only [maxShort] at this
  simp only [count]
  omega

/-! ### Looking into the table -/

section Look

variable {c : Constant} {s : String}

theorem get_table (h : l.pool.Holds c) :
    (l.table superType).get (l.index c) = .ok (l.entryOf c) := by
  rw [PoolTable.get, getElem?_table superType h]
  cases c <;> rfl

theorem text_table (h : l.pool.Holds (.text s)) :
    (l.table superType).text (l.index (.text s)) = .ok s := by
  rw [PoolTable.text, get_table superType h]
  rfl

theorem get_nameAndTypeIndex :
    (l.table superType).get l.nameAndTypeIndex =
      .ok (.nameAndType (l.index (.text initName)) (l.index (.text initDescriptor))) := by
  rw [PoolTable.get, ← Nat.add_zero l.nameAndTypeIndex, getElem?_table_end superType 0]
  rfl

theorem get_methodRefIndex :
    (l.table superType).get l.methodRefIndex =
      .ok (.methodRef (l.index (.classRef superType)) l.nameAndTypeIndex) := by
  rw [PoolTable.get, show l.methodRefIndex = l.nameAndTypeIndex + 1 from rfl,
    getElem?_table_end superType 1]
  rfl

theorem className_table (hc : l.pool.Closed) (h : l.pool.Holds (.classRef s)) :
    (l.table superType).className (l.index (.classRef s)) = .ok s := by
  rw [PoolTable.className, get_table superType h]
  exact text_table superType (hc s (Or.inl h))

end Look

/-! ### Writing and reading a layout -/

/-- A layout whose entries refer only to constants that it holds. -/
structure Complete (l : Layout) (superType : String) : Prop where
  closed : l.pool.Closed
  init : l.pool.Holds (.text initName)
  initType : l.pool.Holds (.text initDescriptor)
  super : l.pool.Holds (.classRef superType)

variable {superType}

theorem mapM_eq_ok {α β ε : Type} {f : α → Except ε β} {g : α → β} {xs : List α}
    (h : ∀ x ∈ xs, f x = .ok (g x)) : xs.mapM f = .ok (xs.map g) := by
  induction xs with
  | nil => rfl
  | cons x xs ih =>
    rw [List.mapM_cons, h x List.mem_cons_self, ih fun y hy => h y (List.mem_cons_of_mem _ hy)]
    rfl

/-- Classes and strings are written if their texts are there. -/
theorem mapM_referringEntry {tag : Nat} {xs : List String} (h : ∀ s ∈ xs, l.pool.Holds (.text s)) :
    xs.mapM (l.referringEntry tag) =
      .ok (xs.map fun s => be8 tag ++ be16 (l.index (.text s))) :=
  mapM_eq_ok fun s hs => by
    rw [referringEntry, require_eq (h s hs)]
    rfl

/-- The bytes of a layout are its count and the bytes of its entries. -/
theorem bytes_eq (h : l.Complete superType) :
    l.bytes superType = .ok (be16 l.count ++ (l.entries superType).flatMap Entry.bytes) := by
  have htexts : textEntry = fun s => (l.entryOf (.text s)).bytes := by
    funext s
    simp [textEntry, entryOf, Entry.bytes]
  rw [bytes, mapM_referringEntry fun s hs => h.closed s (Or.inl hs),
    mapM_referringEntry fun s hs => h.closed s (Or.inr hs), require_eq h.init,
    require_eq h.initType, require_eq h.super]
  show Except.ok _ = Except.ok _
  simp only [entries, List.flatMap_append, List.flatMap_map, ← List.flatMap_def, htexts,
    List.flatMap_cons, List.flatMap_nil, List.append_nil, Entry.bytes, List.append_assoc]
  rfl

theorem fits_of_mem_entries (h : l.Complete superType) :
    ∀ e ∈ l.entries superType, e.Fits := by
  have hi : ∀ {c}, l.pool.Holds c → l.index c < 65536 := fun hc => (index_lt hc).trans count_lt
  intro e he
  simp only [entries, List.mem_append, List.mem_map, List.mem_cons, List.not_mem_nil,
    or_false] at he
  rcases he with ⟨s, hs, rfl⟩ | ⟨s, hs, rfl⟩ | ⟨s, hs, rfl⟩ | ⟨n, -, rfl⟩ | ⟨b, -, rfl⟩ |
    ⟨n, -, rfl⟩ | rfl | rfl
  · exact Nat.lt_succ_of_le (l.short s hs)
  · exact hi (h.closed s (Or.inl hs))
  · exact hi (h.closed s (Or.inr hs))
  · trivial
  · trivial
  · trivial
  · exact ⟨hi h.init, hi h.initType⟩
  · have := @count_lt l
    simp only [count] at this
    exact ⟨hi h.super, by simp only [nameAndTypeIndex]; omega⟩

/-- **A layout is read back as its table.** -/
theorem reads_table (h : l.Complete superType) :
    ∃ bs, l.bytes superType = .ok bs ∧ Reads PoolTable.read bs (l.table superType) := by
  refine ⟨_, bytes_eq h, ?_⟩
  have := PoolTable.reads_ofEntries (fits_of_mem_entries h)
  rw [← table, size_table] at this
  exact this count_lt

end Layout

end TypedConfig.Module
