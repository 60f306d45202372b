import Mathlib.Data.List.Induction
import TypedConfig.Proofs.Module.Table

/-!
The numbering of a pool and its way through bytes. The constants that were added are numbered group after group, in
each group as they were first met, and they share out the places before the two entries at the end
(`Layout.numbers`). The writer takes the indices from the sizes of groups, the reader counts places; every entry is
read back at its index, and nothing is written if one of the constants of the initializer is missing
(`Pool.layout_faithful`).
-/

namespace TypedConfig.Module

/-! ### First-seen order -/

/-- The group that a constant belongs to. -/
def Constant.rank : Constant → Nat
  | .text _ => 0
  | .classRef _ => 1
  | .string _ => 2
  | .int _ => 3
  | .double _ => 4
  | .long _ => 5

/-- Whether a constant comes before another one: its group does, or it is of the same group and is met
earlier among the given constants. -/
def Before (xs : List Constant) (c d : Constant) : Prop :=
  c.rank < d.rank ∨ c.rank = d.rank ∧ xs.idxOf c < xs.idxOf d

namespace Pool

variable {p : Pool} {c k : Constant} {xs : List Constant}

/-- What a list of additions brings into a pool, in the order in which it comes and as often. -/
def added (cs : List Constant) : List Constant := cs.flatMap Constant.closure

/-- Adds a constant by itself. -/
def put (p : Pool) : Constant → Pool
  | .text s => { p with texts := p.texts.insert s }
  | .classRef s => { p with classes := p.classes.insert s }
  | .string s => { p with strings := p.strings.insert s }
  | .int n => { p with ints := p.ints.insert n }
  | .double bits => { p with doubles := p.doubles.insert bits }
  | .long n => { p with longs := p.longs.insert n }

theorem foldl_add_eq (cs : List Constant) (p : Pool) : cs.foldl add p = (added cs).foldl put p := by
  induction cs generalizing p with
  | nil => rfl
  | cons c cs ih =>
    rw [List.foldl_cons, ih, added, added, List.flatMap_cons, List.foldl_append]
    cases c <;> rfl

theorem holds_put : (p.put c).Holds k ↔ p.Holds k ∨ k = c := by
  cases c <;> cases k <;> simp [put, Holds]

theorem holds_foldl_put : (xs.foldl put p).Holds k ↔ p.Holds k ∨ k ∈ xs := by
  induction xs generalizing p with
  | nil => simp
  | cons x xs ih => rw [List.foldl_cons, ih, holds_put, List.mem_cons, or_assoc]

theorem put_of_holds (h : p.Holds c) : p.put c = p := by
  cases c <;> simp only [put, Distinct.insert_of_mem h]

theorem foldl_put_of_holds (h : ∀ k ∈ xs, p.Holds k) : xs.foldl put p = p := by
  induction xs with
  | nil => rfl
  | cons x xs ih =>
    rw [List.foldl_cons, put_of_holds (h x List.mem_cons_self),
      ih fun k hk => h k (List.mem_cons_of_mem _ hk)]

/-- The members up to the group of a constant stand before the others. -/
theorem members_eq (p : Pool) (c : Constant) :
    p.members = p.members.filter (·.rank ≤ c.rank) ++ p.members.filter (c.rank < ·.rank) := by
  cases c <;> simp [members, List.filter_map, Function.comp_def, Constant.rank]

theorem members_put (h : ¬ p.Holds c) :
    (p.put c).members =
      p.members.filter (·.rank ≤ c.rank) ++ c :: p.members.filter (c.rank < ·.rank) := by
  cases c <;> simp [members, List.filter_map, Function.comp_def, Constant.rank, put,
    Distinct.toList_insert_of_not_mem h]

/-- The members of a pool stand group after group, and within a group in the order in which they were
first met. The induction is on what was put last. -/
theorem pairwise_members (xs : List Constant) :
    (xs.foldl put empty).members.Pairwise (Before xs) := by
  induction xs using List.reverseRecOn with
  | nil => simp [members, empty]
  | append_singleton xs c ih =>
    have hmem : ∀ d ∈ (xs.foldl put empty).members, d ∈ xs := by
      intro d hd
      rw [mem_members, holds_foldl_put] at hd
      exact hd.resolve_left (not_holds_empty d)
    have hold : (xs.foldl put empty).members.Pairwise (Before (xs ++ [c])) := by
      refine ih.imp_of_mem fun {d e} hd he h => ?_
      rwa [Before, List.idxOf_append_of_mem (hmem d hd), List.idxOf_append_of_mem (hmem e he)]
    rw [List.foldl_append, List.foldl_cons, List.foldl_nil]
    by_cases h : (xs.foldl put empty).Holds c
    · rwa [put_of_holds h]
    · have hc : c ∉ xs := fun hc => h (holds_foldl_put.2 (Or.inr hc))
      have hlast : (xs ++ [c]).idxOf c = xs.length := by
        rw [List.idxOf_append_of_notMem hc]
        simp
      rw [members_eq _ c, List.pairwise_append] at hold
      rw [members_put h, List.pairwise_append, List.pairwise_cons]
      obtain ⟨hbefore, hafter, hacross⟩ := hold
      refine ⟨hbefore, ⟨fun d hd => Or.inl ?_, hafter⟩, fun d hd e he => ?_⟩
      · simpa using (List.mem_filter.1 hd).2
      · rcases List.mem_cons.1 he with rfl | he
        · obtain ⟨hd, hrank⟩ := List.mem_filter.1 hd
          have hrank : d.rank ≤ e.rank := by simpa using hrank
          have hd := hmem d hd
          have hidx : xs.idxOf d < xs.length := List.idxOf_lt_length_of_mem hd
          rcases Nat.lt_or_eq_of_le hrank with hlt | heq
          · exact Or.inl hlt
          · right
            rw [hlast, List.idxOf_append_of_mem hd]
            exact ⟨heq, hidx⟩
        · exact hacross d hd e he

theorem ofList_eq (cs : List Constant) : ofList cs = (added cs).foldl put empty :=
  foldl_add_eq cs empty

theorem holds_ofList_iff {cs : List Constant} : (ofList cs).Holds k ↔ k ∈ added cs := by
  rw [holds_ofList, added, List.mem_flatMap]

theorem closure_subset_added {cs : List Constant} (h : c ∈ added cs) :
    ∀ k ∈ c.closure, k ∈ added cs := by
  obtain ⟨d, hd, hc⟩ := List.mem_flatMap.1 h
  refine fun k hk => List.mem_flatMap.2 ⟨d, hd, ?_⟩
  cases c <;> cases d <;> simp_all [Constant.closure]

theorem ofList_of_added {before after : List Constant} (h : c ∈ added before) :
    ofList (before ++ c :: after) = ofList (before ++ after) := by
  have hc : (ofList before).add c = ofList before := by
    show [c].foldl add (ofList before) = ofList before
    rw [foldl_add_eq]
    refine foldl_put_of_holds fun k hk => holds_ofList_iff.2 (closure_subset_added h k ?_)
    simpa [added] using hk
  rw [ofList, ofList, List.foldl_append, List.foldl_append, List.foldl_cons]
  rw [ofList] at hc
  rw [hc]

end Pool

/-! ### Places -/

namespace Layout

variable {l : Layout} {cs : List Constant} {c d : Constant} {i : Nat}

/-- Whether a constant occupies a place: the place is among those that begin at its index. -/
def Occupies (l : Layout) (c : Constant) (i : Nat) : Prop :=
  ∃ k, l.index? c = some k ∧ k ≤ i ∧ i < k + c.width

/-- How the constants that were added are numbered: group after group, in each group as they were
first met, and so that they share out the places up to the two entries at the end. -/
structure Numbers (l : Layout) (xs : List Constant) : Prop where
  indexed : ∀ c, (∃ i, l.index? c = some i) ↔ c ∈ xs
  ordered : ∀ c ∈ xs, ∀ d ∈ xs, l.index c < l.index d ↔ Before xs c d
  within : ∀ c i, l.Occupies c i → 1 ≤ i ∧ i ≤ l.pool.places
  tiled : ∀ i, 1 ≤ i → i ≤ l.pool.places → ∃! c, l.Occupies c i
  ended : l.nameAndTypeIndex = l.pool.places + 1 ∧ l.methodRefIndex = l.pool.places + 2 ∧
    l.count = l.pool.places + 3

theorem exists_index?_iff : (∃ i, l.index? c = some i) ↔ l.pool.Holds c := by
  refine ⟨fun ⟨i, hi⟩ => ?_, exists_index?⟩
  by_contra h
  rw [index?_eq_none h] at hi
  cases hi

theorem occupies_iff :
    l.Occupies c i ↔ c ∈ l.pool.members ∧ startOf c l.pool.members + 1 ≤ i ∧
      i < startOf c l.pool.members + 1 + c.width := by
  constructor
  · rintro ⟨k, hk, hle, hlt⟩
    have hc := exists_index?_iff.1 ⟨k, hk⟩
    rw [index?_eq_startOf hc] at hk
    obtain rfl := Option.some.inj hk
    exact ⟨Pool.mem_members.2 hc, hle, hlt⟩
  · rintro ⟨hc, hle, hlt⟩
    exact ⟨_, index?_eq_startOf (Pool.mem_members.1 hc), hle, hlt⟩

theorem index_inj (hc : l.pool.Holds c) (hd : l.pool.Holds d) (h : l.index c = l.index d) : c = d := by
  have hlt := startOf_add_width_le (Pool.mem_members.2 hc)
  have hpos := c.width_pos
  have hpos' := d.width_pos
  rw [index_eq_startOf hc, index_eq_startOf hd] at h
  obtain ⟨e, -, huniq⟩ := existsUnique_startOf l.pool.nodup_members
    (k := startOf c l.pool.members) (by omega)
  rw [huniq c ⟨Pool.mem_members.2 hc, by omega, by omega⟩,
    huniq d ⟨Pool.mem_members.2 hd, by omega, by omega⟩]

/-- **A layout numbers what was added.** The members of its pool stand in the order of the numbers and tile the
places. -/
theorem numbers (h : l.pool = Pool.ofList cs) : l.Numbers (Pool.added cs) := by
  have hholds : ∀ c, l.pool.Holds c ↔ c ∈ Pool.added cs := by
    intro c
    rw [h, Pool.holds_ofList_iff]
  have hsorted : l.pool.members.Pairwise (Before (Pool.added cs)) := by
    rw [h, Pool.ofList_eq]
    exact Pool.pairwise_members _
  have hlt : ∀ {c d}, l.pool.Holds c → l.pool.Holds d → l.index c < l.index d →
      Before (Pool.added cs) c d := by
    intro c d hc hd hcd
    rw [index_eq_startOf hc, index_eq_startOf hd] at hcd
    exact of_startOf_lt hsorted (Pool.mem_members.2 hd) (by omega)
  refine ⟨fun c => exists_index?_iff.trans (hholds c), ?_, ?_, ?_, rfl, rfl, rfl⟩
  · intro c hc d hd
    rw [← hholds] at hc hd
    refine ⟨hlt hc hd, fun hbefore => ?_⟩
    rcases Nat.lt_trichotomy (l.index c) (l.index d) with hcd | hcd | hcd
    · exact hcd
    · obtain rfl := index_inj hc hd hcd
      unfold Before at hbefore
      omega
    · have := hlt hd hc hcd
      unfold Before at hbefore this
      omega
  · intro c i hi
    obtain ⟨hc, hle, hlt⟩ := occupies_iff.1 hi
    have := startOf_add_width_le hc
    rw [Pool.totalWidth_members] at this
    omega
  · intro i hi hle
    have hi : i - 1 < totalWidth l.pool.members := by
      rw [Pool.totalWidth_members]
      omega
    obtain ⟨c, ⟨hc, hcle, hclt⟩, huniq⟩ := existsUnique_startOf l.pool.nodup_members hi
    refine ⟨c, occupies_iff.2 ⟨hc, by omega, by omega⟩, fun d hd => ?_⟩
    obtain ⟨hd, hdle, hdlt⟩ := occupies_iff.1 hd
    exact huniq d ⟨hd, by omega, by omega⟩

/-! ### The layout in bytes -/

/-- A table that was read back from a layout: every constant is the entry at its index, a class and a string with
the index of their text, the two entries that refer to the initializer follow, and no index leads to the unused
first place, to the second place of a wide constant or past the end. -/
structure ReadBack (l : Layout) (superType : String) (t : PoolTable) : Prop where
  constant : ∀ c i, l.index? c = some i → t.get i = .ok (l.entryOf c)
  nameAndType : t.get l.nameAndTypeIndex =
    .ok (.nameAndType (l.index (.text initName)) (l.index (.text initDescriptor)))
  methodRef : t.get l.methodRefIndex =
    .ok (.methodRef (l.index (.classRef superType)) l.nameAndTypeIndex)
  first : t.get 0 = .error (.badIndex 0)
  second : ∀ c i, l.index? c = some i → c.width = 2 → t.get (i + 1) = .error (.badIndex (i + 1))
  beyond : ∀ i, l.count ≤ i → t.get i = .error (.badIndex i)

/-- What the two entries at the end refer to, and how it is called if it is missing. -/
def required (superType : String) : List (Constant × String) :=
  [(.text initName, initName), (.text initDescriptor, initDescriptor),
    (.classRef superType, superType)]

/-- The first of what the two entries at the end refer to that is not among the given constants. -/
def missing? (xs : List Constant) (superType : String) : Option String :=
  ((required superType).find? fun r => r.1 ∉ xs).map (·.2)

theorem readBack_table (superType : String) : l.ReadBack superType (l.table superType) := by
  have hsize := l.size_table superType
  refine ⟨?_, get_nameAndTypeIndex superType, get_methodRefIndex superType, ?_, ?_, ?_⟩
  · intro c i hi
    have hc := exists_index?_iff.1 ⟨i, hi⟩
    rw [index?_eq hc] at hi
    rw [← Option.some.inj hi]
    exact get_table superType hc
  · rw [PoolTable.get, ← Array.getElem?_toList, entries_table]
    rfl
  · intro c i hi hwide
    have hc := exists_index?_iff.1 ⟨i, hi⟩
    rw [index?_eq hc] at hi
    have hsecond := getElem?_table_add superType hc (k := 1) (by omega)
    rw [Option.some.inj hi] at hsecond
    rw [PoolTable.get, hsecond]
    cases c <;> simp_all [Constant.width, entryOf, Entry.places, Entry.isWide]
  · intro i hi
    rw [PoolTable.get, Array.getElem?_eq_none (by omega)]

section Missing

variable {superType what : String} {xs : List Constant}

/-- The writer asks for the constants of the initializer one after another and names the first that is missing. -/
theorem bytes_eq_error (hclosed : l.pool.Closed) (hxs : ∀ c, l.pool.Holds c ↔ c ∈ xs)
    (h : missing? xs superType = some what) :
    l.bytes superType = .error (.missingConstant what) := by
  have hmissing : ∀ c s, c ∉ xs → l.require c s = .error (.missingConstant s) :=
    fun c s hc => require_eq_error (fun hl => hc ((hxs c).1 hl)) s
  have hthere : ∀ c s, c ∈ xs → l.require c s = .ok (l.index c) :=
    fun c s hc => require_eq ((hxs c).2 hc) s
  rw [bytes, mapM_referringEntry fun s hs => hclosed s (Or.inl hs),
    mapM_referringEntry fun s hs => hclosed s (Or.inr hs)]
  unfold missing? required at h
  by_cases hinit : Constant.text initName ∈ xs
  · by_cases htype : Constant.text initDescriptor ∈ xs
    · by_cases hsuper : Constant.classRef superType ∈ xs
      · simp [hinit, htype, hsuper] at h
      · obtain rfl : superType = what := by simpa [hinit, htype, hsuper] using h
        rw [hthere _ _ hinit, hthere _ _ htype, hmissing _ _ hsuper]
        rfl
    · obtain rfl : initDescriptor = what := by simpa [hinit, htype] using h
      rw [hthere _ _ hinit, hmissing _ _ htype]
      rfl
  · obtain rfl : initName = what := by simpa [hinit] using h
    rw [hmissing _ _ hinit]
    rfl

theorem complete_of_missing?_eq_none (hclosed : l.pool.Closed)
    (hxs : ∀ c, l.pool.Holds c ↔ c ∈ xs) (h : missing? xs superType = none) :
    l.Complete superType := by
  have hall : Constant.text initName ∈ xs ∧ Constant.text initDescriptor ∈ xs ∧
      Constant.classRef superType ∈ xs := by
    simpa [missing?, required] using h
  exact ⟨hclosed, (hxs _).2 hall.1, (hxs _).2 hall.2.1, (hxs _).2 hall.2.2⟩

end Missing

end Layout

/-- **A layout numbers its constants one to one, and the numbers survive the bytes.** Exactly what was added has an
index; adding something again changes none. Written for a super type, the layout is read back from exactly its bytes
with every entry at its index, unless a constant of the initializer is missing, and then the first is named. -/
theorem Pool.layout_faithful {cs : List Constant} {l : Layout} (h : (ofList cs).freeze = .ok l) :
    l.Numbers (added cs) ∧
    (∀ before c after, cs = before ++ c :: after → c ∈ added before →
      (ofList (before ++ after)).freeze = .ok l) ∧
    ∀ superType,
      (∀ what, Layout.missing? (added cs) superType = some what →
        l.bytes superType = .error (.missingConstant what)) ∧
      (Layout.missing? (added cs) superType = none →
        ∃ bs t, l.bytes superType = .ok bs ∧ Reads PoolTable.read bs t ∧
          l.ReadBack superType t) := by
  have hpool := freeze_eq_ok h
  have hholds : ∀ c, l.pool.Holds c ↔ c ∈ added cs := by
    intro c
    rw [hpool, holds_ofList_iff]
  have hclosed : l.pool.Closed := hpool ▸ closed_ofList cs
  refine ⟨Layout.numbers hpool, ?_, fun superType => ⟨fun what hwhat => ?_, fun hnone => ?_⟩⟩
  · rintro before c after rfl hc
    rwa [← ofList_of_added hc]
  · exact Layout.bytes_eq_error hclosed hholds hwhat
  · have hcomplete := Layout.complete_of_missing?_eq_none hclosed hholds hnone
    obtain ⟨bs, hbs, hreads⟩ := Layout.reads_table hcomplete
    exact ⟨bs, _, hbs, hreads, Layout.readBack_table superType⟩

/-- Additions of every sort, some of them again: a text is there for a class before it is added, two
zeros differ in their sign. -/
def mixedAdditions : List Constant :=
  [.classRef superName, .double 0, .text superName, .string initDescriptor, .long 9,
    .double 0x8000000000000000, .int 7, .text initName, .double 0, .int 7]

theorem Pool.layout_faithful_mixed :
    ∃ l, (Pool.ofList mixedAdditions).freeze = .ok l ∧ l.Numbers (Pool.added mixedAdditions) ∧
      (∃ bs t, l.bytes superName = .ok bs ∧ Reads PoolTable.read bs t ∧ l.ReadBack superName t) ∧
      l.bytes initName = .error (.missingConstant initName) := by
  have hfits : (Pool.ofList mixedAdditions).places + 3 ≤ maxShort ∧
      ∀ s ∈ (Pool.ofList mixedAdditions).texts.toList, (encodeText s).length ≤ maxShort := by
    decide +kernel
  obtain ⟨l, hl⟩ := Pool.exists_freeze_iff.2 hfits
  obtain ⟨hnumbers, -, hbytes⟩ := Pool.layout_faithful hl
  exact ⟨l, hl, hnumbers, (hbytes superName).2 (by decide), (hbytes initName).1 _ (by decide)⟩

end TypedConfig.Module
