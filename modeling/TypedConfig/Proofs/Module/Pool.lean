import Mathlib.Data.List.Nodup
import TypedConfig.Module.Pool

/-!
What a pool holds and where. A pool made from a list of constants holds those constants and the texts
that come with them, nothing else and nothing twice (`holds_ofList`). Its constants follow each other
group after group, each as wide as it is (`existsUnique_startOf`), and a layout numbers them in this
way: the index of a constant is where it starts (`index?_eq_startOf`).
-/

namespace TypedConfig.Module

/-! ### Constants of a pool -/

/-- The constants that come into a pool with one constant. -/
def Constant.closure : Constant → List Constant
  | .classRef s => [.text s, .classRef s]
  | .string s => [.text s, .string s]
  | c => [c]

/-- How many places a constant takes. -/
def Constant.width : Constant → Nat
  | .double _ | .long _ => 2
  | _ => 1

theorem Constant.width_pos (c : Constant) : 0 < c.width := by
  cases c <;> exact Nat.succ_pos _

theorem Constant.mem_closure (c : Constant) : c ∈ c.closure := by
  cases c <;> simp [closure]

namespace Pool

/-- Whether a constant is in the pool. -/
def Holds (p : Pool) : Constant → Prop
  | .text s => s ∈ p.texts.toList
  | .classRef s => s ∈ p.classes.toList
  | .string s => s ∈ p.strings.toList
  | .int n => n ∈ p.ints.toList
  | .double bits => bits ∈ p.doubles.toList
  | .long n => n ∈ p.longs.toList

theorem not_holds_empty (c : Constant) : ¬ empty.Holds c := by
  cases c <;> simp [Holds, empty]

theorem holds_add (p : Pool) (c k : Constant) :
    (p.add c).Holds k ↔ p.Holds k ∨ k ∈ c.closure := by
  cases c <;> cases k <;> simp [add, Holds, Constant.closure]

theorem holds_foldl_add (cs : List Constant) (p : Pool) (k : Constant) :
    (cs.foldl add p).Holds k ↔ p.Holds k ∨ ∃ c ∈ cs, k ∈ c.closure := by
  induction cs generalizing p with
  | nil => simp
  | cons c cs ih =>
    rw [List.foldl_cons, ih, holds_add]
    simp [or_assoc]

/-- **A pool holds what was added and the texts that come with it.** -/
theorem holds_ofList {cs : List Constant} {k : Constant} :
    (ofList cs).Holds k ↔ ∃ c ∈ cs, k ∈ c.closure := by
  rw [ofList, holds_foldl_add]
  simp [not_holds_empty]

theorem holds_of_mem {cs : List Constant} {c : Constant} (h : c ∈ cs) : (ofList cs).Holds c :=
  holds_ofList.2 ⟨c, h, c.mem_closure⟩

/-- A pool in which every class and every string has its text. -/
def Closed (p : Pool) : Prop :=
  ∀ s, p.Holds (.classRef s) ∨ p.Holds (.string s) → p.Holds (.text s)

theorem closed_ofList (cs : List Constant) : (ofList cs).Closed := by
  intro s h
  simp only [holds_ofList] at h ⊢
  rcases h with ⟨c, hc, hk⟩ | ⟨c, hc, hk⟩
  · refine ⟨c, hc, ?_⟩
    cases c <;> simp_all [Constant.closure]
  · refine ⟨c, hc, ?_⟩
    cases c <;> simp_all [Constant.closure]

/-- The constants of a pool, group after group. -/
def members (p : Pool) : List Constant :=
  p.texts.toList.map .text ++ (p.classes.toList.map .classRef ++ (p.strings.toList.map .string ++
    (p.ints.toList.map .int ++ (p.doubles.toList.map .double ++ p.longs.toList.map .long))))

theorem mem_members {p : Pool} {c : Constant} : c ∈ p.members ↔ p.Holds c := by
  cases c <;> simp [members, Holds]

theorem nodup_members (p : Pool) : p.members.Nodup := by
  have hmap : ∀ {α : Type} {xs : List α} {f : α → Constant}, (∀ a b, f a = f b → a = b) →
      xs.Nodup → (xs.map f).Nodup := fun hf hxs => List.Nodup.map (fun _ _ h => hf _ _ h) hxs
  unfold members
  refine List.nodup_append'.2 ⟨hmap (by simp) p.texts.nodup_toList, ?_, by simp [List.disjoint_left]⟩
  refine List.nodup_append'.2
    ⟨hmap (by simp) p.classes.nodup_toList, ?_, by simp [List.disjoint_left]⟩
  refine List.nodup_append'.2
    ⟨hmap (by simp) p.strings.nodup_toList, ?_, by simp [List.disjoint_left]⟩
  refine List.nodup_append'.2 ⟨hmap (by simp) p.ints.nodup_toList, ?_, by simp [List.disjoint_left]⟩
  exact List.nodup_append'.2 ⟨hmap (by simp) p.doubles.nodup_toList,
    hmap (by simp) p.longs.nodup_toList, by simp [List.disjoint_left]⟩

end Pool

/-! ### Where constants stand -/

/-- How many places constants take. -/
def totalWidth : List Constant → Nat
  | [] => 0
  | c :: cs => c.width + totalWidth cs

@[simp] theorem totalWidth_nil : totalWidth [] = 0 := rfl

@[simp] theorem totalWidth_cons (x : Constant) (xs : List Constant) :
    totalWidth (x :: xs) = x.width + totalWidth xs := rfl

@[simp] theorem totalWidth_append (xs ys : List Constant) :
    totalWidth (xs ++ ys) = totalWidth xs + totalWidth ys := by
  induction xs with
  | nil => simp
  | cons x xs ih => rw [List.cons_append, totalWidth_cons, totalWidth_cons, ih, Nat.add_assoc]

/-- How many places the constants before `c` take. -/
def startOf (c : Constant) : List Constant → Nat
  | [] => 0
  | x :: xs => if x = c then 0 else x.width + startOf c xs

section Start

variable {c d x : Constant} {xs ys : List Constant} {k : Nat}

@[simp] theorem startOf_cons_self : startOf c (c :: xs) = 0 := if_pos rfl

theorem startOf_cons_of_ne (h : x ≠ c) : startOf c (x :: xs) = x.width + startOf c xs := if_neg h

theorem startOf_append_of_mem (h : c ∈ xs) : startOf c (xs ++ ys) = startOf c xs := by
  induction xs with
  | nil => cases h
  | cons x xs ih =>
    by_cases hx : x = c
    · subst hx
      rw [List.cons_append, startOf_cons_self, startOf_cons_self]
    · rw [List.cons_append, startOf_cons_of_ne hx, startOf_cons_of_ne hx,
        ih (List.mem_of_ne_of_mem (Ne.symm hx) h)]

theorem startOf_append_of_notMem (h : c ∉ xs) :
    startOf c (xs ++ ys) = totalWidth xs + startOf c ys := by
  induction xs with
  | nil => simp
  | cons x xs ih =>
    rw [List.mem_cons, not_or] at h
    rw [List.cons_append, startOf_cons_of_ne (Ne.symm h.1), ih h.2, totalWidth_cons, Nat.add_assoc]

theorem startOf_add_width_le (h : c ∈ xs) : startOf c xs + c.width ≤ totalWidth xs := by
  induction xs with
  | nil => cases h
  | cons x xs ih =>
    rw [totalWidth_cons]
    by_cases hx : x = c
    · subst hx
      rw [startOf_cons_self]
      omega
    · have := ih (List.mem_of_ne_of_mem (Ne.symm hx) h)
      rw [startOf_cons_of_ne hx]
      omega

/-- What each constant stands for in a list is found from where the constant starts. -/
theorem getElem?_flatMap_startOf {β : Type} {f : Constant → List β} (hf : ∀ c, (f c).length = c.width)
    (h : c ∈ xs) (hk : k < c.width) : (xs.flatMap f)[startOf c xs + k]? = (f c)[k]? := by
  induction xs with
  | nil => cases h
  | cons x xs ih =>
    rw [List.flatMap_cons]
    by_cases hx : x = c
    · subst hx
      rw [startOf_cons_self, Nat.zero_add, List.getElem?_append_left (by rwa [hf])]
    · rw [startOf_cons_of_ne hx, List.getElem?_append_right (by rw [hf]; omega),
        ← ih (List.mem_of_ne_of_mem (Ne.symm hx) h), hf]
      congr 1
      omega

theorem length_flatMap_eq {β : Type} {f : Constant → List β} (hf : ∀ c, (f c).length = c.width)
    (xs : List Constant) : (xs.flatMap f).length = totalWidth xs := by
  induction xs with
  | nil => rfl
  | cons x xs ih => rw [List.flatMap_cons, List.length_append, ih, hf, totalWidth_cons]

/-- **Constants tile their places**: every place belongs to exactly one of them. -/
theorem existsUnique_startOf (hxs : xs.Nodup) (h : k < totalWidth xs) :
    ∃! c, c ∈ xs ∧ startOf c xs ≤ k ∧ k < startOf c xs + c.width := by
  induction xs generalizing k with
  | nil => cases h
  | cons x xs ih =>
    obtain ⟨hx, hxs⟩ := List.nodup_cons.1 hxs
    rw [totalWidth_cons] at h
    by_cases hk : k < x.width
    · refine ⟨x, ⟨List.mem_cons_self, by simp, by simpa using hk⟩, ?_⟩
      rintro c ⟨-, hle, -⟩
      by_contra hne
      rw [startOf_cons_of_ne (Ne.symm hne)] at hle
      omega
    · obtain ⟨c, ⟨hc, hle, hlt⟩, huniq⟩ := ih hxs (k := k - x.width) (by omega)
      have hxc : x ≠ c := fun h => hx (h ▸ hc)
      refine ⟨c, ⟨List.mem_cons_of_mem _ hc, ?_, ?_⟩, ?_⟩
      · rw [startOf_cons_of_ne hxc]
        omega
      · rw [startOf_cons_of_ne hxc]
        omega
      · rintro d ⟨hd, hdle, hdlt⟩
        have hxd : x ≠ d := by
          rintro rfl
          rw [startOf_cons_self] at hdlt
          omega
        rw [startOf_cons_of_ne hxd] at hdle hdlt
        exact huniq d ⟨List.mem_of_ne_of_mem (Ne.symm hxd) hd, by omega, by omega⟩

theorem of_startOf_lt {r : Constant → Constant → Prop} (hxs : xs.Pairwise r) (hd : d ∈ xs)
    (h : startOf c xs < startOf d xs) : r c d := by
  induction xs with
  | nil => cases hd
  | cons x xs ih =>
    have hxd : x ≠ d := by
      rintro rfl
      rw [startOf_cons_self] at h
      omega
    obtain ⟨hx, hxs⟩ := List.pairwise_cons.1 hxs
    have hd := List.mem_of_ne_of_mem (Ne.symm hxd) hd
    by_cases hxc : x = c
    · subst hxc
      exact hx d hd
    · rw [startOf_cons_of_ne hxd, startOf_cons_of_ne hxc] at h
      exact ih hxs hd (by omega)

section Group

variable {α : Type} [Ord α] [DecidableEq α] {w : Nat}

theorem totalWidth_group {f : α → Constant} (hw : ∀ a, (f a).width = w) (d : Distinct α) :
    totalWidth (d.toList.map f) = w * d.size := by
  rw [← d.length_toList]
  induction d.toList with
  | nil => simp
  | cons a as ih =>
    rw [List.map_cons, totalWidth_cons, hw, ih, List.length_cons, Nat.mul_add]
    omega

theorem startOf_group (f : α → Constant) (hf : ∀ a b, f a = f b → a = b)
    (hw : ∀ a, (f a).width = w) {d : Distinct α} {a : α} {i : Nat} (h : d.place? a = some i) :
    startOf (f a) (d.toList.map f) = w * i := by
  rw [Distinct.place?_eq] at h
  generalize d.toList = as at h
  induction as generalizing i with
  | nil => cases h
  | cons b as ih =>
    rw [List.map_cons]
    rw [List.idxOf?_cons] at h
    by_cases hb : b = a
    · subst hb
      obtain rfl : 0 = i := by simpa using h
      rw [startOf_cons_self, Nat.mul_zero]
    · rw [startOf_cons_of_ne fun hfb => hb (hf _ _ hfb), hw]
      simp only [beq_iff_eq, hb, if_false, Option.map_eq_some_iff] at h
      obtain ⟨j, hj, rfl⟩ := h
      rw [ih hj, Nat.mul_add]
      omega

end Group

end Start

/-! ### Layouts -/

namespace Pool

theorem totalWidth_members (p : Pool) : totalWidth p.members = p.places := by
  simp only [members, totalWidth_append]
  rw [totalWidth_group (w := 1) fun _ => rfl, totalWidth_group (w := 1) fun _ => rfl,
    totalWidth_group (w := 1) fun _ => rfl, totalWidth_group (w := 1) fun _ => rfl,
    totalWidth_group (w := 2) fun _ => rfl, totalWidth_group (w := 2) fun _ => rfl, places]
  omega

theorem freeze_eq_ok {p : Pool} {l : Layout} (h : p.freeze = .ok l) : l.pool = p := by
  unfold freeze at h
  split at h
  · cases h
  · split at h
    · cases h
    · cases h
      rfl

/-- **When a pool has a layout**: it is small enough and every text is short enough. -/
theorem exists_freeze_iff {p : Pool} :
    (∃ l, p.freeze = .ok l) ↔
      p.places + 3 ≤ maxShort ∧ ∀ s ∈ p.texts.toList, (encodeText s).length ≤ maxShort := by
  constructor
  · rintro ⟨l, hl⟩
    obtain rfl := freeze_eq_ok hl
    exact ⟨l.fits, l.short⟩
  · rintro ⟨hp, ht⟩
    unfold freeze
    rw [dif_neg (Nat.not_lt.2 hp)]
    split
    · rename_i s hs
      have h1 := List.mem_of_find?_eq_some hs
      have h2 := List.find?_some hs
      have h3 := ht s h1
      simp at h2
      omega
    · exact ⟨_, rfl⟩

/-- A pool without a layout is too large, or else some text in it is too long. -/
theorem freeze_eq_error {p : Pool} {e : BuildError} (h : p.freeze = .error e) :
    (∃ n, e = .poolOverflow n) ∨ ∃ n, e = .textTooLong n := by
  unfold freeze at h
  split at h
  · cases h
    exact Or.inl ⟨_, rfl⟩
  · split at h
    · cases h
      exact Or.inr ⟨_, rfl⟩
    · cases h

end Pool

namespace Layout

variable {l : Layout} {c : Constant} {i : Nat}

theorem exists_index? (h : l.pool.Holds c) : ∃ i, l.index? c = some i := by
  have key : ∀ {α : Type} [BEq α] [LawfulBEq α] (xs : List α) (a : α), a ∈ xs →
      ∃ i, xs.idxOf? a = some i := fun xs a ha =>
    Option.isSome_iff_exists.1 (List.isSome_idxOf?.2 ha)
  cases c with
  | text s | classRef s | string s | int n | double bits | long n =>
    obtain ⟨i, hi⟩ := key _ _ h
    exact ⟨_, by rw [index?, Distinct.place?_eq, hi, Option.map_some]⟩

/-- **The index of a constant is where it starts.** Indices begin at one. -/
theorem index?_eq_startOf (h : l.pool.Holds c) :
    l.index? c = some (startOf c l.pool.members + 1) := by
  obtain ⟨i, hi⟩ := exists_index? h
  rw [hi]
  cases c with
  | text s =>
    obtain ⟨j, hj, rfl⟩ := Option.map_eq_some_iff.1 hi
    rw [Pool.members, startOf_append_of_mem (List.mem_map_of_mem h),
      startOf_group .text (by simp) (w := 1) (fun _ => rfl) hj]
    simp
  | classRef s =>
    obtain ⟨j, hj, rfl⟩ := Option.map_eq_some_iff.1 hi
    rw [Pool.members, startOf_append_of_notMem (by simp),
      startOf_append_of_mem (List.mem_map_of_mem h), totalWidth_group (w := 1) fun _ => rfl,
      startOf_group .classRef (by simp) (w := 1) (fun _ => rfl) hj]
    simp [classBase]
  | string s =>
    obtain ⟨j, hj, rfl⟩ := Option.map_eq_some_iff.1 hi
    rw [Pool.members, startOf_append_of_notMem (by simp), startOf_append_of_notMem (by simp),
      startOf_append_of_mem (List.mem_map_of_mem h), totalWidth_group (w := 1) fun _ => rfl,
      totalWidth_group (w := 1) fun _ => rfl, startOf_group .string (by simp) (w := 1) (fun _ => rfl) hj]
    simp [stringBase, classBase, Nat.add_assoc]
  | int n =>
    obtain ⟨j, hj, rfl⟩ := Option.map_eq_some_iff.1 hi
    rw [Pool.members, startOf_append_of_notMem (by simp), startOf_append_of_notMem (by simp),
      startOf_append_of_notMem (by simp), startOf_append_of_mem (List.mem_map_of_mem h),
      totalWidth_group (w := 1) fun _ => rfl, totalWidth_group (w := 1) fun _ => rfl,
      totalWidth_group (w := 1) fun _ => rfl, startOf_group .int (by simp) (w := 1) (fun _ => rfl) hj]
    simp [intBase, stringBase, classBase, Nat.add_assoc]
  | double bits =>
    obtain ⟨j, hj, rfl⟩ := Option.map_eq_some_iff.1 hi
    rw [Pool.members, startOf_append_of_notMem (by simp), startOf_append_of_notMem (by simp),
      startOf_append_of_notMem (by simp), startOf_append_of_notMem (by simp),
      startOf_append_of_mem (List.mem_map_of_mem h), totalWidth_group (w := 1) fun _ => rfl,
      totalWidth_group (w := 1) fun _ => rfl, totalWidth_group (w := 1) fun _ => rfl,
      totalWidth_group (w := 1) fun _ => rfl, startOf_group .double (by simp) (w := 2) (fun _ => rfl) hj]
    simp [doubleBase, intBase, stringBase, classBase, Nat.add_assoc]
  | long n =>
    obtain ⟨j, hj, rfl⟩ := Option.map_eq_some_iff.1 hi
    rw [Pool.members, startOf_append_of_notMem (by simp), startOf_append_of_notMem (by simp),
      startOf_append_of_notMem (by simp), startOf_append_of_notMem (by simp),
      startOf_append_of_notMem (by simp), totalWidth_group (w := 1) fun _ => rfl,
      totalWidth_group (w := 1) fun _ => rfl, totalWidth_group (w := 1) fun _ => rfl,
      totalWidth_group (w := 1) fun _ => rfl, totalWidth_group (w := 2) fun _ => rfl,
      startOf_group .long (by simp) (w := 2) (fun _ => rfl) hj]
    simp [longBase, doubleBase, intBase, stringBase, classBase, Nat.add_assoc]

/-- The index of a constant that the layout holds. -/
def index (l : Layout) (c : Constant) : Nat := (l.index? c).getD 0

theorem index?_eq (h : l.pool.Holds c) : l.index? c = some (l.index c) := by
  obtain ⟨i, hi⟩ := exists_index? h
  rw [index, hi, Option.getD_some]

theorem index_eq_startOf (h : l.pool.Holds c) : l.index c = startOf c l.pool.members + 1 := by
  rw [index, index?_eq_startOf h, Option.getD_some]

theorem index?_eq_none (h : ¬ l.pool.Holds c) : l.index? c = none := by
  have key : ∀ {α : Type} [Ord α] [DecidableEq α] (d : Distinct α) (a : α), a ∉ d.toList →
      d.place? a = none := fun d a ha => by
    rw [Distinct.place?_eq]
    exact List.idxOf?_eq_none_iff.2 ha
  cases c with
  | text s | classRef s | string s | int n | double bits | long n =>
    rw [index?, key _ _ h, Option.map_none]

theorem require_eq_error (h : ¬ l.pool.Holds c) (what : String) :
    l.require c what = .error (.missingConstant what) := by
  rw [require, index?_eq_none h]

theorem require_eq (h : l.pool.Holds c) (what : String) : l.require c what = .ok (l.index c) := by
  rw [require, index?_eq h]

end Layout

end TypedConfig.Module
