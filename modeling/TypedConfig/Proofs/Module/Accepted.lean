import TypedConfig.Proofs.Module.Table

/-!
What accepted bytes contain. An entry of a table plays a role, which is found by following its
references; a step of reading that has succeeded has found entries in the roles that its outcome
needs.
-/

namespace TypedConfig.Module

open Scalar (Kind Value)

/-! ### Entries as read -/

/-- An entry that can stand in a pool: no continuation, and no text that is too long to write. -/
def Entry.Writable (e : Entry) : Prop :=
  e ≠ .continuation ∧ ∀ s, e = .text s → (encodeText s).length ≤ maxShort

theorem Entry.of_readAt_eq_ok {start : Nat} {c d : Cursor} {e : Entry}
    (h : Entry.readAt start c = .ok e d) : e.Writable := by
  obtain ⟨tag, c₁, -, h⟩ := Reader.bind_eq_ok.1 h
  split at h
  · obtain ⟨n, c₂, hn, h⟩ := Reader.bind_eq_ok.1 h
    obtain ⟨bytes, c₃, hbytes, h⟩ := Reader.bind_eq_ok.1 h
    cases hs : decodeText? bytes with
    | none =>
      rw [hs] at h
      exact (Reader.throw_ne_ok h).elim
    | some s =>
      rw [hs] at h
      obtain ⟨rfl, -⟩ := Reader.pure_eq_ok.1 h
      refine ⟨by simp, fun t ht => ?_⟩
      cases ht
      obtain ⟨hle, rfl, -⟩ := Reader.take_eq_ok.1 hbytes
      have hlen := length_encodeText_le hs
      have hn := Reader.u16_lt hn
      rw [List.length_take, Nat.min_eq_left hle] at hlen
      simp only [maxShort]
      omega
  case h_9 => exact (Reader.throw_ne_ok h).elim
  case h_7 | h_8 =>
    obtain ⟨a, c₂, -, h⟩ := Reader.bind_eq_ok.1 h
    obtain ⟨b, c₃, -, h⟩ := Reader.bind_eq_ok.1 h
    obtain ⟨rfl, -⟩ := Reader.pure_eq_ok.1 h
    exact ⟨by simp, by simp⟩
  all_goals
    obtain ⟨n, c₂, -, h⟩ := Reader.bind_eq_ok.1 h
    obtain ⟨rfl, -⟩ := Reader.pure_eq_ok.1 h
    exact ⟨by simp, by simp⟩

namespace PoolTable

theorem of_readEntries_eq_ok {n : Nat} {acc table : Array Entry} {c d : Cursor}
    (h : readEntries n acc c = .ok table d) :
    ∃ es : List Entry, table = acc ++ (es.flatMap Entry.places).toArray ∧
      (es.flatMap Entry.places).length = n ∧ ∀ e ∈ es, e.Writable := by
  induction n, acc using readEntries.induct generalizing c with
  | case1 acc =>
    obtain ⟨rfl, -⟩ := Reader.pure_eq_ok.1 h
    exact ⟨[], by simp⟩
  | case2 acc =>
    cases hr : Entry.read c with
    | error e c₁ => simp [readEntries, hr] at h
    | ok e c₁ =>
      have he := Entry.of_readAt_eq_ok hr
      cases hw : e.isWide with
      | true => simp [readEntries, hr, hw] at h
      | false =>
        simp only [readEntries, hr, hw, Bool.false_eq_true, if_false] at h
        cases h
        exact ⟨[e], by simp [Entry.places, hw], by simp [Entry.places, hw], by simpa using he⟩
  | case3 n acc wide narrow =>
    cases hr : Entry.read c with
    | error e c₁ => simp [readEntries, hr] at h
    | ok e c₁ =>
      have he := Entry.of_readAt_eq_ok hr
      cases hw : e.isWide with
      | true =>
        rw [readEntries_of_wide hw hr] at h
        obtain ⟨es, rfl, hlen, hes⟩ := wide e h
        refine ⟨e :: es, by simp [Entry.places, hw], ?_,
          List.forall_mem_cons.2 ⟨he, hes⟩⟩
        rw [List.flatMap_cons, List.length_append, hlen]
        simp [Entry.places, hw]
        omega
      | false =>
        rw [readEntries_of_narrow hw hr] at h
        obtain ⟨es, rfl, hlen, hes⟩ := narrow e h
        refine ⟨e :: es, by simp [Entry.places, hw], ?_,
          List.forall_mem_cons.2 ⟨he, hes⟩⟩
        rw [List.flatMap_cons, List.length_append, hlen]
        simp [Entry.places, hw]
        omega

/-- What is read as a table: as many places as the count says. -/
theorem of_read_eq_ok {c d : Cursor} {t : PoolTable} (h : read c = .ok t d) :
    ∃ es, t = ofEntries es ∧ (∀ e ∈ es, e.Writable) ∧
      t.entries.size = ofBytes (c.rest.take 2) ∧ t.entries.size < 65536 := by
  obtain ⟨count, c₁, hcount, h⟩ := Reader.bind_eq_ok.1 h
  have hlt := Reader.u16_lt hcount
  obtain ⟨-, hn, -⟩ := Reader.number_eq_ok.1 hcount
  cases count with
  | zero => exact (Reader.throw_ne_ok h).elim
  | succ n =>
    obtain ⟨table, c₂, htable, h⟩ := Reader.bind_eq_ok.1 h
    obtain ⟨rfl, -⟩ := Reader.pure_eq_ok.1 h
    obtain ⟨es, rfl, hlen, hes⟩ := of_readEntries_eq_ok htable
    have hsize : ((#[.continuation] : Array Entry) ++ (es.flatMap Entry.places).toArray).size =
        n + 1 := by
      simp [hlen]
    exact ⟨es, by simp [ofEntries], hes, hsize.trans hn.symm, hsize ▸ hlt⟩

end PoolTable

/-! ### Look-ups that have succeeded -/

theorem bind_eq_ok_iff {α β : Type} {x : Except ActivationError α}
    {f : α → Except ActivationError β} {b : β} :
    x >>= f = .ok b ↔ ∃ a, x = .ok a ∧ f a = .ok b := by
  cases x with
  | error e => simp [bind, Except.bind]
  | ok a => simp [bind, Except.bind]

/-! ### Roles -/

/-- What an entry stands for once its references are followed. -/
inductive Role where
  | constant (c : Constant)
  | nameAndType
  | methodRef
  deriving DecidableEq

/-- How many places an entry in the role takes. -/
def Role.width : Role → Nat
  | .constant (.long _) | .constant (.double _) => 2
  | _ => 1

theorem Role.width_constant (c : Constant) : (Role.constant c).width = c.width := by
  cases c <;> rfl

namespace PoolTable

variable {t : PoolTable} {e : Entry} {r : Role} {i : Nat} {s : String}

/-- The role of an entry. A continuation has none, and neither has a class or a string whose text is
missing. -/
def role? (t : PoolTable) : Entry → Option Role
  | .text s => some (.constant (.text s))
  | .classRef i => (t.text i).toOption.map fun s => .constant (.classRef s)
  | .string i => (t.text i).toOption.map fun s => .constant (.string s)
  | .int n => some (.constant (.int n))
  | .long n => some (.constant (.long n))
  | .double bits => some (.constant (.double bits))
  | .nameAndType _ _ => some .nameAndType
  | .methodRef _ _ => some .methodRef
  | .continuation => none

/-- The roles that are played in a table. -/
def roles (t : PoolTable) : List Role := t.entries.toList.filterMap t.role?

theorem width_le_of_role? (h : t.role? e = some r) : r.width ≤ e.places.length := by
  cases e <;> simp only [role?, Option.map_eq_some_iff, Option.some.injEq, reduceCtorEq] at h <;>
    first
      | (subst h; exact Nat.le_refl _)
      | (obtain ⟨s, -, rfl⟩ := h; exact Nat.le_refl _)

@[simp] theorem role?_continuation (t : PoolTable) : t.role? .continuation = none := rfl

theorem filterMap_role?_places (t : PoolTable) (e : Entry) :
    e.places.filterMap t.role? = (t.role? e).toList := by
  unfold Entry.places
  split
  · rw [List.filterMap_cons, List.filterMap_cons, role?_continuation]
    cases t.role? e <;> rfl
  · rw [List.filterMap_cons]
    cases t.role? e <;> rfl

theorem sum_width_filterMap_le (t : PoolTable) (es : List Entry) :
    (((es.flatMap Entry.places).filterMap t.role?).map Role.width).sum ≤
      (es.flatMap Entry.places).length := by
  induction es with
  | nil => simp
  | cons e es ih =>
    have hone : ((t.role? e).toList.map Role.width).sum ≤ e.places.length := by
      cases hr : t.role? e with
      | none => simp
      | some r => simpa using width_le_of_role? hr
    rw [List.flatMap_cons, List.filterMap_append, List.map_append, List.sum_append,
      List.length_append, filterMap_role?_places]
    omega

theorem sum_width_roles_lt (es : List Entry) :
    ((ofEntries es).roles.map Role.width).sum < (ofEntries es).entries.size := by
  have hle := sum_width_filterMap_le (ofEntries es) es
  have hroles : (ofEntries es).roles = (es.flatMap Entry.places).filterMap (ofEntries es).role? := by
    rw [roles]
    show (Entry.continuation :: es.flatMap Entry.places).filterMap _ = _
    rw [List.filterMap_cons, role?_continuation]
  have hsize : (ofEntries es).entries.size = (es.flatMap Entry.places).length + 1 := by
    simp [ofEntries]
  rw [hroles, hsize]
  omega

theorem get_eq_ok (h : t.get i = .ok e) : t.entries[i]? = some e := by
  unfold get at h
  split at h
  · cases h
  · rename_i e' _ he
    cases h
    exact he
  · cases h

theorem mem_roles (h : t.get i = .ok e) (hr : t.role? e = some r) : r ∈ t.roles := by
  rw [roles, List.mem_filterMap]
  exact ⟨e, List.mem_of_getElem? (by simpa using get_eq_ok h), hr⟩

theorem text_eq_ok : t.text i = .ok s ↔ t.get i = .ok (.text s) := by
  unfold text
  cases h : t.get i with
  | error e => simp
  | ok e => cases e <;> simp

theorem mem_roles_of_text (h : t.text i = .ok s) : .constant (.text s) ∈ t.roles :=
  mem_roles (text_eq_ok.1 h) rfl

theorem className_eq_ok :
    t.className i = .ok s ↔ ∃ name, t.get i = .ok (.classRef name) ∧ t.text name = .ok s := by
  unfold className
  cases h : t.get i with
  | error e => simp
  | ok e => cases e <;> simp

theorem mem_roles_of_className (h : t.className i = .ok s) : .constant (.classRef s) ∈ t.roles := by
  obtain ⟨name, hclass, hname⟩ := className_eq_ok.1 h
  refine mem_roles hclass ?_
  rw [role?, hname]
  rfl

/-- A class or a string that plays its role has its text. -/
theorem mem_roles_of_closure {c k : Constant} (hc : .constant c ∈ t.roles) (hk : k ∈ c.closure) :
    .constant k ∈ t.roles := by
  have htext : ∀ i s, (t.text i).toOption = some s → Role.constant (.text s) ∈ t.roles := by
    intro i s h
    cases ht : t.text i with
    | error e =>
      rw [ht] at h
      cases h
    | ok s' =>
      rw [ht] at h
      cases h
      exact mem_roles_of_text ht
  by_cases hkc : k = c
  · exact hkc ▸ hc
  · obtain ⟨e, -, he⟩ := List.mem_filterMap.1 hc
    cases e with
    | classRef i | string i =>
      obtain ⟨s, hs, hc⟩ := Option.map_eq_some_iff.1 he
      cases hc
      simp only [Constant.closure, List.mem_cons, hkc, List.not_mem_nil, or_false] at hk
      exact hk ▸ htext i s hs
    | nameAndType | methodRef | continuation => cases he
    | _ =>
      cases he
      simp only [Constant.closure, List.mem_singleton] at hk
      exact absurd hk hkc

/-- A table in which everything that an initializer refers to plays its role. -/
structure HasInitializer (t : PoolTable) : Prop where
  name : .constant (.text initName) ∈ t.roles
  type : .constant (.text initDescriptor) ∈ t.roles
  nameAndType : .nameAndType ∈ t.roles
  methodRef : .methodRef ∈ t.roles

/-! ### Constants -/

theorem ofNat_charOf? {n : Int32} {c : Char} (h : charOf? n.toInt = some c) :
    Int32.ofNat c.toNat = n := by
  unfold charOf? at h
  by_cases hn : 0 ≤ n.toInt ∧ n.toInt.toNat.isValidChar
  · rw [dif_pos hn] at h
    cases h
    have hchar : (Char.ofNatAux n.toInt.toNat hn.2).toNat = n.toInt.toNat := rfl
    have hlt := n.toInt_lt
    rw [hchar, ← Int32.toInt_inj, Int32.toInt_ofNat_of_lt (by omega), Int.toNat_of_nonneg hn.1]
  · rw [dif_neg hn] at h
    cases h

theorem toInt32_toInt16 {n : Int32} (h : -32768 ≤ n.toInt ∧ n.toInt ≤ 32767) :
    n.toInt16.toInt32 = n := by
  rw [← Int32.toInt_inj, Int16.toInt_toInt32, Int32.toInt_toInt16]
  exact Int.bmod_eq_of_le (by omega) (by omega)

theorem toInt32_toInt8 {n : Int32} (h : -128 ≤ n.toInt ∧ n.toInt ≤ 127) :
    n.toInt8.toInt32 = n := by
  rw [← Int32.toInt_inj, Int8.toInt_toInt32, Int32.toInt_toInt8]
  exact Int.bmod_eq_of_le (by omega) (by omega)

/-- A constant that is read as a value plays the role of that value's constant. -/
theorem of_constant_eq_ok {kind : Kind} {name : String} {v : Value}
    (h : t.constant i kind name = .ok v) :
    v.kind = kind ∧ ∀ c, constantOf? v = some c → .constant c ∈ t.roles := by
  replace h := bind_eq_ok_iff.1 h
  obtain ⟨e, hg, h⟩ := h
  -- the entry plays the role of the constant of the value that it is read as
  have hrole : ∀ {v : Value} {c : Constant}, constantOf? v = some c →
      t.role? e = some (.constant c) →
      ∀ c', constantOf? v = some c' → .constant c' ∈ t.roles := by
    intro v c hc hr c' hc'
    obtain rfl : c = c' := Option.some.inj (hc.symm.trans hc')
    exact mem_roles hg hr
  split at h
  case h_1 text =>
    obtain ⟨s, ht, h⟩ := bind_eq_ok_iff.1 h
    cases h
    refine ⟨rfl, hrole rfl ?_⟩
    rw [role?, ht]
    rfl
  case h_3 n =>
    split at h
    · rename_i hn
      cases h
      refine ⟨rfl, hrole rfl ?_⟩
      rw [role?, toInt32_toInt16 hn]
    · cases h
  case h_4 n =>
    split at h
    · rename_i hn
      cases h
      refine ⟨rfl, hrole rfl ?_⟩
      rw [role?, toInt32_toInt8 hn]
    · cases h
  case h_5 n =>
    cases hn : charOf? n.toInt with
    | none =>
      rw [hn] at h
      cases h
    | some ch =>
      rw [hn] at h
      cases h
      refine ⟨rfl, hrole rfl ?_⟩
      rw [role?, ofNat_charOf? hn]
  case h_9 => cases h
  all_goals
    cases h
    exact ⟨rfl, hrole rfl rfl⟩

end PoolTable

/-! ### Methods as read -/

theorem descriptor_of_kindOfDescriptor? {d : String} {k : Kind} (h : kindOfDescriptor? d = some k) :
    d = descriptor k := by
  have := List.find?_some h
  exact (beq_iff_eq.1 this).symm

namespace RawMethod

variable {t : PoolTable} {raw : RawMethod} {v : Value} {c d : Cursor}

/-- A method is decoded to a boolean or to a constant of the kind that its descriptor names. -/
theorem decode_cases (h : raw.decode t = .ok v) :
    ∃ kind, kindOfDescriptor? raw.type = some kind ∧
      ((kind = .bool ∧ ∃ b, v = .bool b) ∨ ∃ i, t.constant i kind raw.name = .ok v) := by
  unfold decode at h
  cases hk : kindOfDescriptor? raw.type with
  | none =>
    rw [hk] at h
    cases h
  | some kind =>
    have hret : ∀ {last : UInt8} {w : Value}, (if last = returnOpcode kind then .ok w else
        .error (.badInstructions raw.name raw.code) : Except ActivationError Value) = .ok v →
        w = v := by
      intro last w h
      split at h
      · exact Except.ok.inj h
      · cases h
    have hconst : ∀ {i : Nat} {last : UInt8}, (t.constant i kind raw.name >>= fun w =>
        if last = returnOpcode kind then .ok w else
        .error (.badInstructions raw.name raw.code) : Except ActivationError Value) = .ok v →
        t.constant i kind raw.name = .ok v := by
      intro i last h
      obtain ⟨w, hc, h⟩ := bind_eq_ok_iff.1 h
      rw [hc, hret h]
    refine ⟨kind, rfl, ?_⟩
    rw [hk] at h
    simp only at h
    split at h
    · split at h
      · rename_i hb
        exact Or.inl ⟨hb.2, false, (hret h).symm⟩
      · split at h
        · rename_i hb
          exact Or.inl ⟨hb.2, true, (hret h).symm⟩
        · cases h
    · split at h
      · exact Or.inr ⟨_, hconst h⟩
      · cases h
    · split at h
      · exact Or.inr ⟨_, hconst h⟩
      · cases h
    · cases h

/-- A method that is decoded to a value has the descriptor of the value's kind and, if the value needs
a constant, has found it. -/
theorem of_decode_eq_ok (h : raw.decode t = .ok v) :
    raw.type = descriptor v.kind ∧ ∀ c, constantOf? v = some c → .constant c ∈ t.roles := by
  obtain ⟨kind, hk, ⟨rfl, b, rfl⟩ | ⟨i, hi⟩⟩ := decode_cases h
  · refine ⟨descriptor_of_kindOfDescriptor? hk, fun c hc => ?_⟩
    cases hc
  · obtain ⟨rfl, hrole⟩ := PoolTable.of_constant_eq_ok hi
    exact ⟨descriptor_of_kindOfDescriptor? hk, hrole⟩

/-- A method whose name, descriptor and label are texts of the table. -/
structure Named (t : PoolTable) (raw : RawMethod) : Prop where
  name : .constant (.text raw.name) ∈ t.roles
  type : .constant (.text raw.type) ∈ t.roles
  label : .constant (.text codeName) ∈ t.roles

theorem of_read_eq_ok (h : read t c = .ok raw d) : raw.Named t := by
  unfold read at h
  obtain ⟨-, c₁, -, h⟩ := Reader.bind_eq_ok.1 h
  obtain ⟨i, c₂, -, h⟩ := Reader.bind_eq_ok.1 h
  obtain ⟨name, c₃, hname, h⟩ := Reader.bind_eq_ok.1 h
  obtain ⟨j, c₄, -, h⟩ := Reader.bind_eq_ok.1 h
  obtain ⟨type, c₅, htype, h⟩ := Reader.bind_eq_ok.1 h
  obtain ⟨attributes, c₆, -, h⟩ := Reader.bind_eq_ok.1 h
  obtain ⟨-, c₇, -, h⟩ := Reader.bind_eq_ok.1 h
  obtain ⟨k, c₈, -, h⟩ := Reader.bind_eq_ok.1 h
  obtain ⟨label, c₉, hlabel, h⟩ := Reader.bind_eq_ok.1 h
  obtain ⟨_, c₁₀, hcode, h⟩ := Reader.bind_eq_ok.1 h
  obtain ⟨outer, c₁₁, -, h⟩ := Reader.bind_eq_ok.1 h
  obtain ⟨-, c₁₂, -, h⟩ := Reader.bind_eq_ok.1 h
  obtain ⟨-, c₁₃, -, h⟩ := Reader.bind_eq_ok.1 h
  obtain ⟨inner, c₁₄, -, h⟩ := Reader.bind_eq_ok.1 h
  obtain ⟨-, c₁₅, -, h⟩ := Reader.bind_eq_ok.1 h
  obtain ⟨code, c₁₆, -, h⟩ := Reader.bind_eq_ok.1 h
  obtain ⟨handlers, c₁₇, -, h⟩ := Reader.bind_eq_ok.1 h
  obtain ⟨nested, c₁₈, -, h⟩ := Reader.bind_eq_ok.1 h
  obtain ⟨-, c₁₉, -, h⟩ := Reader.bind_eq_ok.1 h
  obtain ⟨rfl, -⟩ := Reader.pure_eq_ok.1 h
  obtain rfl : label = codeName := by simpa using (Reader.ensure_eq_ok.1 hcode).1
  exact ⟨PoolTable.mem_roles_of_text (Reader.look_eq_ok.1 hname).1,
    PoolTable.mem_roles_of_text (Reader.look_eq_ok.1 htype).1,
    PoolTable.mem_roles_of_text (Reader.look_eq_ok.1 hlabel).1⟩

/-- **When an initializer passes its check**: it calls what the table names as the initializer of the super
type. -/
theorem checkInitializer_eq_ok_iff {superIndex : Nat} :
    raw.checkInitializer t superIndex = .ok () ↔ raw.type = initDescriptor ∧
      ∃ high low target name type, raw.code = [opSelf, opInvoke, high, low, opReturn] ∧
        ofBytes [high, low] ≠ unpatchedIndex ∧
        t.get (ofBytes [high, low]) = .ok (.methodRef superIndex target) ∧
        t.get target = .ok (.nameAndType name type) ∧
        t.text name = .ok initName ∧ t.text type = .ok initDescriptor := by
  constructor
  · intro h
    unfold checkInitializer at h
    by_cases htype : raw.type ≠ initDescriptor
    · rw [if_pos htype] at h
      cases h
    rw [if_neg htype] at h
    split at h
    case h_2 => cases h
    rename_i a b high low r hcode
    by_cases hops : a ≠ opSelf ∨ b ≠ opInvoke ∨ r ≠ opReturn
    · rw [if_pos hops] at h
      cases h
    rw [if_neg hops] at h
    by_cases hpatched : ofBytes [high, low] = unpatchedIndex
    · simp only [if_pos hpatched] at h
      cases h
    simp only [if_neg hpatched] at h
    -- the reference, what it refers to, and the two texts are looked up one after the other
    obtain ⟨e, href, h⟩ := bind_eq_ok_iff.1 h
    split at h
    case h_2 => cases h
    rename_i classIndex target
    by_cases hclass : classIndex ≠ superIndex
    · rw [if_pos hclass] at h
      cases h
    rw [if_neg hclass] at h
    obtain ⟨e, htarget, h⟩ := bind_eq_ok_iff.1 h
    split at h
    case h_2 => cases h
    rename_i name type
    obtain ⟨n, hname, h⟩ := bind_eq_ok_iff.1 h
    by_cases hinit : n ≠ initName
    · rw [if_pos hinit] at h
      cases h
    rw [if_neg hinit] at h
    obtain ⟨d, hdescriptor, h⟩ := bind_eq_ok_iff.1 h
    by_cases hd : d ≠ initDescriptor
    · rw [if_pos hd] at h
      cases h
    simp only [ne_eq, not_or, not_not] at htype hops hclass hinit hd
    obtain ⟨rfl, rfl, rfl⟩ := hops
    subst hclass hinit hd
    exact ⟨htype, high, low, target, name, type, hcode, hpatched, href, htarget, hname, hdescriptor⟩
  · rintro ⟨htype, high, low, target, name, type, hcode, hpatched, href, htarget, hname, hdescriptor⟩
    simp [checkInitializer, htype, hcode, hpatched, href, htarget, hname, hdescriptor, bind,
      Except.bind]

/-- An initializer that passes the check has found everything that its reference leads to. -/
theorem of_checkInitializer_eq_ok {superIndex : Nat}
    (h : raw.checkInitializer t superIndex = .ok ()) : t.HasInitializer := by
  obtain ⟨-, high, low, target, name, type, -, -, href, htarget, hname, hdescriptor⟩ :=
    checkInitializer_eq_ok_iff.1 h
  exact ⟨PoolTable.mem_roles_of_text hname, PoolTable.mem_roles_of_text hdescriptor,
    PoolTable.mem_roles htarget rfl, PoolTable.mem_roles href rfl⟩

end RawMethod

theorem of_readMethods_eq_ok {t : PoolTable} {n : Nat} {ms acc : List RawMethod} {c d : Cursor}
    (h : readMethods t n acc c = .ok ms d) :
    ∃ new, ms = acc.reverse ++ new ∧ new.length = n ∧ ∀ raw ∈ new, raw.Named t := by
  induction n generalizing acc c with
  | zero =>
    obtain ⟨rfl, -⟩ := Reader.pure_eq_ok.1 h
    exact ⟨[], by simp⟩
  | succ n ih =>
    cases hm : RawMethod.read t c with
    | error e c₁ => simp [readMethods, hm] at h
    | ok raw c₁ =>
      simp only [readMethods, hm] at h
      obtain ⟨new, rfl, rfl, hnew⟩ := ih h
      refine ⟨raw :: new, by simp, rfl, ?_⟩
      exact List.forall_mem_cons.2 ⟨RawMethod.of_read_eq_ok hm, hnew⟩

/-! ### Modules as read -/

theorem of_readInterface_eq_ok {t : PoolTable} {c d : Cursor} {interface : Option String}
    (h : readInterface t c = .ok interface d) :
    ∀ name, interface = some name → .constant (.classRef name) ∈ t.roles := by
  unfold readInterface at h
  obtain ⟨n, c₁, -, h⟩ := Reader.bind_eq_ok.1 h
  split at h
  · obtain ⟨rfl, -⟩ := Reader.pure_eq_ok.1 h
    simp
  · obtain ⟨i, c₂, -, h⟩ := Reader.bind_eq_ok.1 h
    obtain ⟨name, c₃, hname, h⟩ := Reader.bind_eq_ok.1 h
    obtain ⟨rfl, -⟩ := Reader.pure_eq_ok.1 h
    rintro name ⟨⟩
    exact PoolTable.mem_roles_of_className (Reader.look_eq_ok.1 hname).1
  · exact (Reader.throw_ne_ok h).elim

namespace Skeleton

/-- A skeleton all of whose parts are found in a table that was read. -/
structure Found (sk : Skeleton) (count : Nat) : Prop where
  table : ∃ es, sk.table = .ofEntries es ∧ ∀ e ∈ es, e.Writable
  size : sk.table.entries.size = count
  size_lt : count < 65536
  type : .constant (.classRef sk.typeName) ∈ sk.table.roles
  super : .constant (.classRef superName) ∈ sk.table.roles
  interface : ∀ name, sk.interface = some name → .constant (.classRef name) ∈ sk.table.roles
  methods : ∀ raw ∈ sk.methods, raw.Named sk.table
  methods_lt : sk.methods.length < 65536

theorem of_readParts_eq_ok {c d : Cursor} {sk : Skeleton} (h : readParts c = .ok sk d) :
    sk.Found (ofBytes ((c.rest.drop 8).take 2)) := by
  unfold readParts at h
  obtain ⟨found, c₁, hfound, h⟩ := Reader.bind_eq_ok.1 h
  obtain ⟨_, c₂, hmagic, h⟩ := Reader.bind_eq_ok.1 h
  obtain ⟨minor, c₃, hminor, h⟩ := Reader.bind_eq_ok.1 h
  obtain ⟨major, c₄, hmajor, h⟩ := Reader.bind_eq_ok.1 h
  obtain ⟨_, c₅, hversion, h⟩ := Reader.bind_eq_ok.1 h
  obtain ⟨table, c₆, htable, h⟩ := Reader.bind_eq_ok.1 h
  obtain ⟨-, c₇, -, h⟩ := Reader.bind_eq_ok.1 h
  obtain ⟨thisIndex, c₈, -, h⟩ := Reader.bind_eq_ok.1 h
  obtain ⟨typeName, c₉, htype, h⟩ := Reader.bind_eq_ok.1 h
  obtain ⟨superIndex, c₁₀, -, h⟩ := Reader.bind_eq_ok.1 h
  obtain ⟨superType, c₁₁, hsuper, h⟩ := Reader.bind_eq_ok.1 h
  obtain ⟨_, c₁₂, hsuperName, h⟩ := Reader.bind_eq_ok.1 h
  obtain ⟨interface, c₁₃, hinterface, h⟩ := Reader.bind_eq_ok.1 h
  obtain ⟨fields, c₁₄, -, h⟩ := Reader.bind_eq_ok.1 h
  obtain ⟨-, c₁₅, -, h⟩ := Reader.bind_eq_ok.1 h
  obtain ⟨count, c₁₆, hcount, h⟩ := Reader.bind_eq_ok.1 h
  obtain ⟨methods, c₁₇, hmethods, h⟩ := Reader.bind_eq_ok.1 h
  obtain ⟨attributes, c₁₈, -, h⟩ := Reader.bind_eq_ok.1 h
  obtain ⟨-, c₁₉, -, h⟩ := Reader.bind_eq_ok.1 h
  obtain ⟨rfl, -⟩ := Reader.pure_eq_ok.1 h
  -- the table is read eight bytes after the beginning
  obtain ⟨-, -, rfl⟩ := Reader.number_eq_ok.1 hfound
  obtain ⟨-, rfl⟩ := Reader.ensure_eq_ok.1 hmagic
  obtain ⟨-, -, rfl⟩ := Reader.number_eq_ok.1 hminor
  obtain ⟨-, -, rfl⟩ := Reader.number_eq_ok.1 hmajor
  obtain ⟨-, rfl⟩ := Reader.ensure_eq_ok.1 hversion
  obtain ⟨es, hes, hwritable, hsize, hlt⟩ := PoolTable.of_read_eq_ok htable
  simp only [List.drop_drop] at hsize
  obtain ⟨new, rfl, hlen, hnamed⟩ := of_readMethods_eq_ok hmethods
  obtain rfl : superType = superName := by simpa using (Reader.ensure_eq_ok.1 hsuperName).1
  exact
    { table := ⟨es, hes, hwritable⟩
      size := hsize
      size_lt := hsize ▸ hlt
      type := PoolTable.mem_roles_of_className (Reader.look_eq_ok.1 htype).1
      super := PoolTable.mem_roles_of_className (Reader.look_eq_ok.1 hsuper).1
      interface := of_readInterface_eq_ok hinterface
      methods := by simpa using hnamed
      methods_lt := by simpa [hlen] using Reader.u16_lt hcount }

end Skeleton

end TypedConfig.Module
