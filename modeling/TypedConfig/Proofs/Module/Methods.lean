import TypedConfig.Module.Assemble
import TypedConfig.Proofs.Module.Table

/-!
Methods on both sides. Every accessor that is written is decoded to the value that it was written for,
by whichever instruction its constant is reached (`exists_accessorCode`), and the initializer, once
its reference is filled in, passes the check (`checkInitializer_table`).
-/

namespace TypedConfig.Module

open Scalar (Kind Value)

/-! ### Values and their constants -/

theorem charOf?_toNat (c : Char) : charOf? (c.toNat : Int) = some c := by
  have hv : c.toNat.isValidChar := c.valid
  have h : (0 : Int) ≤ (c.toNat : Int) ∧ (c.toNat : Int).toNat.isValidChar :=
    ⟨Int.natCast_nonneg _, by simpa using hv⟩
  rw [charOf?, dif_pos h]
  exact congrArg some (Char.ext rfl)

namespace Layout

variable {l : Layout} (superType : String) {v : Value} {c : Constant}

theorem constant_table (hp : l.pool.Closed) (hv : constantOf? v = some c) (hc : l.pool.Holds c)
    (name : String) : (l.table superType).constant (l.index c) v.kind name = .ok v := by
  rw [PoolTable.constant, get_table superType hc]
  cases v with
  | text s =>
    cases hv
    show (do return Value.text (← (l.table superType).text (l.index (.text s)))) = _
    rw [text_table superType (hp s (Or.inr hc))]
    rfl
  | bool b => cases hv
  | int32 n => cases hv; rfl
  | int64 n => cases hv; rfl
  | float64 bits => cases hv; rfl
  | float32 bits =>
    cases hv
    show Except.ok (Value.float32 bits.toInt32.toUInt32) = _
    simp
  | int16 n =>
    cases hv
    have h1 := n.le_toInt
    have h2 := n.toInt_lt
    show (if -32768 ≤ n.toInt32.toInt ∧ n.toInt32.toInt ≤ 32767 then
      Except.ok (Value.int16 n.toInt32.toInt16) else _) = _
    rw [Int16.toInt_toInt32, if_pos (by omega), Int16.toInt16_toInt32]
  | byte n =>
    cases hv
    have h1 := n.le_toInt
    have h2 := n.toInt_lt
    show (if -128 ≤ n.toInt32.toInt ∧ n.toInt32.toInt ≤ 127 then
      Except.ok (Value.byte n.toInt32.toInt8) else _) = _
    rw [Int8.toInt_toInt32, if_pos (by omega), Int8.toInt8_toInt32]
  | char ch =>
    cases hv
    have hch := Text.toNat_char_lt ch
    have hn : (Int32.ofNat ch.toNat).toInt = (ch.toNat : Int) :=
      Int32.toInt_ofNat_of_lt (by omega)
    simp only [bind, Except.bind, entryOf, Scalar.Value.kind, hn, charOf?_toNat]
    rfl

/-! ### Accessors -/

theorem ofBytes_pair {i : Nat} (h : i < 65536) :
    ofBytes [(i / 256).toUInt8, i.toUInt8] = i := by
  have := ofBytes_be16 i
  rwa [Nat.mod_eq_of_lt h] at this

theorem accessorCode_of_constant (hv : constantOf? v = some c) (hc : l.pool.Holds c) :
    l.accessorCode v = .ok
      (if v.kind.isWide then opLoadWide :: (be16 (l.index c) ++ [returnOpcode v.kind])
      else if l.index c < 256 then opLoad :: (be8 (l.index c) ++ [returnOpcode v.kind])
      else opLoadLong :: (be16 (l.index c) ++ [returnOpcode v.kind])) := by
  have hr := require_eq hc v.display
  cases v with
  | bool b => cases hv
  | _ =>
    cases hv
    simp only [accessorCode, constantOf?, hr]
    rfl

/-- The instructions of a value are decoded to it. The cases are the three ways to load a constant
and the two booleans. -/
theorem exists_accessorCode (hp : l.pool.Closed)
    (hc : ∀ c, constantOf? v = some c → l.pool.Holds c) :
    ∃ code, l.accessorCode v = .ok code ∧ code.length ≤ 4 ∧
      ∀ name, (RawMethod.mk name (descriptor v.kind) code).decode (l.table superType) = .ok v := by
  cases hv : constantOf? v with
  | none =>
    obtain ⟨b, rfl⟩ : ∃ b, v = .bool b := by
      cases v <;> simp_all [constantOf?]
    cases b with
    | true => exact ⟨_, rfl, by decide, fun _ => rfl⟩
    | false => exact ⟨_, rfl, by decide, fun _ => rfl⟩
  | some c =>
    have hi := (index_lt (hc c hv)).trans count_lt
    have hk := constant_table superType hp hv (hc c hv)
    refine ⟨_, accessorCode_of_constant hv (hc c hv), ?_, fun name => ?_⟩
    · split
      · simp
      · split <;> simp [be8]
    · rw [RawMethod.decode, kindOfDescriptor?_descriptor]
      cases hw : v.kind.isWide with
      | true =>
        simp only [if_true, be16, List.cons_append, List.nil_append, ofBytes_pair hi, hk]
        rw [if_pos (by simp [hw])]
        rfl
      | false =>
        by_cases hs : l.index c < 256
        · simp only [hs, if_true, Bool.false_eq_true, if_false, be8, List.cons_append,
            List.nil_append, toNat_toUInt8 hs, hk]
          rw [if_pos (by simp [hw])]
          rfl
        · simp only [hs, Bool.false_eq_true, if_false, be16, List.cons_append, List.nil_append,
            ofBytes_pair hi, hk]
          rw [if_pos (by simp [hw])]
          rfl

/-! ### Whole methods -/

/-- A method of `n` bytes of code is read back from what is written around its code. -/
theorem exists_methodHead {name type : String} {n : Nat} (hname : l.pool.Holds (.text name))
    (htype : l.pool.Holds (.text type)) (hcode : l.pool.Holds (.text codeName))
    (hn : n + codeOverhead ≤ maxWord) :
    ∃ head, l.methodHead name type n = .ok head ∧ ∀ code, code.length = n →
      Reads (RawMethod.read (l.table superType)) (head ++ code ++ methodTail) ⟨name, type, code⟩ := by
  have hi : ∀ {s}, l.pool.Holds (.text s) → l.index (.text s) < 65536 := fun h =>
    (index_lt h).trans count_lt
  have hw : n + codeOverhead < 4294967296 := Nat.lt_succ_of_le hn
  refine ⟨_, by
    rw [methodHead, require_eq hname, require_eq htype, require_eq hcode]
    rfl, ?_⟩
  rintro code rfl
  simp only [List.append_assoc, methodTail]
  refine (Reads.u16 (by decide)).bind ?_
  refine (Reads.u16 (hi hname)).bind (.bind_nil (.look (text_table superType hname)) ?_)
  refine (Reads.u16 (hi htype)).bind (.bind_nil (.look (text_table superType htype)) ?_)
  refine (Reads.u16 (n := 1) (by decide)).bind (.bind_nil (.ensure (by simp) _) ?_)
  refine (Reads.u16 (hi hcode)).bind (.bind_nil (.look (text_table superType hcode)) ?_)
  refine .bind_nil (.ensure (by simp) _) ?_
  refine (Reads.u32 hw).bind ?_
  refine (Reads.u16 (by decide)).bind ?_
  refine (Reads.u16 (by decide)).bind ?_
  refine (Reads.u32 (Nat.lt_of_le_of_lt (Nat.le_add_right _ _) hw)).bind ?_
  refine .bind_nil (.ensure (by simp [Nat.min_eq_left hn]) _) ?_
  refine (Reads.take code).bind ?_
  refine (Reads.u16 (n := 0) (by decide)).bind ?_
  refine (Reads.u16 (n := 0) (by decide)).bind_last ?_
  exact .bind_nil (.ensure (by simp) _) (.pure _)

/-- **The method of a slot is read back and decoded to its value.** -/
theorem exists_method {s : Slot} (hp : l.pool.Closed) (hcode : l.pool.Holds (.text codeName))
    (hs : ∀ c ∈ s.constants, l.pool.Holds c) :
    ∃ bytes code, l.method s = .ok bytes ∧
      Reads (RawMethod.read (l.table superType)) bytes
        ⟨s.name, descriptor s.value.kind, code⟩ ∧
      (RawMethod.mk s.name (descriptor s.value.kind) code).decode (l.table superType) =
        .ok s.value := by
  have hname : l.pool.Holds (.text s.name) := hs _ (by simp [Slot.constants])
  have htype : l.pool.Holds (.text (descriptor s.value.kind)) := hs _ (by simp [Slot.constants])
  obtain ⟨code, hc, hlen, hdecode⟩ := exists_accessorCode (v := s.value) superType
    hp (fun c hc => hs c (by simp [Slot.constants, hc]))
  have hn : code.length + codeOverhead ≤ maxWord := by
    simp only [codeOverhead, maxWord]
    omega
  obtain ⟨head, hh, hread⟩ := exists_methodHead superType hname htype hcode hn
  refine ⟨head ++ code ++ methodTail, code, ?_, hread code rfl, hdecode s.name⟩
  rw [method, hc]
  show (do
    let head ← l.methodHead s.name (descriptor s.value.kind) code.length
    return head ++ code ++ methodTail) = _
  rw [hh]
  rfl

/-- **The initializer passes its check once its reference is filled in.** The reference is never the
open one, since the last index leaves room below it. -/
theorem checkInitializer_table (h : l.Complete superName) :
    (RawMethod.mk initName initDescriptor
      ([opSelf, opInvoke] ++ be16 l.methodRefIndex ++ [opReturn])).checkInitializer
        (l.table superName) (l.index (.classRef superName)) = .ok () := by
  have hcount := @count_lt l
  have href := get_methodRefIndex (l := l) superName
  have htarget := get_nameAndTypeIndex (l := l) superName
  have hi : ofBytes [(l.methodRefIndex / 256).toUInt8, l.methodRefIndex.toUInt8] =
      l.methodRefIndex := by
    simp only [count] at hcount
    exact ofBytes_pair (by simp only [methodRefIndex]; omega)
  have hopen : l.methodRefIndex ≠ unpatchedIndex := by
    simp only [count] at hcount
    simp only [methodRefIndex, unpatchedIndex]
    omega
  have hname := text_table superName h.init
  have htype := text_table superName h.initType
  rw [RawMethod.checkInitializer]
  simp only [be16, List.cons_append, List.nil_append, hi, if_neg hopen]
  simp only [href, htarget, hname, htype, bind, Except.bind, ne_eq, not_true, if_false]
  rfl

end Layout

end TypedConfig.Module
