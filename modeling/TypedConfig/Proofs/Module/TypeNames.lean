import Mathlib.Data.List.Nodup
import TypedConfig.Module.Sequence
import TypedConfig.Proofs.Decimal.Numerals
import TypedConfig.Proofs.Module.Activation
import TypedConfig.Proofs.Module.Names
import TypedConfig.Proofs.Module.RoundTrip

/-!
The type names of assembled modules. A name ends in its number, which is read back whatever contract stands
before it (`synthesizedName_inj`), and so does the name of its dump file (`dumpName_inj`). The calls of a
factory have different numbers as long as 64 bits are enough to count them, so neither their names nor
their dump files collide (`typeNames_nodup`).
-/

namespace TypedConfig.Module

open Contract (Descriptor)
open Decimal (Digits)
open Resolution (Binding)

/-! ### Numbers at the ends of names -/

/-- A text that ends in a number after the letter of its mark. -/
def EndsIn (n : Nat) (cs : List Char) : Prop := ∃ front, cs = front ++ 'G' :: Decimal.ofNat n

section EndsIn

variable {m n : Nat} {cs : List Char}

/-- The digits that a text ends in go back to the last character that is no digit. -/
theorem takeWhile_reverse_digits (front : List Char) {ds : List Char} (hds : Digits ds) :
    (front ++ 'G' :: ds).reverse.takeWhile Char.isDigit = ds.reverse := by
  have hreverse : Digits ds.reverse := fun c hc => hds c (List.mem_reverse.1 hc)
  -- in the reverse the mark is what ends the digits, whatever stands before it
  have hmark : ∀ c ∈ ('G' :: front.reverse).head?, c.isDigit = false := by
    rintro c ⟨⟩
    rfl
  rw [List.reverse_append, List.reverse_cons, List.append_assoc, List.singleton_append]
  exact (Decimal.takeWhile_digits hreverse hmark).1

/-- **A text ends in one number only.** -/
theorem EndsIn.unique (hm : EndsIn m cs) (hn : EndsIn n cs) : m = n := by
  obtain ⟨front, rfl⟩ := hm
  obtain ⟨front', heq⟩ := hn
  have hdigits := congrArg (fun cs : List Char => cs.reverse.takeWhile Char.isDigit) heq
  simp only [takeWhile_reverse_digits _ (Decimal.digits_ofNat _), List.reverse_inj] at hdigits
  calc m = Decimal.digitsValue (Decimal.ofNat m) := (Decimal.digitsValue_ofNat m).symm
    _ = Decimal.digitsValue (Decimal.ofNat n) := by rw [hdigits]
    _ = n := Decimal.digitsValue_ofNat n

theorem endsIn_synthesizedName (contract : String) (n : Nat) :
    EndsIn n (synthesizedName contract n).toList := by
  refine ⟨internalChars contract.toList ++ ['$', 'C'], ?_⟩
  simp [synthesizedName, toList_internalName]

end EndsIn

/-- **Names of different numbers differ**, whatever their contracts. -/
theorem synthesizedName_inj {contract contract' : String} {m n : Nat}
    (h : synthesizedName contract m = synthesizedName contract' n) : m = n := by
  have hm := endsIn_synthesizedName contract m
  rw [h] at hm
  exact hm.unique (endsIn_synthesizedName contract' n)

/-! ### Dump files -/

section DumpFiles

variable {m n : Nat} {cs : List Char}

/-- A type name in a file name: points stand for the slashes. -/
def pointed (cs : List Char) : List Char := cs.map fun c => if c = '/' then '.' else c

theorem toList_dumpName (typeName : String) :
    (dumpName typeName).toList = pointed typeName.toList ++ ".class".toList := by
  rw [dumpName, String.toList_append, String.toList_ofList]
  rfl

theorem slash_notMem_dumpName (typeName : String) : '/' ∉ (dumpName typeName).toList := by
  have hpointed : '/' ∉ pointed typeName.toList := by
    intro hmem
    obtain ⟨c, -, hc⟩ := List.mem_map.1 hmem
    split at hc
    · cases hc
    · contradiction
  rw [toList_dumpName, List.mem_append, not_or]
  exact ⟨hpointed, by decide⟩

theorem EndsIn.pointed (h : EndsIn n cs) : EndsIn n (pointed cs) := by
  obtain ⟨front, rfl⟩ := h
  have hdigits : Module.pointed (Decimal.ofNat n) = Decimal.ofNat n := by
    have hslash : ∀ c ∈ Decimal.ofNat n, c ≠ '/' := by
      rintro c hc rfl
      exact absurd (Decimal.digits_ofNat n _ hc) (by decide)
    calc Module.pointed (Decimal.ofNat n) = (Decimal.ofNat n).map id :=
          List.map_congr_left fun c hc => if_neg (hslash c hc)
      _ = Decimal.ofNat n := List.map_id _
  refine ⟨Module.pointed front, ?_⟩
  conv_rhs => rw [← hdigits]
  simp [Module.pointed]

/-- **The dump files of different numbers have different names.** -/
theorem dumpName_inj {contract contract' : String} {m n : Nat}
    (h : dumpName (synthesizedName contract m) = dumpName (synthesizedName contract' n)) : m = n := by
  have hlists := congrArg String.toList h
  rw [toList_dumpName, toList_dumpName] at hlists
  have hm := (endsIn_synthesizedName contract m).pointed
  rw [List.append_cancel_right hlists] at hm
  exact hm.unique (endsIn_synthesizedName contract' n).pointed

/-- A dump file stands in the directory itself, so another name is another file. -/
theorem join_dumpName_inj {directory : Path} {typeName typeName' : String}
    (h : directory.join ⟨dumpName typeName⟩ = directory.join ⟨dumpName typeName'⟩) :
    dumpName typeName = dumpName typeName' := by
  have hrelative : ∀ t, Path.isAbsolute ⟨dumpName t⟩ = false := by
    intro t
    refine beq_eq_false_iff_ne.2 fun hhead => slash_notMem_dumpName t ?_
    exact List.mem_of_head? hhead
  rw [Path.join, Path.join, hrelative, hrelative] at h
  simp only [Bool.false_eq_true, if_false] at h
  split at h
  · simpa using h
  · simpa using h

end DumpFiles

/-! ### Runs of a factory -/

section Production

variable {n : Nat} {d : Descriptor} {b : Binding}

/-- A call assembles no module, or one of its own name. -/
theorem production_cases (n : Nat) (d : Descriptor) (b : Binding) :
    (∃ e, production n d b = ⟨synthesizedName d.typeName n, none, .error e⟩) ∨
      ∃ bytes, (contentsOf (synthesizedName d.typeName n) d b).assemble = .ok bytes ∧
        production n d b = ⟨synthesizedName d.typeName n, some ⟨synthesizedName d.typeName n, bytes⟩,
          Assembled.load ⟨synthesizedName d.typeName n, bytes⟩ d⟩ := by
  cases h : (contentsOf (synthesizedName d.typeName n) d b).assemble with
  | error e =>
    refine .inl ⟨.build e, ?_⟩
    simp only [production, Factory.produce, assembleFor, h]
  | ok bytes =>
    refine .inr ⟨bytes, rfl, ?_⟩
    simp only [production, Factory.produce, assembleFor, h]

theorem typeName_of_assembled {m : Assembled} (h : (production n d b).assembled = some m) :
    m.typeName = (production n d b).typeName := by
  rcases production_cases n d b with ⟨e, heq⟩ | ⟨bytes, -, heq⟩
  · rw [heq] at h
    cases h
  · rw [heq] at h ⊢
    cases h
    rfl

theorem exists_parse_of_activate {bytes : List UInt8} {loaded : Loaded}
    (h : activate bytes d = .ok loaded) :
    ∃ p, Contents.parse bytes = .ok p ∧ loaded.typeName = p.typeName := by
  cases hparse : Contents.parse bytes with
  | error e =>
    rw [activate_eq_error d hparse] at h
    cases h
  | ok p =>
    refine ⟨p, rfl, ?_⟩
    rw [activate, hparse] at h
    change (if p.interface ≠ some (internalName d.typeName) then _ else _) = _ at h
    split at h
    · cases h
    · cases hslots : matchSlots p.slots d.accessors with
      | error e =>
        rw [hslots] at h
        cases h
      | ok slots =>
        rw [hslots] at h
        cases h
        rfl

theorem typeName_of_outcome {loaded : Loaded} (h : (production n d b).outcome = .ok loaded) :
    loaded.typeName = (production n d b).typeName := by
  rcases production_cases n d b with ⟨e, heq⟩ | ⟨bytes, hbytes, heq⟩
  · rw [heq] at h
    cases h
  · rw [heq] at h ⊢
    change Assembled.load ⟨synthesizedName d.typeName n, bytes⟩ d = .ok loaded at h
    unfold Assembled.load at h
    split at h
    · rename_i l hactivate
      cases h
      obtain ⟨p, hparse, htype⟩ := exists_parse_of_activate hactivate
      rw [htype, (Contents.parse_assemble hbytes).2 p hparse]
      rfl
    · cases h

end Production

namespace Sequence

variable {s : Sequence} {calls : List (Descriptor × Binding)}

theorem produceAll_eq (h : s.taken.toNat + calls.length < 2 ^ 64) :
    s.produceAll calls =
      (calls.zipIdx (s.taken.toNat + 1)).map fun c => production c.2 c.1.1 c.1.2 := by
  induction calls generalizing s with
  | nil => rfl
  | cons c calls ih =>
    obtain ⟨d, b⟩ := c
    rw [List.length_cons] at h
    -- the number that is taken next does not wrap around
    have hnext : (s.taken + 1).toNat = s.taken.toNat + 1 := by
      rw [UInt64.toNat_add, UInt64.toNat_one, Nat.mod_eq_of_lt (by omega)]
    have hrest : (s.produce d b).2.produceAll calls =
        (calls.zipIdx (s.taken.toNat + 1 + 1)).map fun c => production c.2 c.1.1 c.1.2 := by
      have htaken : (s.produce d b).2.taken.toNat = s.taken.toNat + 1 := hnext
      rw [ih (by omega), htaken]
    rw [List.zipIdx_cons, List.map_cons, ← hrest, ← hnext]
    rfl

theorem produceAll_new (h : calls.length < 2 ^ 64) :
    new.produceAll calls = (calls.zipIdx 1).map fun c => production c.2 c.1.1 c.1.2 := by
  have hzero : new.taken.toNat = 0 := rfl
  rw [produceAll_eq (by omega), hzero]

/-- What is made of the type names in a way that keeps their numbers apart differs from call to call. -/
theorem nodup_map_produceAll {α : Type} {f : String → α}
    (hf : ∀ {contract contract' m n},
      f (synthesizedName contract m) = f (synthesizedName contract' n) → m = n)
    (h : calls.length < 2 ^ 64) : ((new.produceAll calls).map fun p => f p.typeName).Nodup := by
  have hnumbers : ((calls.zipIdx 1).map Prod.snd).Nodup := by
    rw [List.zipIdx_map_snd]
    exact List.nodup_range'
  rw [produceAll_new h, List.map_map]
  refine List.Nodup.map_on (fun c hc c' hc' heq => ?_) (List.Nodup.of_map _ hnumbers)
  exact List.inj_on_of_nodup_map hnumbers hc hc' (hf heq)

/-- **Type names never collide.** As long as the calls of a factory can be counted in 64 bits, the call of
number `n` takes the name of number `n`, whether it succeeds or fails; these names are pairwise distinct,
and so are the names of the dump files, in every directory. What is assembled, and what is loaded from it,
has the name that its call has taken. -/
theorem typeNames_nodup (calls : List (Descriptor × Binding)) (h : calls.length < 2 ^ 64) :
    new.produceAll calls = ((calls.zipIdx 1).map fun c => production c.2 c.1.1 c.1.2) ∧
    ((new.produceAll calls).map Production.typeName).Nodup ∧
    ((new.produceAll calls).map fun p => dumpName p.typeName).Nodup ∧
    (∀ directory : Path,
      ((new.produceAll calls).map fun p => directory.join ⟨dumpName p.typeName⟩).Nodup) ∧
    ∀ p ∈ new.produceAll calls, (∀ m, p.assembled = some m → m.typeName = p.typeName) ∧
      ∀ loaded, p.outcome = .ok loaded → loaded.typeName = p.typeName := by
  refine ⟨produceAll_new h, ?_, ?_, fun directory => ?_, fun p hp => ?_⟩
  · exact nodup_map_produceAll (f := id) synthesizedName_inj h
  · exact nodup_map_produceAll dumpName_inj h
  · have hpaths : ∀ {contract contract' m n},
        directory.join ⟨dumpName (synthesizedName contract m)⟩ =
          directory.join ⟨dumpName (synthesizedName contract' n)⟩ → m = n := fun heq =>
      dumpName_inj (join_dumpName_inj heq)
    exact nodup_map_produceAll (f := fun t => directory.join ⟨dumpName t⟩) hpaths h
  · rw [produceAll_new h] at hp
    obtain ⟨⟨⟨d, b⟩, n⟩, -, rfl⟩ := List.mem_map.1 hp
    exact ⟨fun m hm => typeName_of_assembled hm, fun loaded hl => typeName_of_outcome hl⟩

/-- Contracts that share an internal name, one of which is not activated, and a contract that is named like a
module of theirs. -/
def flagCalls : List (Descriptor × Binding) :=
  let binding (name : String) : Binding :=
    ⟨name, [⟨"flag", .bool, "f", "true", .bool true, true⟩], "f=true\n", none, false, []⟩
  [(⟨"app::Flags", "flags.properties", [⟨"flag", .bool, "f", "true"⟩]⟩, binding "app::Flags"),
    (⟨"app.Flags", "flags.properties", [⟨"flag", .char, "f", "true"⟩]⟩, binding "app.Flags"),
    (⟨"app::Flags$CG1", "flags.properties", [⟨"flag", .bool, "f", "true"⟩]⟩,
      binding "app::Flags$CG1")]

theorem typeNames_nodup_flags :
    (flagCalls.length < 2 ^ 64 ∧
      (new.produceAll flagCalls).map Production.typeName =
        ["app/Flags$CG1", "app/Flags$CG2", "app/Flags$CG1$CG3"] ∧
      (new.produceAll flagCalls).map (fun p => dumpName p.typeName) =
        ["app.Flags$CG1.class", "app.Flags$CG2.class", "app.Flags$CG1$CG3.class"] ∧
      (new.produceAll flagCalls).map (fun p => p.outcome.isOk) = [true, false, true]) ∧
    ((new.produceAll flagCalls).map Production.typeName).Nodup ∧
    ((new.produceAll flagCalls).map fun p => dumpName p.typeName).Nodup := by
  have hcount : flagCalls.length < 2 ^ 64 := by decide
  obtain ⟨-, hnames, hfiles, -⟩ := typeNames_nodup flagCalls hcount
  exact ⟨⟨hcount, by decide +kernel, by decide +kernel, by decide +kernel⟩, hnames, hfiles⟩

end Sequence

end TypedConfig.Module
