import TypedConfig.Module.Format

/-!
Type names and their module form. Double colons and points both become slashes, and a slash is read back as
a double colon; so a name is read back as it was exactly if it has no point and no slash of its own
(`contractName_internalName_iff`).
-/

namespace TypedConfig.Module

variable {c : Char} {cs : List Char}

/-- How a character of a module type name is read back. -/
def contractChar (c : Char) : List Char := if c = '/' then [':', ':'] else [c]

theorem toList_contractName (internal : String) :
    (contractName internal).toList = internal.toList.flatMap contractChar := by
  rw [contractName, String.toList_ofList]
  rfl

theorem toList_internalName (typeName : String) :
    (internalName typeName).toList = internalChars typeName.toList := by
  rw [internalName, String.toList_ofList]

theorem point_notMem_internalChars (cs : List Char) : '.' ∉ internalChars cs := by
  fun_induction internalChars cs with
  | case1 cs ih => simpa using ih
  | case2 cs ih => simpa using ih
  | case3 c cs _ hpoint ih =>
    rw [List.mem_cons, not_or]
    exact ⟨fun hc => hpoint hc.symm, ih⟩
  | case4 => simp

/-- What is read back has no slashes, and points only where there were some. -/
theorem notMem_flatMap_contractChar (h : '.' ∉ cs) :
    '.' ∉ cs.flatMap contractChar ∧ '/' ∉ cs.flatMap contractChar := by
  have hchar : ∀ c ∈ cs, '.' ∉ contractChar c ∧ '/' ∉ contractChar c := by
    intro c hc
    unfold contractChar
    split
    · decide
    · rename_i hslash
      simp only [List.mem_singleton]
      exact ⟨fun hpoint => h (hpoint ▸ hc), Ne.symm hslash⟩
  simp only [List.mem_flatMap, not_exists, not_and]
  exact ⟨fun c hc => (hchar c hc).1, fun c hc => (hchar c hc).2⟩

/-- Without points and slashes of its own a name is read back as it was. -/
theorem flatMap_internalChars (hpoint : '.' ∉ cs) (hslash : '/' ∉ cs) :
    (internalChars cs).flatMap contractChar = cs := by
  fun_induction internalChars cs with
  | case1 cs ih =>
    simp only [List.mem_cons, not_or] at hpoint hslash
    rw [List.flatMap_cons, ih hpoint.2.2 hslash.2.2]
    rfl
  | case2 cs ih => simp at hpoint
  | case3 c cs _ _ ih =>
    simp only [List.mem_cons, not_or] at hpoint hslash
    rw [List.flatMap_cons, ih hpoint.2 hslash.2, contractChar, if_neg (Ne.symm hslash.1),
      List.singleton_append]
  | case4 => rfl

/-- **A name is read back as it was exactly if it has no point and no slash.** -/
theorem contractName_internalName_iff (typeName : String) :
    contractName (internalName typeName) = typeName ↔
      '.' ∉ typeName.toList ∧ '/' ∉ typeName.toList := by
  rw [← String.toList_inj, toList_contractName, toList_internalName]
  constructor
  · intro h
    have hback := notMem_flatMap_contractChar (point_notMem_internalChars typeName.toList)
    rwa [h] at hback
  · rintro ⟨hpoint, hslash⟩
    exact flatMap_internalChars hpoint hslash

example : contractName (internalName "a:::b::c") = "a:::b::c" := by decide

end TypedConfig.Module
