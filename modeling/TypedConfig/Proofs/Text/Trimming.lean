import TypedConfig.Text.Blank

/-!
Trimming. Every text is its trimmed part between two runs of blanks (`exists_surrounded`), and whatever has no
blank at its ends is the trimmed part of itself between runs of blanks (`trim_surrounded`).
-/

namespace TypedConfig.Text

/-- A run of blanks. -/
def Blanks (cs : List Char) : Prop := ∀ c ∈ cs, isBlank c = true

instance (cs : List Char) : Decidable (Blanks cs) :=
  List.decidableBAll (fun c : Char => isBlank c = true) cs

/-- A text that neither starts nor ends with a blank. -/
structure Tight (cs : List Char) : Prop where
  first : ∃ c rest, cs = c :: rest ∧ isBlank c = false
  last : ∃ front c, cs = front ++ [c] ∧ isBlank c = false

variable {cs before after : List Char}

theorem blanks_nil : Blanks [] := fun _ h => absurd h List.not_mem_nil

theorem blanks_takeWhile (cs : List Char) : Blanks (cs.takeWhile isBlank) :=
  List.all_eq_true.1 List.all_takeWhile

theorem Blanks.reverse (h : Blanks cs) : Blanks cs.reverse := fun c hc => h c (List.mem_reverse.1 hc)

theorem trim_surrounded (h : Tight cs) (hbefore : Blanks before) (hafter : Blanks after) :
    trim (before ++ cs ++ after) = cs := by
  have hstart : trimStart (before ++ cs ++ after) = cs ++ after := by
    obtain ⟨c, rest, rfl, hc⟩ := h.first
    rw [trimStart, List.append_assoc, List.dropWhile_append_of_pos hbefore]
    exact trimStart_cons_of_not_blank hc
  rw [trim, hstart, trimEnd, List.reverse_append, List.dropWhile_append_of_pos hafter.reverse]
  obtain ⟨front, c, rfl, hc⟩ := h.last
  simp [hc]

theorem exists_surrounded (cs : List Char) :
    ∃ before after, Blanks before ∧ Blanks after ∧ cs = before ++ trim cs ++ after := by
  refine ⟨cs.takeWhile isBlank, ((trimStart cs).reverse.takeWhile isBlank).reverse, blanks_takeWhile _,
    (blanks_takeWhile _).reverse, ?_⟩
  have hend : trim cs ++ ((trimStart cs).reverse.takeWhile isBlank).reverse = trimStart cs := by
    rw [trim, trimEnd, ← List.reverse_append, List.takeWhile_append_dropWhile, List.reverse_reverse]
  rw [List.append_assoc, hend, takeWhile_append_trimStart]

end TypedConfig.Text
