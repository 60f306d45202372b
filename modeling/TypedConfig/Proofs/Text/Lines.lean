import TypedConfig.Text.Lines

/-!
Physical lines of texts put together. A text made of whole lines can be followed by any other, and the lines of the
two follow each other (`lines_append`).
-/

namespace TypedConfig.Text

/-- A text made of whole lines: it is empty or ends in a line feed. -/
def Whole (cs : List Char) : Prop := cs = [] ∨ cs.getLast? = some '\n'

instance (cs : List Char) : Decidable (Whole cs) :=
  inferInstanceAs (Decidable (cs = [] ∨ cs.getLast? = some '\n'))

theorem whole_nil : Whole [] := Or.inl rfl

theorem Whole.of_cons {c : Char} {cs : List Char} (h : Whole (c :: cs)) : Whole cs := by
  cases cs with
  | nil => exact whole_nil
  | cons d ds => exact Or.inr (by simpa [Whole, List.getLast?_cons_cons] using h)

theorem Whole.ne_nil {c : Char} {cs : List Char} (h : Whole (c :: cs)) (hc : c ≠ '\n') : cs ≠ [] := by
  rintro rfl
  simp [Whole, hc] at h

theorem lines_ne_nil {cs : List Char} (h : cs ≠ []) : lines cs ≠ [] := by
  unfold lines
  split
  · exact absurd rfl h
  · simp
  · simp
  · split <;> simp

/-- A character that ends no line is put in front of the first line of what follows. -/
theorem lines_cons {c : Char} {cs l : List Char} {ls : List (List Char)} (hc : c ≠ '\n')
    (hcr : c = '\r' → cs.head? ≠ some '\n') (h : lines cs = l :: ls) :
    lines (c :: cs) = (c :: l) :: ls := by
  rw [lines.eq_def]
  split
  · simp_all
  · simp_all
  · simp_all
  · rename_i heq
    cases heq
    rw [h]

/-- **Whole lines can be followed by anything.** -/
theorem lines_append {a : List Char} (ha : Whole a) (b : List Char) :
    lines (a ++ b) = lines a ++ lines b := by
  induction a using lines.induct with
  | case1 => rfl
  | case2 cs ih => simp [ih ha.of_cons]
  | case3 cs ih => simp [lines, ih ha.of_cons.of_cons]
  | case4 c cs hn hrn hnil => exact absurd hnil (lines_ne_nil (ha.ne_nil hn))
  | case5 c cs hn hrn l ls hls ih =>
    have happend := ih ha.of_cons
    have hcs := ha.ne_nil hn
    have hcr : c = '\r' → (cs ++ b).head? ≠ some '\n' := by
      intro hc hhead
      obtain ⟨d, ds, rfl⟩ := List.exists_cons_of_ne_nil hcs
      obtain rfl : d = '\n' := by simpa using hhead
      exact hrn ds hc rfl
    rw [hls, List.cons_append] at happend
    rw [List.cons_append, lines_cons hn hcr happend, lines_cons hn (fun hc hhead => ?_) hls,
      List.cons_append]
    exact hcr hc (by rw [List.head?_append, hhead, Option.some_or])

/-- What stands on a line before other text belongs to the first line of that text. -/
theorem lines_append_of_notMem {p cs l : List Char} {ls : List (List Char)} (hp : '\n' ∉ p)
    (hcs : cs.head? ≠ some '\n') (h : lines cs = l :: ls) : lines (p ++ cs) = (p ++ l) :: ls := by
  induction p with
  | nil => exact h
  | cons c p ih =>
    rw [List.mem_cons, not_or] at hp
    refine lines_cons (Ne.symm hp.1) (fun _ hhead => ?_) (ih hp.2)
    cases p with
    | nil => exact hcs hhead
    | cons d p =>
      obtain rfl : d = '\n' := by simpa using hhead
      exact hp.2 List.mem_cons_self

/-- A character that is no part of a line end begins the first line. -/
theorem exists_lines_cons {c : Char} (hn : c ≠ '\n') (hr : c ≠ '\r') (cs : List Char) :
    ∃ l ls, lines (c :: cs) = (c :: l) :: ls := by
  by_cases hcs : cs = []
  · subst hcs
    exact ⟨[], [], by simp [lines]⟩
  · obtain ⟨l, ls, h⟩ := List.exists_cons_of_ne_nil (lines_ne_nil hcs)
    exact ⟨l, ls, lines_cons hn (fun hc => absurd hc hr) h⟩

theorem lines_of_notMem {l : List Char} (hl : l ≠ []) (hn : '\n' ∉ l) : lines l = [l] := by
  induction l with
  | nil => exact absurd rfl hl
  | cons c cs ih =>
    rw [List.mem_cons, not_or] at hn
    by_cases hcs : cs = []
    · subst hcs
      rw [lines.eq_def]
      split
      · simp_all
      · simp_all
      · simp_all
      · simp_all
    · refine lines_cons (Ne.symm hn.1) (fun _ hhead => ?_) (ih hcs hn.2)
      exact hn.2 (List.mem_of_mem_head? hhead)

theorem lines_ended {l e : List Char} (hn : '\n' ∉ l) (hr : '\r' ∉ l)
    (he : e = ['\n'] ∨ e = ['\r', '\n']) : lines (l ++ e) = [l] := by
  induction l with
  | nil => rcases he with rfl | rfl <;> rfl
  | cons c cs ih =>
    rw [List.mem_cons, not_or] at hn hr
    exact lines_cons (Ne.symm hn.1) (fun hc => absurd hc.symm hr.1) (ih hn.2 hr.2)

end TypedConfig.Text
