import Mathlib.Data.List.TakeWhile
import TypedConfig.Watch.Registry

/-!
Directories as paths. A directory without links is spelled by the names on the way to it, and a file in it
by one name more; taking this path apart gives the directory and the name again (`split?_join`,
`directory?_directoryText`). So a registry matches the path of a file exactly if the name is registered in
the directory (`watches_join`).
-/

namespace TypedConfig

/-- A name that stands for a step down: it is neither empty nor made of one dot or two, and has no slash. -/
structure Path.IsName (s : String) : Prop where
  not_idle : Path.isIdle s = false
  ne_up : s ≠ ".."
  no_slash : '/' ∉ s.toList

/-- A directory all of whose names are steps down. -/
def Directory.Proper (d : Directory) : Prop := ∀ s ∈ d.names, Path.IsName s

namespace Path

variable {cs xs ys p : List Char} {names segs : List String} {name s : String}

/-! ### Pieces -/

theorem pieces_ne_nil (cs : List Char) : pieces cs ≠ [] := by
  cases cs with
  | nil => simp [pieces]
  | cons c cs =>
    rw [pieces]
    split
    · simp
    · split <;> simp

theorem pieces_cons_of_ne {c : Char} (h : c ≠ '/') {qs : List (List Char)}
    (hp : pieces cs = p :: qs) : pieces (c :: cs) = (c :: p) :: qs := by
  rw [pieces, if_neg h, hp]

theorem pieces_of_no_slash (h : '/' ∉ cs) : pieces cs = [cs] := by
  induction cs with
  | nil => rfl
  | cons c cs ih =>
    rw [List.mem_cons, not_or] at h
    exact pieces_cons_of_ne (Ne.symm h.1) (ih h.2)

theorem pieces_append_slash (xs ys : List Char) :
    pieces (xs ++ '/' :: ys) = pieces xs ++ pieces ys := by
  induction xs with
  | nil => simp [pieces]
  | cons c xs ih =>
    by_cases hc : c = '/'
    · subst hc
      rw [List.cons_append, pieces, if_pos rfl, pieces, if_pos rfl, ih, List.cons_append]
    · obtain ⟨p, ps, hp⟩ := List.exists_cons_of_ne_nil (pieces_ne_nil xs)
      rw [hp, List.cons_append] at ih
      rw [List.cons_append, pieces_cons_of_ne hc ih, pieces_cons_of_ne hc hp, List.cons_append]

theorem no_slash_of_mem_pieces (h : p ∈ pieces cs) : '/' ∉ p := by
  induction cs generalizing p with
  | nil =>
    rw [pieces, List.mem_singleton] at h
    simp [h]
  | cons c cs ih =>
    by_cases hc : c = '/'
    · rw [pieces, if_pos hc, List.mem_cons] at h
      rcases h with rfl | h
      · simp
      · exact ih h
    · obtain ⟨q, qs, hq⟩ := List.exists_cons_of_ne_nil (pieces_ne_nil cs)
      rw [hq] at ih
      rw [pieces_cons_of_ne hc hq, List.mem_cons] at h
      rcases h with rfl | h
      · rw [List.mem_cons, not_or]
        exact ⟨Ne.symm hc, ih List.mem_cons_self⟩
      · exact ih (List.mem_cons_of_mem _ h)

/-! ### Segments -/

theorem segments_of_no_slash (h : '/' ∉ s.toList) : segments s = [s] := by
  rw [segments, pieces_of_no_slash h, List.map_singleton, String.ofList_toList]

theorem segments_append_slash (s t : String) : segments (s ++ "/" ++ t) = segments s ++ segments t := by
  have htext : (s ++ "/" ++ t).toList = s.toList ++ '/' :: t.toList := by simp
  rw [segments, htext, pieces_append_slash, List.map_append, segments, segments]

theorem segments_intercalate (h : ∀ s ∈ names, '/' ∉ s.toList) (hne : names ≠ []) :
    segments ("/".intercalate names) = names := by
  induction names with
  | nil => exact absurd rfl hne
  | cons a names ih =>
    obtain ⟨ha, hnames⟩ := List.forall_mem_cons.1 h
    cases names with
    | nil => exact segments_of_no_slash ha
    | cons b names =>
      rw [String.intercalate_cons_cons, segments_append_slash, segments_of_no_slash ha,
        ih hnames (by simp), List.singleton_append]

theorem intercalate_concat (hne : names ≠ []) :
    "/".intercalate (names ++ [name]) = "/".intercalate names ++ "/" ++ name := by
  induction names with
  | nil => exact absurd rfl hne
  | cons a names ih =>
    cases names with
    | nil => rfl
    | cons b names =>
      rw [List.cons_append, List.cons_append, String.intercalate_cons_cons, ← List.cons_append,
        ih (by simp), String.intercalate_cons_cons]
      simp only [String.append_assoc]

/-! ### Directories -/

theorem isAbsolute_slash (s : String) : (⟨"/" ++ s⟩ : Path).isAbsolute = true := by
  simp [isAbsolute]

theorem body_slash (s : String) : (⟨"/" ++ s⟩ : Path).body = segments s := by
  have hpieces : pieces ("/" ++ s).toList = [] :: pieces s.toList := by simp [pieces]
  rw [body, if_pos (isAbsolute_slash s), segments, hpieces, List.map_cons, List.drop_one,
    List.tail_cons, segments]

theorem dropIdle_eq_self (h : ∀ s ∈ names, isIdle s = false) : dropIdle true names = names := by
  have hkept : names.reverse.dropWhile isIdle = names.reverse := by
    refine List.dropWhile_eq_self_iff.2 fun hlt => ?_
    rw [h _ (List.mem_reverse.1 (List.getElem_mem hlt))]
    exact Bool.false_ne_true
  rw [dropIdle, hkept, List.reverse_reverse]
  split
  · rfl
  · rfl

/-- What is left without idle segments at the end ends in a dot or in a segment that counts. -/
theorem of_getLast?_dropIdle {absolute : Bool} {last : String}
    (h : (dropIdle absolute segs).getLast? = some last) :
    last = "." ∨ isIdle last = false ∧ last ∈ segs := by
  unfold dropIdle at h
  split at h
  · split at h
    · simp at h
      exact .inl h.symm
    · cases h
  · rw [List.getLast?_reverse] at h
    have hidle := List.head?_dropWhile_not isIdle segs.reverse
    rw [h] at hidle
    have hmem := (List.dropWhile_suffix isIdle).mem (List.mem_of_head? h)
    exact .inr ⟨hidle, List.mem_reverse.1 hmem⟩

theorem no_slash_of_mem_body {path : Path} (h : s ∈ path.body) : '/' ∉ s.toList := by
  have hmem : s ∈ segments path.text := by
    unfold body at h
    split at h
    · exact List.mem_of_mem_drop h
    · exact h
  obtain ⟨cs, hcs, rfl⟩ := List.mem_map.1 hmem
  rw [String.toList_ofList]
  exact no_slash_of_mem_pieces hcs

theorem isName_of_split? {path parent : Path} (h : path.split? = some (parent, name)) :
    IsName name := by
  unfold split? at h
  dsimp only at h
  split at h
  · cases h
  · rename_i last hlast
    split at h
    · cases h
    · rename_i hdots
      cases h
      simp only [Bool.or_eq_true, beq_iff_eq, not_or] at hdots
      rcases of_getLast?_dropIdle hlast with rfl | ⟨hidle, hmem⟩
      · exact absurd rfl hdots.2
      · exact ⟨hidle, hdots.1, no_slash_of_mem_body hmem⟩

section Directories

variable {d : Directory}

theorem body_directoryText (hd : d.Proper) (hne : d.names ≠ []) :
    (⟨Watch.directoryText d⟩ : Path).body = d.names := by
  rw [Watch.directoryText, body_slash, segments_intercalate (fun s hs => (hd s hs).no_slash) hne]

theorem directory?_directoryText (hd : d.Proper) :
    (⟨Watch.directoryText d⟩ : Path).directory? = some d := by
  have hkept : ((⟨Watch.directoryText d⟩ : Path).body.filter fun s => !isIdle s) = d.names := by
    by_cases hne : d.names = []
    · rw [Watch.directoryText, body_slash, hne]
      rfl
    · rw [body_directoryText hd hne]
      exact List.filter_eq_self.2 fun s hs => by rw [(hd s hs).not_idle]; rfl
  have hup : d.names.contains ".." = false := by
    rw [List.contains_eq_mem, decide_eq_false_iff_not]
    exact fun hmem => (hd _ hmem).ne_up rfl
  rw [directory?, hkept, hup, Watch.directoryText, isAbsolute_slash]
  rfl

theorem proper_concat (hd : d.Proper) (hname : IsName name) :
    Directory.Proper ⟨d.names ++ [name]⟩ := by
  intro s hs
  rcases List.mem_append.1 hs with hs | hs
  · exact hd s hs
  · rw [List.mem_singleton.1 hs]
    exact hname

theorem getLast?_directoryText (hd : d.Proper) (hne : d.names ≠ []) :
    (Watch.directoryText d).toList.getLast? ≠ some '/' := by
  obtain ⟨names, last, hnames⟩ := (List.eq_nil_or_concat d.names).resolve_left hne
  rw [List.concat_eq_append] at hnames
  have hlast : IsName last := hd last (by simp [hnames])
  have htext : ∃ s, Watch.directoryText d = s ++ last := by
    rw [Watch.directoryText, hnames]
    by_cases hempty : names = []
    · exact ⟨"/", by rw [hempty]; rfl⟩
    · exact ⟨"/" ++ ("/".intercalate names ++ "/"), by
        rw [intercalate_concat hempty]
        simp only [String.append_assoc]⟩
  obtain ⟨s, hs⟩ := htext
  have hlastne : last.toList ≠ [] := by
    intro hempty
    have hidle := hlast.not_idle
    rw [String.toList_eq_nil_iff.1 hempty] at hidle
    cases hidle
  rw [hs, String.toList_append, List.getLast?_append]
  cases hc : last.toList.getLast? with
  | none => exact absurd (List.getLast?_eq_none_iff.1 hc) hlastne
  | some c =>
    rintro ⟨⟩
    exact hlast.no_slash (List.mem_of_getLast? hc)

/-- A file in a directory is spelled by one name more. -/
theorem join_directoryText (hd : d.Proper) (hname : IsName name) :
    join ⟨Watch.directoryText d⟩ ⟨name⟩ = ⟨Watch.directoryText ⟨d.names ++ [name]⟩⟩ := by
  have hrelative : (⟨name⟩ : Path).isAbsolute = false := by
    rw [isAbsolute, beq_eq_false_iff_ne]
    exact fun hhead => hname.no_slash (List.mem_of_head? hhead)
  have hempty : (Watch.directoryText d == "") = false := by
    rw [beq_eq_false_iff_ne, Watch.directoryText]
    exact fun heq => by simpa using congrArg String.toList heq
  rw [join, hrelative, if_neg Bool.false_ne_true, hempty, Bool.false_or]
  by_cases hne : d.names = []
  · have hroot : Watch.directoryText d = "/" := by rw [Watch.directoryText, hne]; rfl
    rw [hroot, if_pos (by decide), Watch.directoryText, hne]
    rfl
  · rw [if_neg (by simpa using getLast?_directoryText hd hne), Watch.directoryText,
      Watch.directoryText, intercalate_concat hne]
    simp only [String.append_assoc]

/-- Taking the path of a file apart gives the directory and the name. -/
theorem split?_directoryText (hd : d.Proper) (hname : IsName name) :
    (⟨Watch.directoryText ⟨d.names ++ [name]⟩⟩ : Path).split? =
      some (⟨Watch.directoryText d⟩, name) := by
  have hproper := proper_concat hd hname
  have hbody : (⟨Watch.directoryText ⟨d.names ++ [name]⟩⟩ : Path).body = d.names ++ [name] :=
    body_directoryText hproper (by simp)
  have habsolute : (⟨Watch.directoryText ⟨d.names ++ [name]⟩⟩ : Path).isAbsolute = true :=
    isAbsolute_slash _
  have hdots : (name == ".." || name == ".") = false := by
    have hidle := hname.not_idle
    rw [isIdle, Bool.or_eq_false_iff] at hidle
    rw [hidle.2, Bool.or_false, beq_eq_false_iff_ne]
    exact hname.ne_up
  simp only [split?, hbody, habsolute, dropIdle_eq_self fun s hs => (hproper s hs).not_idle,
    List.getLast?_concat, hdots, List.dropLast_concat, dropIdle_eq_self fun s hs => (hd s hs).not_idle]
  rfl

/-- **A registry matches the path of a file exactly if its name is registered in the directory.** -/
theorem watches_join (r : Watch.Registry) (hd : d.Proper) (hname : IsName name) :
    r.watches (join ⟨Watch.directoryText d⟩ ⟨name⟩) =
      Watch.Registry.holds r.published d name := by
  rw [join_directoryText hd hname, Watch.Registry.watches, split?_directoryText hd hname]
  dsimp only
  rw [directory?_directoryText hd]

end Directories

end Path

end TypedConfig
