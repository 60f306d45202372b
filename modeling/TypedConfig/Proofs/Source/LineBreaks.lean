import TypedConfig.Proofs.Source.LogicalLines

/-!
Lines that are broken. Wherever a line has begun, no backslash is open and the next character is not blank, a
backslash, a line feed and an indent may be put in: the two lines are joined to the one that they come from before a
key, a separator or an escape is looked for (`logicalLines_broken`). So a text is read as before, however many of its
lines are broken and at however many positions (`Properties.read_broken`).
-/

namespace TypedConfig.Source

/-! ### Lines that go on -/

/-- Whether the line after some physical lines goes on with a logical line: the last of them ends in an odd number of
backslashes, and it is blank or a comment only if it goes on with a logical line itself. -/
def goesOn (opened : Bool) (ls : List (List Char)) : Bool :=
  ls.foldl (fun opened line => isContinued line.reverse && (opened || !isSkipped (Text.trimStart line))) opened

/-- **What physical lines come to** is a number of logical lines that are ended, and what is left open. The induction
is on the joining of lines; what is open has lost its last backslash and is itself not continued. -/
theorem exists_logicalLines {o : Option (List Char)} {ls : List (List Char)}
    (ho : ∀ opened, o = some opened → isContinued opened = false) :
    ∃ ended left, (∀ ms, logicalLines o (ls ++ ms) = ended ++ logicalLines left ms) ∧
      left.isSome = goesOn o.isSome ls ∧ ∀ opened, left = some opened → isContinued opened = false := by
  have hnone : ∀ opened, (none : Option (List Char)) = some opened → isContinued opened = false := by
    intro opened h
    cases h
  have hsome : ∀ {cs : List Char}, isContinued cs = true →
      ∀ opened, some cs.tail = some opened → isContinued opened = false := by
    intro cs hcs opened h
    cases h
    exact isContinued_tail hcs
  induction o, ls using logicalLines.induct with
  | case1 => exact ⟨[], none, fun ms => rfl, rfl, hnone⟩
  | case2 opened => exact ⟨[], some opened, fun ms => rfl, rfl, ho⟩
  | case3 line rest line' hskip ih =>
    obtain ⟨ended, left, hlines, hleft, hopened⟩ := ih hnone
    refine ⟨ended, left, fun ms => ?_, ?_, hopened⟩
    · rw [List.cons_append, logicalLines, if_pos hskip]
      exact hlines ms
    · have hnext : goesOn false (line :: rest) = goesOn false rest := by
        simp [goesOn, show isSkipped (Text.trimStart line) = true from hskip]
      exact hleft.trans hnext.symm
  | case4 line rest line' hskip hcont ih =>
    obtain ⟨ended, left, hlines, hleft, hopened⟩ := ih (hsome hcont)
    refine ⟨ended, left, fun ms => ?_, ?_, hopened⟩
    · rw [List.cons_append, logicalLines, if_neg hskip, if_pos hcont]
      exact hlines ms
    · have hline : isContinued line.reverse = true := (isContinued_trimStart line).symm.trans hcont
      have hnext : goesOn false (line :: rest) = goesOn true rest := by
        simp [goesOn, hline, show ¬ isSkipped (Text.trimStart line) = true from hskip]
      exact hleft.trans hnext.symm
  | case5 line rest line' hskip hcont ih =>
    obtain ⟨ended, left, hlines, hleft, hopened⟩ := ih hnone
    refine ⟨line' :: ended, left, fun ms => ?_, ?_, hopened⟩
    · rw [List.cons_append, logicalLines, if_neg hskip, if_neg hcont]
      exact congrArg (line' :: ·) (hlines ms)
    · have hline : ¬ isContinued line.reverse = true := by rwa [← isContinued_trimStart]
      have hnext : goesOn false (line :: rest) = goesOn false rest := by simp [goesOn, hline]
      exact hleft.trans hnext.symm
  | case6 opened line rest joined hcont ih =>
    obtain ⟨ended, left, hlines, hleft, hopened⟩ := ih (hsome hcont)
    refine ⟨ended, left, fun ms => ?_, ?_, hopened⟩
    · rw [List.cons_append, logicalLines, if_pos hcont]
      exact hlines ms
    · have hline : isContinued line.reverse = true :=
        (isContinued_joined (ho opened rfl) line).symm.trans hcont
      have hnext : goesOn true (line :: rest) = goesOn true rest := by simp [goesOn, hline]
      exact hleft.trans hnext.symm
  | case7 opened line rest joined hcont ih =>
    obtain ⟨ended, left, hlines, hleft, hopened⟩ := ih hnone
    refine ⟨joined.reverse :: ended, left, fun ms => ?_, ?_, hopened⟩
    · rw [List.cons_append, logicalLines, if_neg hcont]
      exact congrArg (joined.reverse :: ·) (hlines ms)
    · have hline : ¬ isContinued line.reverse = true := by
        rwa [← isContinued_joined (ho opened rfl)]
      have hnext : goesOn true (line :: rest) = goesOn false rest := by simp [goesOn, hline]
      exact hleft.trans hnext.symm

/-! ### A line that is broken once -/

/-- A position at which a line may be broken, by the text before the line, the line before the position and the
character at the position: the line has begun, it ends in an even number of backslashes there, it is no comment or
goes on with a logical line, and the character is not blank. -/
structure Breakable (a p : List Char) (c : Char) : Prop where
  begun : ∃ d ∈ p, Text.isBlank d = false
  even : ¬ Odd (p.rtakeWhile (· = '\\')).length
  entry : ¬ Ignorable p ∨ goesOn false (Text.lines a) = true
  visible : Text.isBlank c = false

theorem trimStart_append {p : List Char} (hp : ∃ d ∈ p, Text.isBlank d = false) (cs : List Char) :
    Text.trimStart (p ++ cs) = Text.trimStart p ++ cs ∧ Text.trimStart p ≠ [] := by
  have hne : Text.trimStart p ≠ [] := by
    obtain ⟨d, hd, hblank⟩ := hp
    intro hnil
    have hall := List.dropWhile_eq_nil_iff.1 hnil d hd
    rw [hblank] at hall
    cases hall
  refine ⟨?_, hne⟩
  unfold Text.trimStart at hne ⊢
  rw [List.dropWhile_append, if_neg (by simpa using hne)]

theorem trimStart_indent {ws cs : List Char} {c : Char} (hws : ∀ d ∈ ws, Text.isBlank d = true)
    (hc : Text.isBlank c = false) : Text.trimStart (ws ++ c :: cs) = c :: cs := by
  unfold Text.trimStart
  rw [List.dropWhile_append_of_pos hws, List.dropWhile_cons_of_neg (by simp [hc])]

theorem isSkipped_append {p : List Char} (hp : p ≠ []) (cs : List Char) :
    isSkipped (p ++ cs) = isSkipped p := by
  cases p with
  | nil => exact absurd rfl hp
  | cons c p => rfl

/-- One more backslash leaves a line open that was not. -/
theorem isContinued_backslash {cs : List Char} (h : isContinued cs = false) :
    isContinued ('\\' :: cs) = true := by
  simp only [isContinued, List.takeWhile_cons, decide_true, if_true, List.length_cons,
    decide_eq_true_eq, decide_eq_false_iff_not] at h ⊢
  omega

/-- **A line that is broken is joined again.** -/
theorem logicalLines_broken {o : Option (List Char)} {p ws l : List Char} {c : Char}
    (ho : ∀ opened, o = some opened → isContinued opened = false)
    (hbegun : ∃ d ∈ p, Text.isBlank d = false) (heven : isContinued p.reverse = false)
    (hentry : ¬ Ignorable p ∨ o.isSome = true) (hws : ∀ d ∈ ws, Text.isBlank d = true)
    (hc : Text.isBlank c = false) (rest : List (List Char)) :
    logicalLines o ((p ++ ['\\']) :: (ws ++ c :: l) :: rest) = logicalLines o ((p ++ c :: l) :: rest) := by
  obtain ⟨hbroken, hne⟩ := trimStart_append hbegun ['\\']
  have hwhole := (trimStart_append hbegun (c :: l)).1
  have hindent : Text.trimStart (ws ++ c :: l) = c :: l := trimStart_indent hws hc
  have htrim : isContinued (Text.trimStart p).reverse = false := by rw [isContinued_trimStart, heven]
  cases o with
  | none =>
    have hskip : ¬ isSkipped (Text.trimStart p) = true := by
      rw [isSkipped_trimStart_iff]
      exact hentry.resolve_right (by simp)
    have hopen : isContinued (Text.trimStart p ++ ['\\']).reverse = true := by
      rw [List.reverse_append]
      exact isContinued_backslash htrim
    -- without the backslash, the first part is open and the second is put behind it
    have hjoin : logicalLines none ((p ++ ['\\']) :: (ws ++ c :: l) :: rest) =
        logicalLines (some (Text.trimStart p).reverse) ((ws ++ c :: l) :: rest) := by
      rw [logicalLines, hbroken, isSkipped_append hne, if_neg hskip, if_pos hopen, List.reverse_append]
      rfl
    rw [hjoin, logicalLines, logicalLines, hindent, hwhole, isSkipped_append hne, if_neg hskip,
      ← List.reverse_append, List.reverse_reverse]
  | some opened =>
    have hopened := ho opened rfl
    have hrest : isContinued ((Text.trimStart p).reverse ++ opened) = false := by
      rw [isContinued_joined hopened, heven]
    have hjoin : logicalLines (some opened) ((p ++ ['\\']) :: (ws ++ c :: l) :: rest) =
        logicalLines (some ((Text.trimStart p).reverse ++ opened)) ((ws ++ c :: l) :: rest) := by
      rw [logicalLines, hbroken, List.reverse_append, List.append_assoc]
      exact if_pos (isContinued_backslash hrest)
    have hsame : (c :: l).reverse ++ ((Text.trimStart p).reverse ++ opened) =
        (Text.trimStart p ++ c :: l).reverse ++ opened := by
      rw [List.reverse_append, List.append_assoc]
    rw [hjoin, logicalLines, logicalLines, hindent, hwhole, hsame]

/-! ### Texts with broken lines -/

/-- A text in which lines have been broken, by what stands before: whole lines, and a line as far as it has come. Each
of its characters is kept, and at each breakable position a backslash, a line feed and an indent of spaces and tabs may
have been put in front of it. -/
inductive Broken : List Char → List Char → List Char → List Char → Prop
  | same {a p rest} : Broken a p rest rest
  | char {a p c rest broken} (hc : c ≠ '\n') (h : Broken a (p ++ [c]) rest broken) :
      Broken a p (c :: rest) (c :: broken)
  | lineEnd {a p rest broken} (h : Broken (a ++ p ++ ['\n']) [] rest broken) :
      Broken a p ('\n' :: rest) ('\n' :: broken)
  | joint {a p c rest broken indent} (hp : Breakable a p c) (hindent : ∀ d ∈ indent, d = ' ' ∨ d = '\t')
      (h : Broken a (p ++ [c]) rest broken) :
      Broken a p (c :: rest) ('\\' :: '\n' :: indent ++ c :: broken)

namespace Properties

/-- A text is read as before when a line is broken at one position. -/
theorem ofLines_joint {a p indent : List Char} {c : Char} (ha : Text.Whole a) (hn : '\n' ∉ p)
    (hp : Breakable a p c) (hindent : ∀ d ∈ indent, d = ' ' ∨ d = '\t') (q : List Char) :
    ofLines (Text.lines (a ++ p ++ ('\\' :: '\n' :: indent ++ c :: q))) =
      ofLines (Text.lines (a ++ p ++ c :: q)) := by
  have hc : c ≠ '\n' ∧ c ≠ '\r' := by
    constructor
    · rintro rfl
      exact absurd hp.visible (by decide)
    · rintro rfl
      exact absurd hp.visible (by decide)
  have hblank : ∀ d ∈ indent, Text.isBlank d = true := by
    intro d hd
    rcases hindent d hd with rfl | rfl
    · decide
    · decide
  have hfeed : '\n' ∉ indent := by
    intro hd
    rcases hindent _ hd with h | h
    · cases h
    · cases h
  -- the line that is broken goes on behind the position
  obtain ⟨l, ls, hl⟩ : ∃ l ls, Text.lines (c :: q) = (c :: l) :: ls := Text.exists_lines_cons hc.1 hc.2 q
  have hhead : (c :: q).head? ≠ some '\n' := by simpa using hc.1
  have hwhole : Text.lines (p ++ c :: q) = (p ++ c :: l) :: ls := Text.lines_append_of_notMem hn hhead hl
  have hsecond : Text.lines (indent ++ c :: q) = (indent ++ c :: l) :: ls :=
    Text.lines_append_of_notMem hfeed hhead hl
  have hfirst : Text.lines (p ++ '\\' :: '\n' :: (indent ++ c :: q)) =
      (p ++ ['\\']) :: (indent ++ c :: l) :: ls := by
    refine Text.lines_append_of_notMem hn (by simp) ?_
    refine Text.lines_cons (by decide) (fun h => absurd h (by decide)) ?_
    rw [Text.lines_newline, hsecond]
  -- the lines before leave nothing open, or a logical line
  obtain ⟨ended, left, hlines, hleft, hopened⟩ :
      ∃ ended left, (∀ ms, logicalLines none (Text.lines a ++ ms) = ended ++ logicalLines left ms) ∧
        left.isSome = goesOn false (Text.lines a) ∧
        ∀ opened, left = some opened → isContinued opened = false :=
    exists_logicalLines (by simp)
  have heven : isContinued p.reverse = false := by
    have := hp.even
    rwa [← isContinued_iff_odd, Bool.not_eq_true] at this
  have hentry : ¬ Ignorable p ∨ left.isSome = true := by
    rw [hleft]
    exact hp.entry
  have hbroken := logicalLines_broken hopened hp.begun heven hentry hblank hp.visible (l := l) ls
  simp only [List.append_assoc, List.cons_append] at hfirst ⊢
  rw [ofLines, ofLines, Text.lines_append ha, Text.lines_append ha, hfirst, hwhole, hlines, hlines, hbroken]

/-- The induction is on the text from front to back, and each break is taken out when all breaks behind it have been:
what stands before it is then as it was without breaks. -/
theorem ofLines_broken {a p rest broken : List Char} (h : Broken a p rest broken) (ha : Text.Whole a)
    (hn : '\n' ∉ p) :
    ofLines (Text.lines (a ++ p ++ broken)) = ofLines (Text.lines (a ++ p ++ rest)) := by
  have hkept : ∀ {p cs : List Char} {c : Char}, p ++ [c] ++ cs = p ++ c :: cs := by
    intro p cs c
    rw [List.append_assoc, List.singleton_append]
  induction h with
  | same => rfl
  | @char a p c rest broken hc _ ih =>
    have hnext : '\n' ∉ p ++ [c] := by
      rw [List.mem_append, List.mem_singleton, not_or]
      exact ⟨hn, Ne.symm hc⟩
    have := ih ha hnext
    rwa [← List.append_assoc, hkept, hkept] at this
  | @lineEnd a p rest broken _ ih =>
    have := ih (Or.inr List.getLast?_concat) (by simp)
    rwa [List.append_nil, hkept, hkept] at this
  | @joint a p c rest broken indent hp hindent _ ih =>
    have hnext : '\n' ∉ p ++ [c] := by
      rw [List.mem_append, List.mem_singleton, not_or]
      refine ⟨hn, ?_⟩
      rintro rfl
      exact absurd hp.visible (by decide)
    have := ih ha hnext
    rw [← List.append_assoc, hkept, hkept] at this
    rw [ofLines_joint ha hn hp hindent, this]

/-- **Broken lines are read as if they were whole**: inside a key or an escape, next to the separator, on a line that
itself goes on with another, and at several positions of one line. -/
theorem read_broken {text broken : String} (h : Broken [] [] text.toList broken.toList) :
    read broken = read text :=
  ofLines_broken h Text.whole_nil (by simp)

/-- An entry with an escape in its key, and a value that goes on after a number sign. -/
def wholeText : String := "k\\u0041 = v\\\n #w\n"

/-- The same with the key broken before and inside the escape, the line before its separator, and the second line
after the number sign. -/
def brokenText : String := "k\\\n \t\\u0\\\n041 \\\n= v\\\n #\\\n\tw\n"

theorem read_broken_escape :
    Broken [] [] wholeText.toList brokenText.toList ∧ read brokenText = read wholeText ∧
      read wholeText = ⟨[("kA", "v#w")]⟩ := by
  have hwhole : wholeText.toList = ['k', '\\', 'u', '0', '0', '4', '1', ' ', '=', ' ', 'v', '\\', '\n',
      ' ', '#', 'w', '\n'] := by
    decide
  have hbroken : brokenText.toList = 'k' :: '\\' :: '\n' :: [' ', '\t'] ++ '\\' :: 'u' :: '0' ::
      ('\\' :: '\n' :: [] ++ '0' :: '4' :: '1' :: ' ' :: ('\\' :: '\n' :: [] ++ '=' :: ' ' :: 'v' ::
        '\\' :: '\n' :: ' ' :: '#' :: ('\\' :: '\n' :: ['\t'] ++ ['w', '\n']))) := by
    decide
  have h : Broken [] [] wholeText.toList brokenText.toList := by
    rw [hwhole, hbroken]
    refine .char (by decide) ?_
    refine .joint ⟨⟨'k', by simp, rfl⟩, by decide, .inl (by decide), by decide⟩ (by simp) ?_
    refine .char (by decide) (.char (by decide) ?_)
    refine .joint ⟨⟨'k', by simp, rfl⟩, by decide, .inl (by decide), by decide⟩ (by simp) ?_
    refine .char (by decide) (.char (by decide) (.char (by decide) ?_))
    refine .joint ⟨⟨'k', by simp, rfl⟩, by decide, .inl (by decide), by decide⟩ (by simp) ?_
    refine .char (by decide) (.char (by decide) (.char (by decide) (.lineEnd ?_)))
    -- the number sign opens no comment here
    refine .char (by decide) (.char (by decide) ?_)
    exact .joint ⟨⟨'#', by simp, rfl⟩, by decide, .inr (by decide), by decide⟩ (by simp) .same
  exact ⟨h, read_broken h, by decide⟩

end Properties

end TypedConfig.Source
