import Mathlib.Algebra.Ring.Parity
import Mathlib.Data.List.DropRight
import Mathlib.Data.List.Induction
import TypedConfig.Proofs.Text.Lines
import TypedConfig.Source.Properties

/-!
Logical lines. Whether a line is continued depends on its last backslashes only, and these are told apart by whether
each backslash escapes what follows it (`isContinued_reverse`). After a physical line that does not end in an odd
number of backslashes nothing is open, so the logical lines before and after it are independent of each other
(`logicalLines_append`), and properties texts can be cut and put together there (`Properties.read_compose`).
-/

namespace TypedConfig.Source

/-! ### Escaping backslashes -/

/-- Whether a text ends in a backslash that escapes what follows, given whether an earlier one has escaped its
beginning. -/
def leavesOpen (opened : Bool) (cs : List Char) : Bool :=
  cs.foldl (fun opened c => !opened && c = '\\') opened

theorem leavesOpen_append (opened : Bool) (cs ds : List Char) :
    leavesOpen opened (cs ++ ds) = leavesOpen (leavesOpen opened cs) ds := List.foldl_append

/-- **The last backslash escapes the line end if it is not escaped itself.** -/
theorem isContinued_reverse (cs : List Char) : isContinued cs.reverse = leavesOpen false cs := by
  induction cs using List.reverseRecOn with
  | nil => rfl
  | append_singleton cs c ih =>
    rw [leavesOpen_append, ← ih, List.reverse_append, List.reverse_singleton, List.singleton_append]
    by_cases hc : c = '\\'
    · subst hc
      simp only [isContinued, leavesOpen, List.takeWhile_cons, decide_true, if_true, List.length_cons,
        List.foldl_cons, List.foldl_nil, Bool.and_true]
      rw [← decide_not, decide_eq_decide]
      omega
    · simp [isContinued, leavesOpen, hc]

theorem leavesOpen_of_notMem {cs : List Char} (h : '\\' ∉ cs) : leavesOpen false cs = false := by
  induction cs with
  | nil => rfl
  | cons c cs ih =>
    rw [List.mem_cons, not_or] at h
    have hc : ¬ c = '\\' := Ne.symm h.1
    simpa [leavesOpen, hc] using ih h.2

theorem isContinued_iff_odd (line : List Char) :
    isContinued line.reverse = true ↔ Odd (line.rtakeWhile (· = '\\')).length := by
  simp [isContinued, List.rtakeWhile, Nat.odd_iff]

theorem isContinued_tail {cs : List Char} (h : isContinued cs = true) : isContinued cs.tail = false := by
  cases cs with
  | nil => rfl
  | cons c cs =>
    by_cases hc : c = '\\'
    · subst hc
      simp only [isContinued, List.takeWhile_cons, decide_true, if_true, List.length_cons,
        decide_eq_true_eq] at h
      exact decide_eq_false (by rw [List.tail_cons]; omega)
    · simp [isContinued, hc] at h

theorem backslash_not_blank : Text.isBlank '\\' = false := by decide

/-- What is joined to a line that is settled is continued if it would be by itself. Its leading white space does
not count. -/
theorem isContinued_joined {opened : List Char} (h : isContinued opened = false) (line : List Char) :
    isContinued ((Text.trimStart line).reverse ++ opened) = isContinued line.reverse := by
  have hblank : '\\' ∉ line.takeWhile Text.isBlank := by
    intro hmem
    have := List.mem_takeWhile_imp hmem
    rw [backslash_not_blank] at this
    cases this
  have hopened : leavesOpen false opened.reverse = false := by
    rw [← isContinued_reverse, List.reverse_reverse, h]
  have hline : leavesOpen false line = leavesOpen false (Text.trimStart line) := by
    conv_lhs => rw [← Text.takeWhile_append_trimStart line]
    rw [leavesOpen_append, leavesOpen_of_notMem hblank]
  rw [isContinued_reverse line, hline, ← List.reverse_reverse opened, ← List.reverse_append,
    isContinued_reverse, leavesOpen_append, hopened]

theorem isContinued_trimStart (line : List Char) :
    isContinued (Text.trimStart line).reverse = isContinued line.reverse := by
  have h : isContinued [] = false := rfl
  simpa using isContinued_joined h line

/-! ### Lines before and after -/

/-- **The logical lines of what follows are its own** if the last physical line before it is not continued. The
induction is on the joining of lines; what is open has lost its last backslash and is itself not continued. -/
theorem logicalLines_append_from {o : Option (List Char)} {ls : List (List Char)}
    (ho : ∀ opened, o = some opened → isContinued opened = false ∧ ls ≠ [])
    (hls : ∀ line, ls.getLast? = some line → isContinued line.reverse = false)
    (ms : List (List Char)) :
    logicalLines o (ls ++ ms) = logicalLines o ls ++ logicalLines none ms := by
  -- the last line of what is left is the last one of all, and there is some if the first is continued
  have hrest : ∀ {line : List Char} {rest : List (List Char)},
      (∀ l, (line :: rest).getLast? = some l → isContinued l.reverse = false) →
      (∀ l, rest.getLast? = some l → isContinued l.reverse = false) ∧
        (isContinued line.reverse = true → rest ≠ []) := by
    intro line rest h
    cases rest with
    | nil =>
      refine ⟨by simp, fun hline => ?_⟩
      rw [h line rfl] at hline
      cases hline
    | cons l ls => exact ⟨by simpa [List.getLast?_cons_cons] using h, by simp⟩
  induction o, ls using logicalLines.induct with
  | case1 => simp [logicalLines]
  | case2 opened => exact absurd rfl (ho opened rfl).2
  | case3 line rest line' hskip ih =>
    have hih := ih (by simp) (hrest hls).1
    rw [List.cons_append]
    simpa [logicalLines, hskip, line'] using hih
  | case4 line rest line' hskip hcont ih =>
    have hline : isContinued line.reverse = true := by rwa [← isContinued_trimStart]
    have hih := ih (fun opened h => Option.some.inj h ▸
      ⟨isContinued_tail hcont, (hrest hls).2 hline⟩) (hrest hls).1
    rw [List.cons_append]
    simpa [logicalLines, hskip, hcont, line'] using hih
  | case5 line rest line' hskip hcont ih =>
    have hih := ih (by simp) (hrest hls).1
    rw [List.cons_append]
    simpa [logicalLines, hskip, hcont, line'] using hih
  | case6 opened line rest joined hcont ih =>
    have hline : isContinued line.reverse = true := by
      rwa [← isContinued_joined (ho opened rfl).1]
    have hih := ih (fun opened h => Option.some.inj h ▸
      ⟨isContinued_tail hcont, (hrest hls).2 hline⟩) (hrest hls).1
    rw [List.cons_append]
    simpa [logicalLines, hcont, joined] using hih
  | case7 opened line rest joined hcont ih =>
    have hih := ih (by simp) (hrest hls).1
    rw [List.cons_append]
    simpa [logicalLines, hcont, joined] using hih

theorem logicalLines_append {ls : List (List Char)}
    (h : ∀ line, ls.getLast? = some line → isContinued line.reverse = false)
    (ms : List (List Char)) : logicalLines none (ls ++ ms) = logicalLines none ls ++ logicalLines none ms :=
  logicalLines_append_from (by simp) h ms

/-! ### Lines without an entry -/

/-- A line without an entry: it is blank, or its first other character opens a comment. -/
def Ignorable (line : List Char) : Prop :=
  ∀ c, line.find? (!Text.isBlank ·) = some c → c = '#' ∨ c = '!'

theorem isSkipped_trimStart_iff (line : List Char) :
    isSkipped (Text.trimStart line) = true ↔ Ignorable line := by
  induction line with
  | nil => simp [isSkipped, Ignorable]
  | cons c cs ih =>
    cases hc : Text.isBlank c with
    | true =>
      rw [Text.trimStart_cons_of_blank hc, ih]
      simp [Ignorable, hc]
    | false =>
      rw [Text.trimStart_cons_of_not_blank hc]
      simp [Ignorable, isSkipped, hc]

instance (line : List Char) : Decidable (Ignorable line) :=
  decidable_of_iff _ (isSkipped_trimStart_iff line)

theorem logicalLines_of_ignorable {ls : List (List Char)} (h : ∀ line ∈ ls, Ignorable line)
    (ms : List (List Char)) : logicalLines none (ls ++ ms) = logicalLines none ms := by
  induction ls with
  | nil => rfl
  | cons line ls ih =>
    have hskip := (isSkipped_trimStart_iff line).2 (h line List.mem_cons_self)
    rw [List.cons_append, logicalLines, if_pos hskip]
    exact ih fun l hl => h l (List.mem_cons_of_mem _ hl)

/-! ### Texts before and after -/

/-- A text after which a logical line begins: it is empty or ends in a line feed, and its last physical line does
not end in an odd number of backslashes. -/
structure Settled (cs : List Char) : Prop where
  whole : Text.Whole cs
  even : ∀ line, (Text.lines cs).getLast? = some line →
    ¬ Odd (line.rtakeWhile (· = '\\')).length

namespace Properties

theorem read_append_entries {a : String} (ha : Settled a.toList) (b : String) :
    (read (a ++ b)).entries = (read a).entries ++ (read b).entries := by
  have hlast : ∀ line, (Text.lines a.toList).getLast? = some line →
      isContinued line.reverse = false := by
    intro line hline
    have := ha.even line hline
    rwa [← isContinued_iff_odd, Bool.not_eq_true] at this
  simp only [read, ofLines]
  rw [String.toList_append, Text.lines_append ha.whole, logicalLines_append hlast, List.map_append]

theorem get?_append {p q r : Properties} (h : p.entries = q.entries ++ r.entries) (key : String) :
    p.get? key = (r.get? key).or (q.get? key) := by
  rw [get?, h, List.reverse_append, List.find?_append, get?, get?]
  cases r.entries.reverse.find? fun e => e.1 == key <;> rfl

theorem get?_read_append {a : String} (ha : Settled a.toList) (b key : String) :
    (read (a ++ b)).get? key = ((read b).get? key).or ((read a).get? key) :=
  get?_append (read_append_entries ha b) key

/-- Lines without an entry can be put in front of any text. -/
theorem read_ignorable_append {c b : String} (hc : ∀ line ∈ Text.lines c.toList, Ignorable line)
    (hwhole : Text.Whole c.toList ∨ b = "") : read (c ++ b) = read b := by
  have hlines : Text.lines (c ++ b).toList = Text.lines c.toList ++ Text.lines b.toList := by
    rw [String.toList_append]
    rcases hwhole with hwhole | rfl
    · exact Text.lines_append hwhole _
    · simp
  rw [read, read, ofLines, hlines, logicalLines_of_ignorable hc]
  rfl

/-- **Properties texts compose.** After a settled text another one overrides it; lines without an entry may stand
between the two, the last of them unended where nothing follows; and settled texts behind it with no key in common
may be swapped. -/
theorem read_compose {a : String} (ha : Settled a.toList) (b : String) :
    (∀ key, (read (a ++ b)).get? key = ((read b).get? key).or ((read a).get? key)) ∧
    (∀ c : String, (∀ line ∈ Text.lines c.toList, Ignorable line) →
      Text.Whole c.toList ∨ b = "" → read (a ++ c ++ b) = read (a ++ b)) ∧
    ∀ x y : String, Settled x.toList → Settled y.toList →
      (∀ key, (read x).get? key = none ∨ (read y).get? key = none) →
      ∀ key, (read (a ++ x ++ y ++ b)).get? key = (read (a ++ y ++ x ++ b)).get? key := by
  refine ⟨get?_read_append ha b, fun c hc hwhole => ?_, fun x y hx hy hdisjoint key => ?_⟩
  · have hentries : (read (a ++ c ++ b)).entries = (read (a ++ b)).entries := by
      rw [String.append_assoc, read_append_entries ha, read_ignorable_append hc hwhole,
        ← read_append_entries ha]
    exact congrArg Properties.mk hentries
  · have hblocks : ∀ {v w : String}, Settled v.toList → Settled w.toList →
        (read (a ++ v ++ w ++ b)).get? key =
          ((((read b).get? key).or ((read w).get? key)).or ((read v).get? key)).or
            ((read a).get? key) := by
      intro v w hv hw
      rw [String.append_assoc, String.append_assoc, get?_read_append ha, get?_read_append hv,
        get?_read_append hw]
    rw [hblocks hx hy, hblocks hy hx]
    rcases hdisjoint key with h | h <;> simp [h]

/-- Two entries: one that goes on after a carriage return and a line feed, and one that ends in an escaped
backslash. -/
def joinedText : String := "k=1\\\r\n 2\nm=3\\\\\n"

/-- A comment that ends in a backslash, and a blank line. -/
def ignoredText : String := " # note \\\n \t\n"

theorem read_compose_joined :
    Settled joinedText.toList ∧ (∀ line ∈ Text.lines ignoredText.toList, Ignorable line) ∧
      (read (joinedText ++ "k=4")).get? "k" = some "4" ∧
      read (joinedText ++ ignoredText ++ "k=4") = read (joinedText ++ "k=4") ∧
      ∀ key, (read (joinedText ++ "x=5\n" ++ "y=6\n" ++ "k=4")).get? key =
        (read (joinedText ++ "y=6\n" ++ "x=5\n" ++ "k=4")).get? key := by
  have hsettled : Settled joinedText.toList := ⟨by decide, by decide⟩
  have hignored : ∀ line ∈ Text.lines ignoredText.toList, Ignorable line := by
    decide
  have hx : read "x=5\n" = ⟨[("x", "5")]⟩ := by decide
  have hy : read "y=6\n" = ⟨[("y", "6")]⟩ := by decide
  have hdisjoint : ∀ key, (read "x=5\n").get? key = none ∨ (read "y=6\n").get? key = none := by
    intro key
    rw [hx, hy]
    by_cases hkey : key = "x"
    · right
      subst hkey
      rfl
    · left
      simp [get?, Ne.symm hkey]
  obtain ⟨hget, hinsert, hswap⟩ := read_compose hsettled "k=4"
  refine ⟨hsettled, hignored, ?_, hinsert _ hignored (Or.inl (by decide)),
    hswap _ _ ⟨by decide, by decide⟩ ⟨by decide, by decide⟩ hdisjoint⟩
  rw [hget]
  decide

end Properties

end TypedConfig.Source
