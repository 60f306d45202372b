import TypedConfig.Proofs.Source.LogicalLines
import TypedConfig.Proofs.Text.Units

/-!
Entries as they may be written. Every character of a key or a value has several forms, and `Spells` says which texts
spell a part of an entry, one form for each character. Continuation, the cut after the key, trimming and unescaping
all look at the same backslashes; on a text that spells something they agree which characters are escaped, so a file
is read as exactly the entries that it was written from (`Properties.read_written`).
-/

namespace TypedConfig.Source

/-! ### Forms of a character -/

/-- Where a character of an entry stands. -/
inductive Place where
  | keyStart
  | keyRest
  | valueStart
  | valueRest

/-- Where the next character of the same part stands. -/
def Place.next : Place → Place
  | keyStart | keyRest => keyRest
  | valueStart | valueRest => valueRest

/-- Whether a character may stand for itself. -/
def Place.Bare : Place → Char → Prop
  | keyStart, c =>
    c ≠ '\\' ∧ Text.isBlank c = false ∧ c ≠ '=' ∧ c ≠ ':' ∧ c ≠ '#' ∧ c ≠ '!'
  | keyRest, c => c ≠ '\\' ∧ Text.isBlank c = false ∧ c ≠ '=' ∧ c ≠ ':'
  | valueStart, c => c ≠ '\\' ∧ Text.isBlank c = false
  | valueRest, c => c ≠ '\\' ∧ c ≠ '\r' ∧ c ≠ '\n'

instance : (p : Place) → (c : Char) → Decidable (p.Bare c)
  | .keyStart, c => inferInstanceAs
    (Decidable (c ≠ '\\' ∧ Text.isBlank c = false ∧ c ≠ '=' ∧ c ≠ ':' ∧ c ≠ '#' ∧ c ≠ '!'))
  | .keyRest, c => inferInstanceAs
    (Decidable (c ≠ '\\' ∧ Text.isBlank c = false ∧ c ≠ '=' ∧ c ≠ ':'))
  | .valueStart, c => inferInstanceAs (Decidable (c ≠ '\\' ∧ Text.isBlank c = false))
  | .valueRest, c => inferInstanceAs (Decidable (c ≠ '\\' ∧ c ≠ '\r' ∧ c ≠ '\n'))

theorem Place.Bare.ne_backslash {p : Place} {c : Char} (h : p.Bare c) : c ≠ '\\' := by
  cases p <;> exact h.1

/-- The hexadecimal digit of a number below sixteen, of either case. -/
def HexDigit (n : Nat) (c : Char) : Prop := c = n.digitChar ∨ c = n.digitChar.toUpper

instance (n : Nat) (c : Char) : Decidable (HexDigit n c) :=
  inferInstanceAs (Decidable (c = n.digitChar ∨ c = n.digitChar.toUpper))

/-- Units one after another, each as its four hexadecimal digits after `\u`. -/
inductive UnitsForm : List UInt16 → List Char → Prop
  | nil : UnitsForm [] []
  | cons {u : UInt16} {us : List UInt16} {a b c d : Char} {t : List Char}
      (ha : HexDigit (u.toNat / 4096) a) (hb : HexDigit (u.toNat / 256 % 16) b)
      (hc : HexDigit (u.toNat / 16 % 16) c) (hd : HexDigit (u.toNat % 16) d)
      (hus : UnitsForm us t) : UnitsForm (u :: us) ('\\' :: 'u' :: a :: b :: c :: d :: t)

/-- The forms of a character: its units one after another, a control by its letter, a backslash and the character
itself, and the character alone where it may stand for itself. -/
inductive Form (p : Place) (c : Char) : List Char → Prop
  | units {t : List Char} (h : UnitsForm (Text.charUnits c) t) : Form p c t
  | control {x : Char} (h : (x, c) ∈ [('t', '\t'), ('n', '\n'), ('r', '\r'), ('f', '\x0c')]) :
      Form p c ['\\', x]
  | escaped (h : c ∉ ['t', 'n', 'r', 'f', 'u', '\r', '\n']) : Form p c ['\\', c]
  | bare (h : p.Bare c) : Form p c [c]

/-- The second text spells the first from a place on, one form for each character. -/
inductive Spells : Place → List Char → List Char → Prop
  | nil (p : Place) : Spells p [] []
  | cons {p : Place} {c : Char} {cs t ts : List Char} (hc : Form p c t) (hcs : Spells p.next cs ts) :
      Spells p (c :: cs) (t ++ ts)

/-- An entry on one line. -/
def WritesEntry (e : String × String) (line : List Char) : Prop :=
  ∃ key value, Spells .keyStart e.1.toList key ∧ Spells .valueStart e.2.toList value ∧
    line = key ++ '=' :: value

/-- Entries on lines of their own. A line is ended by a line feed, or by a carriage return and a line feed, and the
last one need not be ended. -/
inductive Writes : List (String × String) → List Char → Prop
  | nil : Writes [] []
  | last {e : String × String} {line : List Char} (he : WritesEntry e line) : Writes [e] line
  | cons {e : String × String} {es : List (String × String)} {line ending text : List Char}
      (he : WritesEntry e line) (hending : ending = ['\n'] ∨ ending = ['\r', '\n'])
      (hes : Writes es text) : Writes (e :: es) (line ++ ending ++ text)

/-! ### Everything can be written -/

theorem exists_unitsForm (us : List UInt16) : ∃ t, UnitsForm us t := by
  induction us with
  | nil => exact ⟨[], .nil⟩
  | cons u us ih =>
    obtain ⟨t, ht⟩ := ih
    exact ⟨_, .cons (Or.inl rfl) (Or.inl rfl) (Or.inl rfl) (Or.inl rfl) ht⟩

theorem exists_form (p : Place) (c : Char) : ∃ t, Form p c t := by
  obtain ⟨t, ht⟩ := exists_unitsForm (Text.charUnits c)
  exact ⟨t, .units ht⟩

theorem exists_spells (p : Place) (cs : List Char) : ∃ t, Spells p cs t := by
  induction cs generalizing p with
  | nil => exact ⟨[], .nil p⟩
  | cons c cs ih =>
    obtain ⟨t, ht⟩ := exists_form p c
    obtain ⟨ts, hts⟩ := ih p.next
    exact ⟨_, .cons ht hts⟩

theorem exists_writes (es : List (String × String)) : ∃ text, Writes es text := by
  induction es with
  | nil => exact ⟨[], .nil⟩
  | cons e es ih =>
    obtain ⟨key, hkey⟩ := exists_spells .keyStart e.1.toList
    obtain ⟨value, hvalue⟩ := exists_spells .valueStart e.2.toList
    obtain ⟨text, htext⟩ := ih
    exact ⟨_, .cons ⟨key, value, hkey, hvalue, rfl⟩ (Or.inl rfl) htext⟩

/-! ### Escaped and plain characters -/

/-- A text in which every backslash escapes the character after it, and the other characters satisfy a condition. -/
inductive Escaping (ok : Char → Prop) : List Char → Prop
  | nil : Escaping ok []
  | plain {c : Char} {cs : List Char} (hc : c ≠ '\\') (hok : ok c) (hcs : Escaping ok cs) :
      Escaping ok (c :: cs)
  | escape {c : Char} {cs : List Char} (hn : c ≠ '\n') (hr : c ≠ '\r') (hcs : Escaping ok cs) :
      Escaping ok ('\\' :: c :: cs)

namespace Escaping

variable {ok ok' : Char → Prop} {cs ds : List Char}

theorem append (hcs : Escaping ok cs) (hds : Escaping ok ds) : Escaping ok (cs ++ ds) := by
  induction hcs with
  | nil => exact hds
  | plain hc hok _ ih => exact .plain hc hok ih
  | escape hn hr _ ih => exact .escape hn hr ih

theorem imp (h : ∀ c, ok c → ok' c) (hcs : Escaping ok cs) : Escaping ok' cs := by
  induction hcs with
  | nil => exact .nil
  | plain hc hok _ ih => exact .plain hc (h _ hok) ih
  | escape hn hr _ ih => exact .escape hn hr ih

theorem leavesOpen_eq (h : Escaping ok cs) : leavesOpen false cs = false := by
  induction h with
  | nil => rfl
  | plain hc _ _ ih => simpa [leavesOpen, hc] using ih
  | escape _ _ _ ih => simpa [leavesOpen] using ih

/-- The key goes on over characters that do not end it. -/
theorem cutKey_append (h : Escaping (fun c => endsKey c = false) cs) (rest : List Char) :
    cutKey (cs ++ rest) = (cs ++ (cutKey rest).1, (cutKey rest).2) := by
  induction h with
  | nil => rfl
  | @plain c cs hc hok _ ih =>
    rw [List.cons_append, cutKey.eq_def]
    split
    · simp_all
    · simp_all
    · simp_all
  | escape _ _ _ ih => simp [cutKey, ih]

end Escaping

theorem HexDigit.facts {n : Nat} {c : Char} (h : HexDigit n c) (hn : n < 16) :
    hexDigit? c = some n ∧ c ≠ '\\' ∧ endsKey c = false := by
  have hlower : ∀ n : Fin 16, hexDigit? n.val.digitChar = some n.val ∧ n.val.digitChar ≠ '\\' ∧
      endsKey n.val.digitChar = false := by
    decide
  have hupper : ∀ n : Fin 16, hexDigit? n.val.digitChar.toUpper = some n.val ∧
      n.val.digitChar.toUpper ≠ '\\' ∧ endsKey n.val.digitChar.toUpper = false := by
    decide
  rcases h with rfl | rfl
  · exact hlower ⟨n, hn⟩
  · exact hupper ⟨n, hn⟩

theorem not_lineEnd_of_endsKey {c : Char} (h : endsKey c = false) : c ≠ '\n' ∧ c ≠ '\r' := by
  constructor <;> (rintro rfl; revert h; decide)

theorem UnitsForm.escaping {ok : Char → Prop} {us : List UInt16} {t : List Char}
    (h : UnitsForm us t) (hdigit : ∀ d, endsKey d = false → ok d) : Escaping ok t := by
  induction h with
  | nil => exact .nil
  | @cons u us a b c d t ha hb hc hd _ ih =>
    have hu := u.toNat_lt
    obtain ⟨-, ha, hoka⟩ := ha.facts (by omega)
    obtain ⟨-, hb, hokb⟩ := hb.facts (by omega)
    obtain ⟨-, hc, hokc⟩ := hc.facts (by omega)
    obtain ⟨-, hd, hokd⟩ := hd.facts (by omega)
    refine .escape (by decide) (by decide) ?_
    exact .plain ha (hdigit a hoka) (.plain hb (hdigit b hokb)
      (.plain hc (hdigit c hokc) (.plain hd (hdigit d hokd) ih)))

/-- A form is escaped throughout if the digits and the characters that stand for themselves are right. -/
theorem Form.escaping {ok : Char → Prop} {p : Place} {c : Char} {t : List Char} (h : Form p c t)
    (hbare : p.Bare c → ok c) (hdigit : ∀ d, endsKey d = false → ok d) : Escaping ok t := by
  cases h with
  | units h => exact h.escaping hdigit
  | @control x h =>
    have hx : x ≠ '\n' ∧ x ≠ '\r' := by
      constructor <;> (rintro rfl; simp at h)
    exact .escape hx.1 hx.2 .nil
  | escaped h => exact .escape (fun hc => h (by simp [hc])) (fun hc => h (by simp [hc])) .nil
  | bare h => exact .plain h.ne_backslash (hbare h) .nil

theorem Spells.escaping {ok : Char → Prop} {p : Place} {cs t : List Char} (h : Spells p cs t)
    (hbare : ∀ c, p.Bare c ∨ p.next.Bare c → ok c) (hdigit : ∀ d, endsKey d = false → ok d) :
    Escaping ok t := by
  induction h with
  | nil => exact .nil
  | @cons p c cs t ts hc _ ih =>
    have hnext : p.next.next = p.next := by cases p <;> rfl
    refine (hc.escaping (fun h => hbare c (Or.inl h)) hdigit).append (ih fun c hc => ?_)
    rw [hnext, or_self] at hc
    exact hbare c (Or.inr hc)

theorem Spells.escaping_key {cs t : List Char} (h : Spells .keyStart cs t) :
    Escaping (fun c => endsKey c = false) t := by
  refine h.escaping (fun c hc => ?_) fun d hd => hd
  rcases hc with ⟨-, hblank, heq, hcolon, -⟩ | ⟨-, hblank, heq, hcolon⟩ <;>
    simp [endsKey, hblank, heq, hcolon]

theorem Spells.escaping_value {cs t : List Char} (h : Spells .valueStart cs t) :
    Escaping (fun c => c ≠ '\n' ∧ c ≠ '\r') t := by
  refine h.escaping (fun c hc => ?_) fun d hd => not_lineEnd_of_endsKey hd
  rcases hc with ⟨-, hblank⟩ | ⟨-, hr, hn⟩
  · constructor <;> (rintro rfl; revert hblank; decide)
  · exact ⟨hn, hr⟩

/-! ### Unescaping -/

theorem pieces_plain {c : Char} (h : c ≠ '\\') (rest : List Char) :
    pieces (c :: rest) = .char c :: pieces rest := by
  rw [pieces.eq_def]
  split <;> simp_all

theorem pieces_escape {c : Char} (h : c ≠ 'u') (rest : List Char) :
    pieces ('\\' :: c :: rest) = .char (escapedChar c) :: pieces rest := by
  simp [pieces, h]

theorem pieces_units {us : List UInt16} {t : List Char} (h : UnitsForm us t) (rest : List Char) :
    pieces (t ++ rest) = us.map .unit ++ pieces rest := by
  induction h with
  | nil => rfl
  | @cons u us a b c d t ha hb hc hd _ ih =>
    have hu := u.toNat_lt
    have hhex : hexUnit? a b c d = some u := by
      rw [hexUnit?, (ha.facts (by omega)).1, (hb.facts (by omega)).1, (hc.facts (by omega)).1,
        (hd.facts (by omega)).1]
      show some _ = some u
      congr 1
      rw [← UInt16.toNat_inj, Text.toNat_toUInt16 (by omega)]
      omega
    simp [pieces, hhex, ih]

theorem joinPieces_charUnits (c : Char) (ps : List Piece) :
    joinPieces ((Text.charUnits c).map .unit ++ ps) = c :: joinPieces ps := by
  rcases Text.charUnits_cases c with ⟨u, hu, hhigh, hchar⟩ | ⟨u, v, huv, hhigh, hlow, hpair⟩
  · rw [hu, List.map_singleton, List.singleton_append]
    -- a unit behind this one might be taken for the second of a pair
    cases ps with
    | nil => simp [joinPieces, hchar]
    | cons q ps => cases q <;> simp [joinPieces, hchar, hhigh]
  · rw [huv]
    simp [joinPieces, hhigh, hlow, hpair]

/-- A form stands for its character, whatever follows it. -/
theorem Form.join_append {p : Place} {c : Char} {t : List Char} (h : Form p c t) (rest : List Char) :
    joinPieces (pieces (t ++ rest)) = c :: joinPieces (pieces rest) := by
  cases h with
  | units h => rw [pieces_units h, joinPieces_charUnits]
  | @control x h =>
    have hx : x ≠ 'u' ∧ escapedChar x = c := by
      simp only [List.mem_cons, Prod.mk.injEq, List.not_mem_nil, or_false] at h
      rcases h with ⟨rfl, rfl⟩ | ⟨rfl, rfl⟩ | ⟨rfl, rfl⟩ | ⟨rfl, rfl⟩ <;> decide
    rw [List.cons_append, List.singleton_append, pieces_escape hx.1, hx.2, joinPieces]
  | escaped h =>
    have hc : c ≠ 'u' ∧ escapedChar c = c := by
      refine ⟨fun hu => h (by simp [hu]), ?_⟩
      unfold escapedChar
      split <;> simp_all
    rw [List.cons_append, List.singleton_append, pieces_escape hc.1, hc.2, joinPieces]
  | bare h => rw [List.singleton_append, pieces_plain h.ne_backslash, joinPieces]

/-- **Unescaping reads back what is spelled.** -/
theorem unescape_spells {p : Place} {cs t : List Char} (h : Spells p cs t) : unescape t = cs := by
  induction h with
  | nil => rfl
  | cons hc _ ih =>
    rw [unescape, hc.join_append, ← unescape, ih]

/-! ### Lines -/

theorem Form.exists_head {p : Place} {c : Char} {t : List Char} (h : Form p c t) :
    ∃ x rest, t = x :: rest ∧ (x = '\\' ∨ p.Bare x) := by
  cases h with
  | units h =>
    have hne : Text.charUnits c ≠ [] := by
      rcases Text.charUnits_cases c with ⟨u, hu, -⟩ | ⟨u, v, huv, -⟩ <;> simp [*]
    generalize Text.charUnits c = us at h hne
    cases h with
    | nil => exact absurd rfl hne
    | cons => exact ⟨_, _, rfl, Or.inl rfl⟩
  | control h => exact ⟨_, _, rfl, Or.inl rfl⟩
  | escaped h => exact ⟨_, _, rfl, Or.inl rfl⟩
  | bare h => exact ⟨_, _, rfl, Or.inr h⟩

theorem Spells.head {p : Place} {cs t : List Char} (h : Spells p cs t) {x : Char} {rest : List Char}
    (ht : t = x :: rest) : x = '\\' ∨ p.Bare x := by
  cases h with
  | nil => cases ht
  | cons hc _ =>
    obtain ⟨y, ys, rfl, hy⟩ := hc.exists_head
    rw [List.cons_append] at ht
    cases ht
    exact hy

theorem trimStart_eq_self {cs : List Char}
    (h : ∀ x rest, cs = x :: rest → Text.isBlank x = false) : Text.trimStart cs = cs := by
  cases cs with
  | nil => rfl
  | cons x rest => exact Text.trimStart_cons_of_not_blank (h x rest rfl)

theorem Escaping.notMem {cs : List Char} (h : Escaping (fun c => c ≠ '\n' ∧ c ≠ '\r') cs) :
    '\n' ∉ cs ∧ '\r' ∉ cs := by
  induction h with
  | nil => simp
  | plain _ hok _ ih =>
    simp only [List.mem_cons, not_or]
    exact ⟨⟨Ne.symm hok.1, ih.1⟩, Ne.symm hok.2, ih.2⟩
  | escape hn hr _ ih =>
    simp only [List.mem_cons, not_or]
    exact ⟨⟨by decide, Ne.symm hn, ih.1⟩, by decide, Ne.symm hr, ih.2⟩

namespace WritesEntry

variable {e : String × String} {line : List Char}

theorem exists_head (h : WritesEntry e line) :
    ∃ x rest, line = x :: rest ∧ Text.isBlank x = false ∧ x ≠ '#' ∧ x ≠ '!' := by
  obtain ⟨key, value, hkey, -, rfl⟩ := h
  cases key with
  | nil => exact ⟨'=', value, rfl, by decide⟩
  | cons x rest =>
    refine ⟨x, _, rfl, ?_⟩
    rcases hkey.head rfl with rfl | ⟨-, hblank, -, -, hhash, hbang⟩
    · decide
    · exact ⟨hblank, hhash, hbang⟩

theorem escaping (h : WritesEntry e line) :
    Escaping (fun c => c ≠ '\n' ∧ c ≠ '\r') line := by
  obtain ⟨key, value, hkey, hvalue, rfl⟩ := h
  refine (hkey.escaping_key.imp fun c hc => not_lineEnd_of_endsKey hc).append ?_
  exact .plain (by decide) (by decide) hvalue.escaping_value

theorem logicalLines_cons (h : WritesEntry e line) (ls : List (List Char)) :
    logicalLines none (line :: ls) = line :: logicalLines none ls := by
  have hcontinued : isContinued line.reverse = false := by
    rw [isContinued_reverse, h.escaping.leavesOpen_eq]
  obtain ⟨x, rest, hline, hblank, hhash, hbang⟩ := h.exists_head
  have htrim : Text.trimStart line = line := by
    rw [hline, Text.trimStart_cons_of_not_blank hblank]
  have hskipped : isSkipped line = false := by simp [hline, isSkipped, hhash, hbang]
  simp [logicalLines, htrim, hskipped, hcontinued]

/-- **A line is read as the entry that it was written from.** -/
theorem entry_eq (h : WritesEntry e line) : entry line = e := by
  obtain ⟨key, value, hkey, hvalue, rfl⟩ := h
  have hseparator : cutKey ('=' :: value) = ([], '=' :: value) := by simp [cutKey, endsKey]
  have hcut : cutKey (key ++ '=' :: value) = (key, '=' :: value) := by
    rw [hkey.escaping_key.cutKey_append, hseparator, List.append_nil]
  have htrim : Text.trimStart value = value := by
    refine trimStart_eq_self fun x rest hx => ?_
    rcases hvalue.head hx with rfl | ⟨-, hblank⟩
    · decide
    · exact hblank
  have hraw : rawValue ('=' :: value) = value := by
    rw [rawValue, Text.trimStart_cons_of_not_blank (by decide)]
    simpa using htrim
  rw [entry, hcut]
  simp only [hraw, unescape_spells hkey, unescape_spells hvalue, String.ofList_toList]

end WritesEntry

namespace Properties

theorem logicalLines_of_writes {es : List (String × String)} {text : List Char}
    (h : Writes es text) : (logicalLines none (Text.lines text)).map entry = es := by
  induction h with
  | nil => rfl
  | @last e line he =>
    obtain ⟨x, rest, hline, -⟩ := he.exists_head
    rw [Text.lines_of_notMem (by simp [hline]) he.escaping.notMem.1, he.logicalLines_cons,
      logicalLines, List.map_singleton, he.entry_eq]
  | @cons e es line ending text he hending _ ih =>
    have hwhole : Text.Whole (line ++ ending) := by
      rcases hending with rfl | rfl <;> exact Or.inr (by simp)
    rw [Text.lines_append hwhole, Text.lines_ended he.escaping.notMem.1 he.escaping.notMem.2 hending,
      List.singleton_append, he.logicalLines_cons, List.map_cons, he.entry_eq, ih]

/-- The value of a key is that of the last of its entries. -/
theorem get?_eq_lookup (p : Properties) (key : String) : p.get? key = p.entries.reverse.lookup key := by
  rw [get?]
  induction p.entries.reverse with
  | nil => rfl
  | cons e rest ih =>
    obtain ⟨k, v⟩ := e
    rw [List.find?_cons, List.lookup_cons, BEq.comm (a := k)]
    cases key == k with
    | true => rfl
    | false => exact ih

/-- **Every mapping can be written, and what is written is read.** Whatever forms its characters have, the text is
read as exactly the entries that were written, in their order; so the last of those with one key counts. -/
theorem read_written (es : List (String × String)) :
    (∃ text, Writes es text) ∧
    ∀ text : String, Writes es text.toList →
      (read text).entries = es ∧ ∀ key, (read text).get? key = es.reverse.lookup key := by
  refine ⟨exists_writes es, fun text h => ?_⟩
  have hentries : (read text).entries = es := logicalLines_of_writes h
  refine ⟨hentries, fun key => ?_⟩
  rw [get?_eq_lookup, hentries]

/-- Keys and values with separators, white space, a hash sign and a surrogate pair. -/
def mixedEntries : List (String × String) := [("#k =é", "= a\t"), ("", ""), ("k", "😀\\")]

/-- The entries in mixed forms, on three lines each of which ends in another way. -/
def mixedText : String := "\\#k\\u0020\\=\\u00e9== a\\t\r\n=\nk=\\uD83D\\ude00\\\\"

theorem read_written_mixed :
    Writes mixedEntries mixedText.toList ∧ (read mixedText).entries = mixedEntries := by
  have hspace : Form .keyRest ' ' ['\\', 'u', '0', '0', '2', '0'] :=
    .units (.cons (by decide) (by decide) (by decide) (by decide) .nil)
  have haccent : Form .keyRest 'é' ['\\', 'u', '0', '0', 'e', '9'] :=
    .units (.cons (by decide) (by decide) (by decide) (by decide) .nil)
  have hface : Form .valueStart '😀' ['\\', 'u', 'D', '8', '3', 'D', '\\', 'u', 'd', 'e', '0', '0'] :=
    .units (.cons (by decide) (by decide) (by decide) (by decide)
      (.cons (by decide) (by decide) (by decide) (by decide) .nil))
  have hfirst : WritesEntry ("#k =é", "= a\t") "\\#k\\u0020\\=\\u00e9== a\\t".toList := by
    have hkey : Spells .keyStart ['#', 'k', ' ', '=', 'é'] _ :=
      .cons (.escaped (by decide)) (.cons (.bare (by decide)) (.cons hspace
        (.cons (.escaped (by decide)) (.cons haccent (.nil _)))))
    have hvalue : Spells .valueStart ['=', ' ', 'a', '\t'] _ :=
      .cons (.bare (by decide)) (.cons (.bare (by decide)) (.cons (.bare (by decide))
        (.cons (.control (List.mem_cons_self)) (.nil _))))
    exact ⟨_, _, hkey, hvalue, by decide⟩
  have hempty : WritesEntry ("", "") "=".toList := ⟨[], [], .nil _, .nil _, by decide⟩
  have hlast : WritesEntry ("k", "😀\\") "k=\\uD83D\\ude00\\\\".toList := by
    have hkey : Spells .keyStart ['k'] _ := .cons (.bare (by decide)) (.nil _)
    have hvalue : Spells .valueStart ['😀', '\\'] _ :=
      .cons hface (.cons (.escaped (by decide)) (.nil _))
    exact ⟨_, _, hkey, hvalue, by decide⟩
  have hwrites : Writes mixedEntries mixedText.toList := by
    have h := Writes.cons hfirst (Or.inr rfl) (.cons hempty (Or.inl rfl) (.last hlast))
    have htext : mixedText.toList = "\\#k\\u0020\\=\\u00e9== a\\t".toList ++ ['\r', '\n'] ++
        ("=".toList ++ ['\n'] ++ "k=\\uD83D\\ude00\\\\".toList) := by decide
    rw [htext]
    exact h
  exact ⟨hwrites, ((read_written mixedEntries).2 mixedText hwrites).1⟩

end Properties

end TypedConfig.Source
