import TypedConfig.Proofs.Resolution.Resolved

/-!
When a fingerprint tells texts apart. A fingerprint is a line for each key and text, but a text may
itself contain line breaks, and then it may read like lines of later keys. Two lists of texts under the
same keys have one fingerprint exactly if they are the same or if, at the first text in which they
differ, one text goes on where the other ends and swallows lines that come after it (`Clash`).
-/

namespace TypedConfig.Resolution

/-- A key and its text. -/
abbrev KeyedText := String × String

/-- The keys and texts of accessors. -/
def keyedTexts (accessors : List ResolvedAccessor) : List KeyedText :=
  accessors.map fun a => (a.key, a.text)

/-- The lines of keys and texts. -/
def written (texts : List KeyedText) : String :=
  String.join (texts.map fun p => fingerprintLine p.1 p.2)

theorem fingerprint_eq (accessors : List ResolvedAccessor) :
    fingerprint accessors = written (keyedTexts accessors) := by
  rw [fingerprint, written, keyedTexts, List.map_map]
  rfl

/-- The second list differs from the first in a text that goes on after a line break, and what it goes
on with, together with the lines after it, is what the first list has after the text. -/
inductive Hides : List KeyedText → List KeyedText → Prop
  | here {key text more : String} {rest rest' : List KeyedText}
      (h : written rest = more ++ "\n" ++ written rest') :
      Hides ((key, text) :: rest) ((key, text ++ "\n" ++ more) :: rest')
  | later {p : KeyedText} {rest rest' : List KeyedText} (h : Hides rest rest') :
      Hides (p :: rest) (p :: rest')

/-- One of two lists hides a difference from the other. -/
def Clash (texts texts' : List KeyedText) : Prop := Hides texts texts' ∨ Hides texts' texts

section Lines

variable {key text text' : String} {texts texts' rest rest' : List KeyedText}

@[simp] theorem written_nil : written [] = "" := rfl

theorem written_cons (key text : String) (rest : List KeyedText) :
    written ((key, text) :: rest) = key ++ "=" ++ (text ++ "\n" ++ written rest) := by
  rw [written, List.map_cons, String.join_cons]
  simp only [fingerprintLine, written, String.append_assoc]

/-- A longer part before a line break contains a line break where the shorter one ends. -/
theorem exists_of_append_break {xs ys as bs : List Char} (h : xs ++ '\n' :: as = ys ++ '\n' :: bs)
    (hne : xs ≠ ys) :
    (∃ ws, ys = xs ++ '\n' :: ws ∧ as = ws ++ '\n' :: bs) ∨
      ∃ ws, xs = ys ++ '\n' :: ws ∧ bs = ws ++ '\n' :: as := by
  rcases List.append_eq_append_iff.1 h with ⟨cs, rfl, hcs⟩ | ⟨cs, rfl, hcs⟩
  · cases cs with
    | nil => simp at hne
    | cons c ws =>
      obtain ⟨rfl, rfl⟩ := List.cons.inj hcs
      exact Or.inl ⟨ws, rfl, rfl⟩
  · cases cs with
    | nil => simp at hne
    | cons c ws =>
      obtain ⟨rfl, rfl⟩ := List.cons.inj hcs
      exact Or.inr ⟨ws, rfl, rfl⟩

theorem toList_append_break (text after : String) :
    (text ++ "\n" ++ after).toList = text.toList ++ '\n' :: after.toList := by
  simp

/-- Two texts with what comes after them: where they read the same, one text goes on where the other
ends. -/
theorem exists_of_text_break {after after' : String}
    (h : text ++ "\n" ++ after = text' ++ "\n" ++ after') (hne : text ≠ text') :
    (∃ more, text' = text ++ "\n" ++ more ∧ after = more ++ "\n" ++ after') ∨
      ∃ more, text = text' ++ "\n" ++ more ∧ after' = more ++ "\n" ++ after := by
  rw [← String.toList_inj, toList_append_break, toList_append_break] at h
  have hne : text.toList ≠ text'.toList := fun h => hne (String.toList_inj.1 h)
  rcases exists_of_append_break h hne with ⟨ws, h1, h2⟩ | ⟨ws, h1, h2⟩
  · refine Or.inl ⟨String.ofList ws, ?_, ?_⟩
    · rw [← String.toList_inj, toList_append_break, String.toList_ofList, h1]
    · rw [← String.toList_inj, toList_append_break, String.toList_ofList, h2]
  · refine Or.inr ⟨String.ofList ws, ?_, ?_⟩
    · rw [← String.toList_inj, toList_append_break, String.toList_ofList, h1]
    · rw [← String.toList_inj, toList_append_break, String.toList_ofList, h2]

theorem ne_append_break (text more : String) : text ≠ text ++ "\n" ++ more := by
  intro h
  have := congrArg (fun s => s.toList.length) h
  simp at this

/-! ### Hidden differences -/

/-- What hides a difference is a difference under one fingerprint. -/
theorem Hides.written_eq (h : Hides texts texts') : written texts = written texts' ∧ texts ≠ texts' := by
  induction h with
  | @here key text more rest rest' h =>
    refine ⟨?_, fun heq => ?_⟩
    · rw [written_cons, written_cons, h]
      simp only [String.append_assoc]
    · rw [List.cons.injEq, Prod.mk.injEq] at heq
      exact ne_append_break text more heq.1.2
  | @later p rest rest' _ ih =>
    obtain ⟨key, text⟩ := p
    refine ⟨?_, fun heq => ih.2 (List.cons.inj heq).2⟩
    rw [written_cons, written_cons, ih.1]

/-- **A fingerprint tells texts apart unless they clash.** -/
theorem written_eq_iff (hkeys : texts.map Prod.fst = texts'.map Prod.fst) :
    written texts = written texts' ∧ texts ≠ texts' ↔ Clash texts texts' := by
  constructor
  · rintro ⟨h, hne⟩
    induction texts generalizing texts' with
    | nil =>
      rw [List.map_nil, eq_comm, List.map_eq_nil_iff] at hkeys
      exact absurd hkeys.symm hne
    | cons p rest ih =>
      cases texts' with
      | nil => simp at hkeys
      | cons p' rest' =>
        obtain ⟨key, text⟩ := p
        obtain ⟨key', text'⟩ := p'
        obtain ⟨rfl, hrests⟩ : key = key' ∧ rest.map Prod.fst = rest'.map Prod.fst := by
          simpa using hkeys
        rw [written_cons, written_cons, String.append_right_inj] at h
        by_cases ht : text = text'
        · subst ht
          rw [String.append_right_inj] at h
          have hrest : rest ≠ rest' := fun hrest => hne (by rw [hrest])
          exact (ih hrests h hrest).imp .later .later
        · rcases exists_of_text_break h ht with ⟨more, rfl, hafter⟩ | ⟨more, rfl, hafter⟩
          · exact Or.inl (.here hafter)
          · exact Or.inr (.here hafter)
  · rintro (h | h)
    · exact h.written_eq
    · exact ⟨h.written_eq.1.symm, Ne.symm h.written_eq.2⟩

theorem not_hides_of_no_break (h : ∀ p ∈ texts', '\n' ∉ p.2.toList) : ¬ Hides texts texts' := by
  intro hh
  induction hh with
  | @here key text more rest rest' _ => exact h _ List.mem_cons_self (by simp)
  | later _ ih => exact ih fun p hp => h p (List.mem_cons_of_mem _ hp)

/-- A single text hides nothing: there is no line after it to be swallowed. -/
theorem not_hides_of_length_le (h : texts.length ≤ 1) : ¬ Hides texts texts' := by
  intro hh
  cases hh with
  | @here key text more rest rest' hw =>
    rw [List.length_cons] at h
    obtain rfl : rest = [] := List.eq_nil_of_length_eq_zero (by omega)
    have := congrArg String.toList hw
    simp at this
  | later h' =>
    rw [List.length_cons] at h
    obtain rfl : _ = [] := List.eq_nil_of_length_eq_zero (Nat.le_zero.1 (Nat.le_of_succ_le_succ h))
    cases h'

theorem not_clash_of_no_break (h : ∀ p ∈ texts, '\n' ∉ p.2.toList)
    (h' : ∀ p ∈ texts', '\n' ∉ p.2.toList) : ¬ Clash texts texts' := by
  rintro (hc | hc)
  · exact not_hides_of_no_break h' hc
  · exact not_hides_of_no_break h hc

theorem not_clash_of_length_le (h : texts.length ≤ 1) (h' : texts'.length ≤ 1) :
    ¬ Clash texts texts' := by
  rintro (hc | hc)
  · exact not_hides_of_length_le h hc
  · exact not_hides_of_length_le h' hc

end Lines

/-! ### Bindings of one contract -/

section Bindings

open Contract (Accessor Descriptor)

variable {d : Descriptor} {b b' : Binding} {accessors : List Accessor}
  {resolved resolved' : List ResolvedAccessor}

theorem keys_of_resolves (h : List.Forall₂ Resolves accessors resolved) :
    (keyedTexts resolved).map Prod.fst = accessors.map Accessor.key := by
  induction h with
  | nil => rfl
  | @cons a r accessors resolved hr _ ih =>
    change r.key :: (keyedTexts resolved).map Prod.fst = a.key :: accessors.map Accessor.key
    rw [ih, hr.key]

theorem keyedTexts_eq_iff (h : List.Forall₂ Resolves accessors resolved)
    (h' : List.Forall₂ Resolves accessors resolved') :
    keyedTexts resolved = keyedTexts resolved' ↔
      resolved.map ResolvedAccessor.text = resolved'.map ResolvedAccessor.text := by
  have hkeys := (keys_of_resolves h).trans (keys_of_resolves h').symm
  have htexts : ∀ l : List ResolvedAccessor,
      (keyedTexts l).map Prod.snd = l.map ResolvedAccessor.text := by
    intro l
    rw [keyedTexts, List.map_map]
    rfl
  constructor
  · intro heq
    rw [← htexts, ← htexts, heq]
  · intro heq
    rw [← htexts, ← htexts] at heq
    have hzip : ∀ l : List KeyedText, List.zip (l.map Prod.fst) (l.map Prod.snd) = l := by
      intro l
      rw [List.zip_map', List.map_id'' fun _ => rfl]
    rw [← hzip (keyedTexts resolved), ← hzip (keyedTexts resolved'), hkeys, heq]

/-- **What one fingerprint tells of the texts of a contract.** -/
theorem Binding.Of.fingerprint_separates_iff (hb : b.Of d) (hb' : b'.Of d) :
    (b.fingerprint = b'.fingerprint →
        b.accessors.map ResolvedAccessor.text = b'.accessors.map ResolvedAccessor.text) ↔
      ¬ Clash (keyedTexts b.accessors) (keyedTexts b'.accessors) := by
  have hkeys := (keys_of_resolves hb.accessors).trans (keys_of_resolves hb'.accessors).symm
  rw [← written_eq_iff hkeys, ← keyedTexts_eq_iff hb.accessors hb'.accessors, hb.fingerprint,
    hb'.fingerprint, fingerprint_eq, fingerprint_eq, not_and_not_right]

/-- The fingerprints of a contract tell its texts apart. -/
def Separates (d : Descriptor) : Prop :=
  ∀ b b' : Binding, b.Of d → b'.Of d → b.fingerprint = b'.fingerprint →
    b.accessors.map ResolvedAccessor.text = b'.accessors.map ResolvedAccessor.text

theorem separates_of_length_le (h : d.accessors.length ≤ 1) : Separates d := by
  intro b b' hb hb'
  have hlength : ∀ {b : Binding}, b.Of d → (keyedTexts b.accessors).length ≤ 1 := by
    intro b hb
    rw [keyedTexts, List.length_map, ← hb.accessors.length_eq]
    exact h
  exact (hb.fingerprint_separates_iff hb').2 (not_clash_of_length_le (hlength hb) (hlength hb'))

end Bindings

end TypedConfig.Resolution
