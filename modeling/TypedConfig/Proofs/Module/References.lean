import TypedConfig.Proofs.Module.Decoding
import TypedConfig.Proofs.Module.Sections

/-!
The references among the entries of a pool. A reference is looked into only where the structure, a method or an
instruction leads to it, and everything on such a path resolves. So a module is parsed alike against every table
that has the entries whose references resolve (`Contents.parseAgainst_of_covers`), and the references that dangle
in an accepted module are those of entries that it could do without (`Contents.resolves_or_spare`).
-/

namespace TypedConfig.Module

/-! ### References that resolve -/

/-- Whether what an entry refers to is in its table, and is of the sort that the entry wants. -/
def Entry.Resolves (t : PoolTable) : Entry → Prop
  | .classRef name => ∃ s, t.get name = .ok (.text s)
  | .string place => ∃ s, t.get place = .ok (.text s)
  | .nameAndType name type =>
    (∃ s, t.get name = .ok (.text s)) ∧ ∃ s, t.get type = .ok (.text s)
  | .methodRef classIndex target =>
    (∃ name, t.get classIndex = .ok (.classRef name)) ∧
      ∃ name type, t.get target = .ok (.nameAndType name type)
  | _ => True

namespace PoolTable

/-- All references among the entries of the table resolve. -/
def NoneDangles (t : PoolTable) : Prop := ∀ i e, t.get i = .ok e → e.Resolves t

/-- The second table has every entry of the first whose references resolve. -/
def Covers (t t' : PoolTable) : Prop :=
  ∀ i e, t.get i = .ok e → e.Resolves t → t'.get i = .ok e

/-- The table without the entry at an index. -/
def without (t : PoolTable) (i : Nat) : PoolTable := ⟨t.entries.setIfInBounds i .continuation⟩

section Covers

variable {t t' : PoolTable} {i : Nat} {e : Entry} {s : String}

theorem get_without_of_ne {j : Nat} (h : i ≠ j) : (t.without i).get j = t.get j := by
  rw [get, get, without, Array.getElem?_setIfInBounds_ne h]

theorem covers_without (h : t.get i = .ok e) (hdangles : ¬ e.Resolves t) :
    t.Covers (t.without i) := by
  intro j e' he' hresolves
  have hij : i ≠ j := by
    rintro rfl
    rw [h] at he'
    cases he'
    exact hdangles hresolves
  rw [get_without_of_ne hij, he']

namespace Covers

theorem get_text (h : t.Covers t') (hs : t.text i = .ok s) : t'.text i = .ok s := by
  rw [text_eq_ok] at hs ⊢
  exact h i _ hs trivial

theorem get_className (h : t.Covers t') (hs : t.className i = .ok s) :
    t'.className i = .ok s := by
  obtain ⟨name, hclass, hname⟩ := className_eq_ok.1 hs
  refine className_eq_ok.2 ⟨name, ?_, h.get_text hname⟩
  exact h i _ hclass ⟨s, text_eq_ok.1 hname⟩

end Covers

/-- The entry that a constant is decoded from resolves. -/
theorem exists_get_of_constant {kind : Scalar.Kind} {method : String} {v : Scalar.Value}
    (h : t.constant i kind method = .ok v) : ∃ e, t.get i = .ok e ∧ e.Resolves t := by
  obtain ⟨e, hget, h⟩ := bind_eq_ok_iff.1 h
  refine ⟨e, hget, ?_⟩
  cases e with
  | string place =>
    cases kind with
    | text =>
      obtain ⟨s, hs, -⟩ := bind_eq_ok_iff.1 h
      exact ⟨s, text_eq_ok.1 hs⟩
    | _ => cases h
  | classRef | nameAndType | methodRef => cases kind <;> cases h
  | _ => trivial

theorem Covers.get_constant {kind : Scalar.Kind} {method : String} {v : Scalar.Value}
    (h : t.Covers t') (hv : t.constant i kind method = .ok v) :
    t'.constant i kind method = .ok v := by
  obtain ⟨e, hget, hresolves⟩ := exists_get_of_constant hv
  obtain ⟨e', hget', hv⟩ := bind_eq_ok_iff.1 hv
  obtain rfl : e = e' := Except.ok.inj (hget.symm.trans hget')
  refine bind_eq_ok_iff.2 ⟨e, h i e hget hresolves, ?_⟩
  cases e with
  | string place =>
    cases kind with
    | text =>
      obtain ⟨s, hs, hv⟩ := bind_eq_ok_iff.1 hv
      exact bind_eq_ok_iff.2 ⟨s, h.get_text hs, hv⟩
    | _ => cases hv
  | _ => cases kind <;> exact hv

end Covers

end PoolTable

/-! ### Methods -/

namespace RawMethod

variable {t t' : PoolTable} {m : RawMethod} {v : Scalar.Value} {superIndex : Nat}

theorem checkInitializer_of_covers (h : t.Covers t')
    (hsuper : t.className superIndex = .ok superName)
    (hm : m.checkInitializer t superIndex = .ok ()) :
    m.checkInitializer t' superIndex = .ok () := by
  rw [checkInitializer_eq_ok_iff] at hm ⊢
  obtain ⟨htype, high, low, target, name, type, hcode, hpatched, href, htarget, hname, hdescriptor⟩ :=
    hm
  obtain ⟨place, hclass, -⟩ := PoolTable.className_eq_ok.1 hsuper
  have href' := h _ _ href ⟨⟨place, hclass⟩, name, type, htarget⟩
  have htarget' := h _ _ htarget
    ⟨⟨_, PoolTable.text_eq_ok.1 hname⟩, _, PoolTable.text_eq_ok.1 hdescriptor⟩
  exact ⟨htype, high, low, target, name, type, hcode, hpatched, href', htarget', h.get_text hname,
    h.get_text hdescriptor⟩

theorem decode_of_covers (h : t.Covers t') (hv : m.decode t = .ok v) : m.decode t' = .ok v := by
  unfold decode at hv ⊢
  cases hkind : kindOfDescriptor? m.type with
  | none =>
    rw [hkind] at hv
    cases hv
  | some kind =>
    rw [hkind] at hv
    simp only at hv ⊢
    -- a method that loads a constant goes on with it as before
    have hload : ∀ {i : Nat} {f : Scalar.Value → Except ActivationError Scalar.Value},
        (t.constant i kind m.name >>= f) = .ok v → (t'.constant i kind m.name >>= f) = .ok v := by
      intro i f hf
      obtain ⟨w, hw, hf⟩ := bind_eq_ok_iff.1 hf
      exact bind_eq_ok_iff.2 ⟨w, h.get_constant hw, hf⟩
    split at hv
    · exact hv
    · rename_i op index last hcode
      by_cases hop : op = opLoad ∧ !kind.isWide
      · simp only [if_pos hop] at hv ⊢
        exact hload hv
      · simpa only [if_neg hop] using hv
    · rename_i op high low last hcode
      by_cases hop : op = opLoadLong ∧ !kind.isWide ∨ op = opLoadWide ∧ kind.isWide
      · simp only [if_pos hop] at hv ⊢
        exact hload hv
      · simpa only [if_neg hop] using hv
    · exact hv

end RawMethod

theorem Decoded.of_covers {t t' : PoolTable} {superIndex : Nat} {ms : List RawMethod}
    {slots : List Slot} (hd : Decoded t superIndex ms slots) (h : t.Covers t')
    (hsuper : t.className superIndex = .ok superName) : Decoded t' superIndex ms slots := by
  refine ⟨hd.initialized, ?_, ?_, hd.nodup⟩
  · intro m hm hname
    exact RawMethod.checkInitializer_of_covers h hsuper (hd.initializers m hm hname)
  · exact hd.accessors.imp fun m s hs => ⟨hs.name, hs.type, RawMethod.decode_of_covers h hs.decode⟩

/-! ### Steps of reading -/

/-- The second step succeeds wherever the first does, and comes to the same. -/
def Follows {α : Type} (r r' : Reader α) : Prop := ∀ c a d, r c = .ok a d → r' c = .ok a d

section Follows

variable {α β : Type} {r r' : Reader α} {f f' : α → Reader β} {t t' : PoolTable}

theorem Follows.refl (r : Reader α) : Follows r r := fun _ _ _ h => h

theorem Follows.bind (h : Follows r r') (k : ∀ a, Follows (f a) (f' a)) :
    Follows (r >>= f) (r' >>= f') := by
  intro c b d hb
  obtain ⟨a, e, ha, hf⟩ := Reader.bind_eq_ok.1 hb
  exact Reader.bind_eq_ok.2 ⟨a, e, h c a e ha, k a e b d hf⟩

theorem Follows.after (k : ∀ a, Follows (f a) (f' a)) : Follows (r >>= f) (r >>= f') :=
  (refl r).bind k

theorem Follows.look {x x' : Except ActivationError α} (h : ∀ a, x = .ok a → x' = .ok a) :
    Follows (Reader.look x) (Reader.look x') := by
  intro c a d ha
  obtain ⟨hx, hcd⟩ := Reader.look_eq_ok.1 ha
  exact Reader.look_eq_ok.2 ⟨h a hx, hcd⟩

theorem RawMethod.read_follows (h : t.Covers t') :
    Follows (RawMethod.read t) (RawMethod.read t') := by
  have htext : ∀ i, Follows (Reader.look (t.text i)) (Reader.look (t'.text i)) :=
    fun i => .look fun _ => h.get_text
  exact .after fun _ => .after fun _ => (htext _).bind fun _ => .after fun _ =>
    (htext _).bind fun _ => .after fun _ => .after fun _ => .after fun _ =>
    (htext _).bind fun _ => .refl _

theorem readMethods_follows (h : t.Covers t') (n : Nat) (acc : List RawMethod) :
    Follows (readMethods t n acc) (readMethods t' n acc) := by
  induction n generalizing acc with
  | zero => exact .refl _
  | succ n ih =>
    rw [readMethods_succ, readMethods_succ]
    exact (RawMethod.read_follows h).bind fun m => ih (m :: acc)

theorem readInterface_follows (h : t.Covers t') :
    Follows (readInterface t) (readInterface t') := by
  refine .after fun n => ?_
  split
  · exact .refl _
  · exact .after fun _ => (Follows.look fun _ => h.get_className).bind fun _ => .refl _
  · exact .refl _

theorem Heading.read_follows (h : t.Covers t') : Follows (Heading.read t) (Heading.read t') := by
  have hclass : ∀ i, Follows (Reader.look (t.className i)) (Reader.look (t'.className i)) :=
    fun i => .look fun _ => h.get_className
  exact .after fun _ => .after fun _ => (hclass _).bind fun _ => .after fun _ =>
    (hclass _).bind fun _ => .after fun _ => (readInterface_follows h).bind fun _ => .refl _

end Follows

/-! ### Modules -/

section Modules

variable {t t' : PoolTable} {c d : Cursor} {sk : Skeleton} {heading : Heading} {p : Contents}

theorem Heading.className_superIndex (h : Heading.read t c = .ok heading d) :
    t.className heading.superIndex = .ok superName := by
  unfold Heading.read at h
  obtain ⟨-, c₁, -, h⟩ := Reader.bind_eq_ok.1 h
  obtain ⟨thisIndex, c₂, -, h⟩ := Reader.bind_eq_ok.1 h
  obtain ⟨typeName, c₃, -, h⟩ := Reader.bind_eq_ok.1 h
  obtain ⟨superIndex, c₄, -, h⟩ := Reader.bind_eq_ok.1 h
  obtain ⟨superType, c₅, hsuper, h⟩ := Reader.bind_eq_ok.1 h
  obtain ⟨_, c₆, hname, h⟩ := Reader.bind_eq_ok.1 h
  obtain ⟨interface, c₇, -, h⟩ := Reader.bind_eq_ok.1 h
  obtain ⟨fields, c₈, -, h⟩ := Reader.bind_eq_ok.1 h
  obtain ⟨-, c₉, -, h⟩ := Reader.bind_eq_ok.1 h
  obtain ⟨count, c₁₀, -, h⟩ := Reader.bind_eq_ok.1 h
  obtain ⟨rfl, -⟩ := Reader.pure_eq_ok.1 h
  obtain rfl : superType = superName := by simpa using (Reader.ensure_eq_ok.1 hname).1
  exact (Reader.look_eq_ok.1 hsuper).1

/-- What follows the pool is read alike against a table that covers the one it was read against. -/
theorem Skeleton.readAfter_of_covers (h : t.Covers t') (hread : readAfter t c = .ok sk d) :
    sk.table = t ∧ t.className sk.superIndex = .ok superName ∧
      readAfter t' c = .ok ⟨t', sk.typeName, sk.superIndex, sk.interface, sk.methods⟩ d := by
  obtain ⟨heading, c₁, hheading, hrest⟩ := Reader.bind_eq_ok.1 hread
  obtain ⟨methods, c₂, hmethods, hrest⟩ := Reader.bind_eq_ok.1 hrest
  obtain ⟨_, c₃, hending, hpure⟩ := Reader.bind_eq_ok.1 hrest
  obtain ⟨rfl, rfl⟩ := Reader.pure_eq_ok.1 hpure
  refine ⟨rfl, Heading.className_superIndex hheading, ?_⟩
  have hheading' := Heading.read_follows h _ _ _ hheading
  have hmethods' := readMethods_follows h _ _ _ _ _ hmethods
  exact Reader.bind_eq_ok.2 ⟨heading, c₁, hheading', Reader.bind_eq_ok.2 ⟨methods, c₂, hmethods',
    Reader.bind_eq_ok.2 ⟨(), c₃, hending, rfl⟩⟩⟩

namespace Contents

/-- **Only what resolves is looked into.** A module is parsed alike against a table that has the entries whose
references resolve. -/
theorem parseAgainst_of_covers (h : t.Covers t') (hp : parseAgainst t c = .ok p) :
    parseAgainst t' c = .ok p := by
  obtain ⟨sk, d, hread, hrest, htype, hinterface, hd⟩ := parseAgainst_eq_ok_iff.1 hp
  obtain ⟨rfl, hsuper, hread'⟩ := Skeleton.readAfter_of_covers h hread
  exact parseAgainst_eq_ok_iff.2
    ⟨_, d, hread', hrest, htype, hinterface, hd.of_covers h hsuper⟩

end Contents

/-- An entry without which what follows the pool is parsed alike. -/
def PoolTable.Spare (t : PoolTable) (c : Cursor) (i : Nat) : Prop :=
  Contents.parseAgainst (t.without i) c = Contents.parseAgainst t c

/-- An entry of an accepted module whose references dangle is spare. -/
theorem PoolTable.spare_of_dangles {i : Nat} {e : Entry} (hp : Contents.parseAgainst t c = .ok p)
    (he : t.get i = .ok e) (hdangles : ¬ e.Resolves t) : t.Spare c i := by
  have hcovers := covers_without he hdangles
  rw [Spare, hp, Contents.parseAgainst_of_covers hcovers hp]

namespace Contents

/-- **What may dangle in an accepted module**: the references of its spare entries, and no others. So no reference
dangles exactly if those of the spare entries do not. -/
theorem resolves_or_spare {bytes : List UInt8} (h : parse bytes = .ok p) :
    ∃ t c, Skeleton.readTable (.start bytes) = .ok t c ∧
      (∀ t', t.Covers t' → parseAgainst t' c = .ok p) ∧
      (∀ i e, t.get i = .ok e → e.Resolves t ∨ t.Spare c i) ∧
      (t.NoneDangles ↔ ∀ i e, t.get i = .ok e → t.Spare c i → e.Resolves t) := by
  rw [parse_eq_parseAgainst] at h
  cases hread : Skeleton.readTable (.start bytes) with
  | error e c =>
    rw [hread] at h
    cases h
  | ok t c =>
    rw [hread] at h
    refine ⟨t, c, rfl, fun t' ht => parseAgainst_of_covers ht h, ?_, ?_⟩
    · intro i e he
      by_cases hresolves : e.Resolves t
      · exact Or.inl hresolves
      · exact Or.inr (PoolTable.spare_of_dangles h he hresolves)
    · constructor
      · intro hnone i e he _
        exact hnone i e he
      · intro hspare i e he
        by_contra hdangles
        exact hdangles (hspare i e he (PoolTable.spare_of_dangles h he hdangles))

theorem resolves_or_spare_ratioModule :
    parse ratioModule = .ok ⟨"T", none, [⟨"r", .float64 0x3FF8000000000000⟩]⟩ ∧
    ∃ t c, Skeleton.readTable (.start ratioModule) = .ok t c ∧
      (∀ t', t.Covers t' →
        parseAgainst t' c = .ok ⟨"T", none, [⟨"r", .float64 0x3FF8000000000000⟩]⟩) ∧
      (∀ i e, t.get i = .ok e → e.Resolves t ∨ t.Spare c i) ∧
      (t.NoneDangles ↔ ∀ i e, t.get i = .ok e → t.Spare c i → e.Resolves t) := by
  have h : parse ratioModule = .ok ⟨"T", none, [⟨"r", .float64 0x3FF8000000000000⟩]⟩ := by
    decide +kernel
  exact ⟨h, resolves_or_spare h⟩

/-- A module without accessors whose last entry is a class that nothing uses. There is no entry at the index
of its name. -/
def danglingModule : List UInt8 :=
  [0xCA, 0xFE, 0xBA, 0xBE, 0x00, 0x00, 0x00, 0x34, 0x00, 0x0B, 0x01, 0x00, 0x04, 0x43, 0x6F,
    0x64, 0x65, 0x01, 0x00, 0x01, 0x54, 0x07, 0x00, 0x02, 0x01, 0x00, 0x10, 0x6A, 0x61, 0x76,
    0x61, 0x2F, 0x6C, 0x61, 0x6E, 0x67, 0x2F, 0x4F, 0x62, 0x6A, 0x65, 0x63, 0x74, 0x07, 0x00,
    0x04, 0x01, 0x00, 0x06, 0x3C, 0x69, 0x6E, 0x69, 0x74, 0x3E, 0x01, 0x00, 0x03, 0x28, 0x29,
    0x56, 0x0C, 0x00, 0x06, 0x00, 0x07, 0x0A, 0x00, 0x05, 0x00, 0x08, 0x07, 0x03, 0xE7, 0x00,
    0x11, 0x00, 0x03, 0x00, 0x05, 0x00, 0x00, 0x00, 0x00, 0x00, 0x01, 0x00, 0x01, 0x00, 0x06,
    0x00, 0x07, 0x00, 0x01, 0x00, 0x01, 0x00, 0x00, 0x00, 0x11, 0x00, 0x02, 0x00, 0x01, 0x00,
    0x00, 0x00, 0x05, 0x2A, 0xB7, 0x00, 0x09, 0xB1, 0x00, 0x00, 0x00, 0x00, 0x00, 0x00]

/-- **A class that nothing uses may have a name out of range.** -/
theorem not_noneDangles_danglingModule :
    parse danglingModule = .ok ⟨"T", none, []⟩ ∧
    ∃ t c, Skeleton.readTable (.start danglingModule) = .ok t c ∧
      t.get 10 = .ok (.classRef 999) ∧ t.get 999 = .error (.badIndex 999) ∧ ¬ t.NoneDangles := by
  refine ⟨by decide +kernel, ?_⟩
  have hentries : (match Skeleton.readTable (.start danglingModule) with
      | .ok t _ => some (t.get 10, t.get 999)
      | .error _ _ => none) = some (.ok (.classRef 999), .error (.badIndex 999)) := by
    decide +kernel
  cases hread : Skeleton.readTable (.start danglingModule) with
  | error e c =>
    rw [hread] at hentries
    cases hentries
  | ok t c =>
    rw [hread] at hentries
    obtain ⟨hclass, hname⟩ : t.get 10 = .ok (.classRef 999) ∧ t.get 999 = .error (.badIndex 999) :=
      Prod.mk.inj (Option.some.inj hentries)
    refine ⟨t, c, rfl, hclass, hname, fun hnone => ?_⟩
    obtain ⟨s, hs⟩ := hnone 10 _ hclass
    rw [hname] at hs
    cases hs

end Contents

end Modules

end TypedConfig.Module
