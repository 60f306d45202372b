import TypedConfig.Proofs.Module.Reading

/-!
Modules that are cut short, and modules with bytes after them. A step of reading that succeeds takes
bytes from the front, and nothing of what it does depends on what comes after these bytes (`Frugal`). So
if only the first of them are there, it goes through the same checks until the bytes run out. No accepted
module is the beginning of another (`parse_prefixes`).
-/

namespace TypedConfig.Module

/-- From a position on, the step takes exactly these bytes and comes to `a`, whatever follows them. With
only the first `n` of them it fails for want of bytes, at an offset at most `n` further on. -/
structure Takes {α : Type} (r : Reader α) (position : Nat) (bs : List UInt8) (a : α) : Prop where
  whole : ∀ rest, r ⟨bs ++ rest, position⟩ = .ok a ⟨rest, position + bs.length⟩
  cut : ∀ n < bs.length, ∃ offset c, offset ≤ position + n ∧
    r ⟨bs.take n, position⟩ = .error (.truncated offset) c

/-- A step that, where it succeeds, depends only on the bytes that it takes. -/
def Frugal {α : Type} (r : Reader α) : Prop :=
  ∀ c a d, r c = .ok a d → ∃ bs, c.rest = bs ++ d.rest ∧ Takes r c.position bs a

section Steps

variable {α β : Type} {r : Reader α} {f : α → Reader β} {a : α} {b : β} {bs cs : List UInt8}
  {position : Nat}

theorem Takes.of_nil (h : ∀ c, r c = .ok a c) : Takes r position [] a :=
  ⟨fun rest => h ⟨rest, position⟩, by simp⟩

theorem Takes.bind (h : Takes r position bs a) (k : Takes (f a) (position + bs.length) cs b) :
    Takes (r >>= f) position (bs ++ cs) b := by
  have hbind : ∀ c, (r >>= f) c = EStateM.bind r f c := fun _ => rfl
  refine ⟨fun rest => ?_, fun n hn => ?_⟩
  · rw [hbind, EStateM.bind, List.append_assoc, h.whole]
    dsimp only
    rw [k.whole, List.length_append, Nat.add_assoc]
  · rcases Nat.lt_or_ge n bs.length with hlt | hge
    · -- the cut is in what the first step takes
      obtain ⟨offset, c, hle, hr⟩ := h.cut n hlt
      refine ⟨offset, c, hle, ?_⟩
      rw [hbind, EStateM.bind, List.take_append_of_le_length hlt.le, hr]
    · obtain ⟨m, rfl⟩ := Nat.exists_eq_add_of_le hge
      rw [List.length_append] at hn
      obtain ⟨offset, c, hle, hf⟩ := k.cut m (by omega)
      refine ⟨offset, c, by omega, ?_⟩
      rw [hbind, EStateM.bind, List.take_length_add_append, h.whole]
      exact hf

theorem Frugal.bind (h : Frugal r) (k : ∀ a, Frugal (f a)) : Frugal (r >>= f) := by
  intro c b d hb
  obtain ⟨a, e, ha, hf⟩ := Reader.bind_eq_ok.1 hb
  obtain ⟨bs, hbs, hr⟩ := h c a e ha
  obtain ⟨cs, hcs, hk⟩ := k a e b d hf
  have he : e.position = c.position + bs.length := by
    have := hr.whole e.rest
    rw [← hbs, ha] at this
    exact congrArg Cursor.position (EStateM.Result.ok.inj this).2
  rw [he] at hk
  exact ⟨bs ++ cs, by rw [hbs, hcs, List.append_assoc], hr.bind hk⟩

theorem frugal_pure (a : α) : Frugal (pure a : Reader α) := by
  intro c a' d h
  obtain ⟨rfl, rfl⟩ := Reader.pure_eq_ok.1 h
  exact ⟨[], rfl, .of_nil fun _ => rfl⟩

theorem frugal_throw (e : ActivationError) : Frugal (throw e : Reader α) :=
  fun _ _ _ h => (Reader.throw_ne_ok h).elim

theorem frugal_look (x : Except ActivationError α) : Frugal (Reader.look x) := by
  cases x with
  | ok a => exact frugal_pure a
  | error e => exact frugal_throw e

theorem frugal_ensure (condition : Bool) (e : ActivationError) :
    Frugal (Reader.ensure condition e) := by
  cases condition with
  | true => exact frugal_pure ()
  | false => exact frugal_throw e

theorem frugal_take (n : Nat) : Frugal (Reader.take n) := by
  intro c bs d h
  obtain ⟨hle, rfl, rfl⟩ := Reader.take_eq_ok.1 h
  have hlen : (c.rest.take n).length = n := by simpa using hle
  refine ⟨c.rest.take n, (List.take_append_drop n c.rest).symm, fun rest => ?_, fun m hm => ?_⟩
  · exact Reads.take_of_length hlen rest c.position
  · rw [hlen] at hm
    refine ⟨c.position, ⟨(c.rest.take n).take m, c.position⟩, Nat.le_add_right _ _, ?_⟩
    have hfew : ¬ hasAtLeast n ((c.rest.take n).take m) = true := by
      rw [hasAtLeast_iff, List.length_take]
      omega
    rw [Reader.take, if_neg hfew]

theorem frugal_number (width : Nat) :
    Frugal (do return ofBytes (← Reader.take width) : Reader Nat) :=
  (frugal_take width).bind fun _ => frugal_pure _

theorem frugal_u8 : Frugal Reader.u8 := frugal_number 1

theorem frugal_u16 : Frugal Reader.u16 := frugal_number 2

theorem frugal_u32 : Frugal Reader.u32 := frugal_number 4

theorem frugal_u64 : Frugal Reader.u64 :=
  frugal_u32.bind fun _ => frugal_u32.bind fun _ => frugal_pure _

end Steps

/-! ### The pool -/

theorem Entry.frugal_readAt (start : Nat) : Frugal (Entry.readAt start) := by
  refine frugal_u8.bind fun tag => ?_
  split
  · refine frugal_u16.bind fun n => (frugal_take n).bind fun bytes => ?_
    split
    · exact frugal_pure _
    · exact frugal_throw _
  case h_5 | h_6 => exact frugal_u64.bind fun _ => frugal_pure _
  case h_7 | h_8 => exact frugal_u16.bind fun _ => frugal_u16.bind fun _ => frugal_pure _
  case h_4 => exact frugal_u32.bind fun _ => frugal_pure _
  case h_9 => exact frugal_throw _
  all_goals exact frugal_u16.bind fun _ => frugal_pure _

/-- An entry is told where it starts only for the errors that it may report. -/
theorem Entry.frugal_read : Frugal Entry.read := by
  intro c e d h
  obtain ⟨bs, hbs, hr⟩ := Entry.frugal_readAt c.position c e d h
  exact ⟨bs, hbs, hr.whole, hr.cut⟩

namespace PoolTable

theorem readEntries_one (acc : Array Entry) :
    readEntries 1 acc = Entry.read >>= fun e =>
      if e.isWide then throw (.malformed .wideOverrun) else pure (acc.push e) := by
  funext c
  show _ = EStateM.bind _ _ c
  cases h : Entry.read c with
  | error e d => simp only [readEntries, EStateM.bind, h]
  | ok e d =>
    simp only [readEntries, EStateM.bind, h]
    split <;> rfl

theorem readEntries_add_two (n : Nat) (acc : Array Entry) :
    readEntries (n + 2) acc = Entry.read >>= fun e =>
      if e.isWide then readEntries n ((acc.push e).push .continuation)
      else readEntries (n + 1) (acc.push e) := by
  funext c
  show _ = EStateM.bind _ _ c
  cases h : Entry.read c with
  | error e d => simp only [readEntries, EStateM.bind, h]
  | ok e d =>
    simp only [readEntries, EStateM.bind, h]
    split <;> rfl

theorem frugal_readEntries (n : Nat) (acc : Array Entry) : Frugal (readEntries n acc) := by
  induction n, acc using readEntries.induct with
  | case1 acc => exact frugal_pure acc
  | case2 acc =>
    rw [readEntries_one]
    refine Entry.frugal_read.bind fun e => ?_
    split
    · exact frugal_throw _
    · exact frugal_pure _
  | case3 n acc wide narrow =>
    rw [readEntries_add_two]
    refine Entry.frugal_read.bind fun e => ?_
    split
    · exact wide e
    · exact narrow e

theorem frugal_read : Frugal read := by
  refine frugal_u16.bind fun count => ?_
  cases count with
  | zero => exact frugal_throw _
  | succ n => exact (frugal_readEntries n _).bind fun _ => frugal_pure _

end PoolTable

/-! ### The rest of a module -/

theorem RawMethod.frugal_read (t : PoolTable) : Frugal (RawMethod.read t) :=
  frugal_u16.bind fun _ => frugal_u16.bind fun _ => (frugal_look _).bind fun _ =>
  frugal_u16.bind fun _ => (frugal_look _).bind fun _ =>
  frugal_u16.bind fun _ => (frugal_ensure _ _).bind fun _ =>
  frugal_u16.bind fun _ => (frugal_look _).bind fun _ => (frugal_ensure _ _).bind fun _ =>
  frugal_u32.bind fun _ => frugal_u16.bind fun _ => frugal_u16.bind fun _ =>
  frugal_u32.bind fun _ => (frugal_ensure _ _).bind fun _ => (frugal_take _).bind fun _ =>
  frugal_u16.bind fun _ => frugal_u16.bind fun _ => (frugal_ensure _ _).bind fun _ =>
  frugal_pure _

theorem readMethods_succ (t : PoolTable) (n : Nat) (acc : List RawMethod) :
    readMethods t (n + 1) acc = RawMethod.read t >>= fun m => readMethods t n (m :: acc) := by
  funext c
  show _ = EStateM.bind _ _ c
  cases h : RawMethod.read t c <;> simp only [readMethods, EStateM.bind, h]

theorem frugal_readMethods (t : PoolTable) (n : Nat) (acc : List RawMethod) :
    Frugal (readMethods t n acc) := by
  induction n generalizing acc with
  | zero => exact frugal_pure _
  | succ n ih =>
    rw [readMethods_succ]
    exact (RawMethod.frugal_read t).bind fun m => ih (m :: acc)

theorem frugal_readInterface (t : PoolTable) : Frugal (readInterface t) := by
  refine frugal_u16.bind fun n => ?_
  split
  · exact frugal_pure _
  · exact frugal_u16.bind fun _ => (frugal_look _).bind fun _ => frugal_pure _
  · exact frugal_throw _

theorem Skeleton.frugal_readParts : Frugal Skeleton.readParts :=
  frugal_u32.bind fun _ => (frugal_ensure _ _).bind fun _ =>
  frugal_u16.bind fun _ => frugal_u16.bind fun _ => (frugal_ensure _ _).bind fun _ =>
  PoolTable.frugal_read.bind fun t =>
  frugal_u16.bind fun _ => frugal_u16.bind fun _ => (frugal_look _).bind fun _ =>
  frugal_u16.bind fun _ => (frugal_look _).bind fun _ => (frugal_ensure _ _).bind fun _ =>
  (frugal_readInterface t).bind fun _ =>
  frugal_u16.bind fun _ => (frugal_ensure _ _).bind fun _ =>
  frugal_u16.bind fun _ => (frugal_readMethods t _ _).bind fun _ =>
  frugal_u16.bind fun _ => (frugal_ensure _ _).bind fun _ => frugal_pure _

theorem Skeleton.exists_takes {bs : List UInt8} {s : Skeleton} {c : Cursor}
    (h : Skeleton.read (.start bs) = .ok s c) : Takes Skeleton.readParts 0 bs s := by
  unfold Skeleton.read at h
  split at h
  · rename_i s' d hs
    split at h
    · rename_i hrest
      cases h
      obtain ⟨bs', hbs, ht⟩ := Skeleton.frugal_readParts _ _ _ hs
      obtain rfl : bs = bs' := by simpa [hrest, Cursor.start] using hbs
      exact ht
    · cases h
  · cases h

namespace Contents

/-- **No accepted module is the beginning of another.** If some bytes parse, then any fewer of them from
the front fail because bytes are missing, at an offset within what is there, and with anything after them
they fail because of the bytes that are left over. -/
theorem parse_prefixes {bytes : List UInt8} {p : Contents} (h : parse bytes = .ok p) :
    (∀ n < bytes.length, ∃ offset ≤ n, parse (bytes.take n) = .error (.truncated offset)) ∧
    ∀ more, more ≠ [] → parse (bytes ++ more) = .error (.trailingBytes more.length) := by
  unfold parse at h
  split at h
  · cases h
  · rename_i s c hs
    have ht := Skeleton.exists_takes hs
    refine ⟨fun n hn => ?_, fun more hmore => ?_⟩
    · obtain ⟨offset, d, hle, hcut⟩ := ht.cut n hn
      refine ⟨offset, by omega, ?_⟩
      simp only [parse, Skeleton.read, Cursor.start, hcut]
    · simp only [parse, Skeleton.read, Cursor.start, ht.whole, if_neg hmore]

/-- What is missing is told by where it should begin. -/
example : parse [0xCA, 0xFE, 0xBA, 0xBE, 0x00] = .error (.truncated 4) := by decide

/-- A module with one accessor, whose constant stands at offsets 72 to 79. -/
def ratioModule : List UInt8 :=
  [0xCA, 0xFE, 0xBA, 0xBE, 0x00, 0x00, 0x00, 0x34, 0x00, 0x0E, 0x01, 0x00, 0x04, 0x43, 0x6F,
    0x64, 0x65, 0x01, 0x00, 0x01, 0x54, 0x07, 0x00, 0x02, 0x01, 0x00, 0x10, 0x6A, 0x61, 0x76,
    0x61, 0x2F, 0x6C, 0x61, 0x6E, 0x67, 0x2F, 0x4F, 0x62, 0x6A, 0x65, 0x63, 0x74, 0x07, 0x00,
    0x04, 0x01, 0x00, 0x06, 0x3C, 0x69, 0x6E, 0x69, 0x74, 0x3E, 0x01, 0x00, 0x03, 0x28, 0x29,
    0x56, 0x01, 0x00, 0x01, 0x72, 0x01, 0x00, 0x03, 0x28, 0x29, 0x44, 0x06, 0x3F, 0xF8, 0x00,
    0x00, 0x00, 0x00, 0x00, 0x00, 0x0C, 0x00, 0x06, 0x00, 0x07, 0x0A, 0x00, 0x05, 0x00, 0x0C,
    0x00, 0x11, 0x00, 0x03, 0x00, 0x05, 0x00, 0x00, 0x00, 0x00, 0x00, 0x02, 0x00, 0x01, 0x00,
    0x06, 0x00, 0x07, 0x00, 0x01, 0x00, 0x01, 0x00, 0x00, 0x00, 0x11, 0x00, 0x02, 0x00, 0x01,
    0x00, 0x00, 0x00, 0x05, 0x2A, 0xB7, 0x00, 0x0D, 0xB1, 0x00, 0x00, 0x00, 0x00, 0x00, 0x01,
    0x00, 0x08, 0x00, 0x09, 0x00, 0x01, 0x00, 0x01, 0x00, 0x00, 0x00, 0x10, 0x00, 0x02, 0x00,
    0x01, 0x00, 0x00, 0x00, 0x04, 0x14, 0x00, 0x0A, 0xAF, 0x00, 0x00, 0x00, 0x00, 0x00, 0x00]

theorem parse_prefixes_ratioModule :
    parse ratioModule = .ok ⟨"T", none, [⟨"r", .float64 0x3FF8000000000000⟩]⟩ ∧
    (∃ offset ≤ 77, parse (ratioModule.take 77) = .error (.truncated offset)) ∧
    parse (ratioModule ++ ratioModule) = .error (.trailingBytes 165) := by
  have h : parse ratioModule = .ok ⟨"T", none, [⟨"r", .float64 0x3FF8000000000000⟩]⟩ := by
    decide +kernel
  obtain ⟨hcut, hmore⟩ := parse_prefixes h
  exact ⟨h, hcut 77 (by decide +kernel), hmore ratioModule (List.cons_ne_nil _ _)⟩

end Contents

end TypedConfig.Module
