import TypedConfig.Module.Contents
import TypedConfig.Module.Cursor
import TypedConfig.Module.ModifiedUtf8

/-!
The constant pool as read. Every place holds an entry; the second place of a long or a double holds
a continuation, which no index may lead to, and neither may an index be zero or past the end.
-/

namespace TypedConfig.Module

/-- What one place of the pool holds. -/
inductive Entry where
  | text (s : String)
  | classRef (name : Nat)
  | string (text : Nat)
  | int (n : Int32)
  | long (n : Int64)
  | double (bits : UInt64)
  | nameAndType (name type : Nat)
  | methodRef (classIndex nameAndType : Nat)
  | continuation
  deriving DecidableEq, Repr

/-- Whether an entry takes two places. -/
def Entry.isWide : Entry → Bool
  | .long _ | .double _ => true
  | _ => false

/-- Reads one entry that begins at the given offset. -/
def Entry.readAt (start : Nat) : Reader Entry := do
  match ← Reader.u8 with
  | tagText =>
    let bytes ← Reader.take (← Reader.u16)
    match decodeText? bytes with
    | some s => return .text s
    | none => throw (.badUtf8 start)
  | tagClass => return .classRef (← Reader.u16)
  | tagString => return .string (← Reader.u16)
  | tagInt => return .int (← Reader.u32).toUInt32.toInt32
  | tagLong => return .long (← Reader.u64).toUInt64.toInt64
  | tagDouble => return .double (← Reader.u64).toUInt64
  | tagNameAndType => return .nameAndType (← Reader.u16) (← Reader.u16)
  | tagMethodRef => return .methodRef (← Reader.u16) (← Reader.u16)
  | tag => throw (.unknownTag tag start)

/-- Reads one entry. -/
def Entry.read : Reader Entry := fun c => Entry.readAt c.position c

/-- The places of a pool. -/
structure PoolTable where
  entries : Array Entry

namespace PoolTable

/-- Reads entries until they fill the given number of places. A wide entry may not reach beyond the
last place. -/
def readEntries : Nat → Array Entry → Reader (Array Entry)
  | 0, acc => pure acc
  | 1, acc => fun c =>
    match Entry.read c with
    | .ok e c => if e.isWide then .error (.malformed .wideOverrun) c else .ok (acc.push e) c
    | .error e c => .error e c
  | n + 2, acc => fun c =>
    match Entry.read c with
    | .ok e c =>
      if e.isWide then readEntries n ((acc.push e).push .continuation) c
      else readEntries (n + 1) (acc.push e) c
    | .error e c => .error e c

/-- Reads the count and the entries. A count of zero leaves no room for the unused first place. -/
def read : Reader PoolTable := do
  match ← Reader.u16 with
  | 0 => throw (.malformed .wideOverrun)
  | n + 1 => return ⟨← readEntries n #[.continuation]⟩

/-- The entry that an index leads to. -/
def get (t : PoolTable) (index : Nat) : Except ActivationError Entry :=
  match t.entries[index]? with
  | some .continuation => .error (.badIndex index)
  | some e => .ok e
  | none => .error (.badIndex index)

/-- The text that an index leads to. -/
def text (t : PoolTable) (index : Nat) : Except ActivationError String :=
  match t.get index with
  | .ok (.text s) => .ok s
  | .ok _ => .error (.wrongEntry index .text)
  | .error e => .error e

/-- The name of the class that an index leads to. -/
def className (t : PoolTable) (index : Nat) : Except ActivationError String :=
  match t.get index with
  | .ok (.classRef name) => t.text name
  | .ok _ => .error (.wrongEntry index .classRef)
  | .error e => .error e

end PoolTable

end TypedConfig.Module
