import TypedConfig.Module.Contents
import TypedConfig.Module.Distinct
import TypedConfig.Module.ModifiedUtf8

/-!
The constant pool. Constants are collected in six groups without repetition; a layout then gives
every constant its index. The groups follow each other in the order texts, classes, strings, 32-bit
numbers, doubles, longs; a double and a long take two places each, and the two entries that refer to
the super type's initializer come last.
-/

namespace TypedConfig.Module

/-- Why a module cannot be written down. -/
inductive BuildError where
  | poolOverflow (entries : Nat)
  | textTooLong (length : Nat)
  | missingConstant (what : String)
  | tooManyMethods (count : Nat)
  deriving DecidableEq, Repr

/-- Collected constants. -/
structure Pool where
  texts : Distinct String
  classes : Distinct String
  strings : Distinct String
  ints : Distinct Int32
  doubles : Distinct UInt64
  longs : Distinct Int64

namespace Pool

/-- No constants. -/
def empty : Pool := ⟨.empty, .empty, .empty, .empty, .empty, .empty⟩

/-- Adds a constant unless it is present. A class and a string bring their text with them. -/
def add (p : Pool) : Constant → Pool
  | .text s => { p with texts := p.texts.insert s }
  | .classRef s => { p with texts := p.texts.insert s, classes := p.classes.insert s }
  | .string s => { p with texts := p.texts.insert s, strings := p.strings.insert s }
  | .int n => { p with ints := p.ints.insert n }
  | .double bits => { p with doubles := p.doubles.insert bits }
  | .long n => { p with longs := p.longs.insert n }

/-- The pool of a list of constants. -/
def ofList (cs : List Constant) : Pool := cs.foldl add empty

/-- How many places the collected constants take. -/
def places (p : Pool) : Nat :=
  p.texts.size + p.classes.size + p.strings.size + p.ints.size + 2 * p.doubles.size +
    2 * p.longs.size

end Pool

/-- The greatest number that fits in sixteen bits. -/
def maxShort : Nat := 65535

/-- A pool that fits its format: its indices fit in sixteen bits, and so does the length of every
text. -/
structure Layout where
  pool : Pool
  fits : pool.places + 3 ≤ maxShort
  short : ∀ s ∈ pool.texts.toList, (encodeText s).length ≤ maxShort

/-- Fixes the layout. It fails if the indices do not fit in sixteen bits, and else at the first text
whose encoding is too long. -/
def Pool.freeze (p : Pool) : Except BuildError Layout :=
  if hp : maxShort < p.places + 3 then .error (.poolOverflow (p.places + 3))
  else
    match ht : p.texts.toList.find? fun s => maxShort < (encodeText s).length with
    | some s => .error (.textTooLong (encodeText s).length)
    | none => .ok ⟨p, Nat.le_of_not_lt hp, by simpa using ht⟩

namespace Layout

/-! ### Indices -/

def classBase (l : Layout) : Nat := l.pool.texts.size
def stringBase (l : Layout) : Nat := l.classBase + l.pool.classes.size
def intBase (l : Layout) : Nat := l.stringBase + l.pool.strings.size
def doubleBase (l : Layout) : Nat := l.intBase + l.pool.ints.size
def longBase (l : Layout) : Nat := l.doubleBase + 2 * l.pool.doubles.size

/-- The index of a constant. -/
def index? (l : Layout) : Constant → Option Nat
  | .text s => (l.pool.texts.place? s).map (· + 1)
  | .classRef s => (l.pool.classes.place? s).map (l.classBase + · + 1)
  | .string s => (l.pool.strings.place? s).map (l.stringBase + · + 1)
  | .int n => (l.pool.ints.place? n).map (l.intBase + · + 1)
  | .double bits => (l.pool.doubles.place? bits).map (l.doubleBase + 2 * · + 1)
  | .long n => (l.pool.longs.place? n).map (l.longBase + 2 * · + 1)

/-- The index of the name and type of the initializer. -/
def nameAndTypeIndex (l : Layout) : Nat := l.pool.places + 1

/-- The index of the reference to the super type's initializer. -/
def methodRefIndex (l : Layout) : Nat := l.pool.places + 2

/-- The number written before the entries, one more than the last index. -/
def count (l : Layout) : Nat := l.pool.places + 3

/-- The index of a constant that has to be there. -/
def require (l : Layout) (c : Constant) (what : String) : Except BuildError Nat :=
  match l.index? c with
  | some i => .ok i
  | none => .error (.missingConstant what)

/-! ### Entries -/

/-- The entry of a text. -/
def textEntry (s : String) : List UInt8 :=
  let bytes := encodeText s
  be8 tagText ++ be16 bytes.length ++ bytes

/-- The entry of a class or a string, which refers to its text. -/
def referringEntry (l : Layout) (tag : Nat) (s : String) : Except BuildError (List UInt8) :=
  (l.require (.text s) s).map fun i => be8 tag ++ be16 i

/-- The entry of a 32-bit number. -/
def intEntry (n : Int32) : List UInt8 := be8 tagInt ++ be32 n.toUInt32.toNat

/-- The entry of a double. -/
def doubleEntry (bits : UInt64) : List UInt8 := be8 tagDouble ++ be64 bits.toNat

/-- The entry of a long. -/
def longEntry (n : Int64) : List UInt8 := be8 tagLong ++ be64 n.toUInt64.toNat

/-- The count and every entry, in the order of their indices. -/
def bytes (l : Layout) (superType : String) : Except BuildError (List UInt8) := do
  let classes ← l.pool.classes.toList.mapM (l.referringEntry tagClass)
  let strings ← l.pool.strings.toList.mapM (l.referringEntry tagString)
  let init ← l.require (.text initName) initName
  let initType ← l.require (.text initDescriptor) initDescriptor
  let superIndex ← l.require (.classRef superType) superType
  return be16 l.count ++ l.pool.texts.toList.flatMap textEntry ++ classes.flatten ++
    strings.flatten ++ l.pool.ints.toList.flatMap intEntry ++
    l.pool.doubles.toList.flatMap doubleEntry ++ l.pool.longs.toList.flatMap longEntry ++
    (be8 tagNameAndType ++ be16 init ++ be16 initType) ++
    (be8 tagMethodRef ++ be16 superIndex ++ be16 l.nameAndTypeIndex)

end Layout

end TypedConfig.Module
