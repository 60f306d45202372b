import TypedConfig.Module.Distinct
import TypedConfig.Module.Entry

/-!
Parsing a module. The structure is read to the last byte before any method is looked into; then
every method is either the initializer or an accessor whose instructions yield its constant.
-/

namespace TypedConfig.Module

open Scalar (Kind Value)

/-- A method as read. -/
structure RawMethod where
  name : String
  type : String
  code : List UInt8
  deriving DecidableEq, Repr

namespace Reader

/-- A look into the pool as a step of reading. -/
def look {α : Type} : Except ActivationError α → Reader α
  | .ok a => pure a
  | .error e => throw e

/-- Fails with the given error unless the condition holds. -/
def ensure (condition : Bool) (e : ActivationError) : Reader Unit :=
  if condition then pure () else throw e

end Reader

/-- The greatest number that fits in thirty-two bits. -/
def maxWord : Nat := 4294967295

/-- Reads a method. -/
def RawMethod.read (t : PoolTable) : Reader RawMethod := do
  let _access ← Reader.u16
  let name ← Reader.look (t.text (← Reader.u16))
  let type ← Reader.look (t.text (← Reader.u16))
  let attributes ← Reader.u16
  Reader.ensure (attributes = 1) (.malformed (.methodAttributes name attributes))
  let label ← Reader.look (t.text (← Reader.u16))
  Reader.ensure (label = codeName) (.malformed (.attributeName name label))
  let attributeLength ← Reader.u32
  let _stack ← Reader.u16
  let _locals ← Reader.u16
  let codeLength ← Reader.u32
  Reader.ensure (attributeLength = min (codeLength + codeOverhead) maxWord)
    (.malformed (.codeLength name attributeLength codeLength))
  let code ← Reader.take codeLength
  let handlers ← Reader.u16
  let nested ← Reader.u16
  Reader.ensure (handlers = 0 && nested = 0) (.malformed (.nestedCode name))
  return ⟨name, type, code⟩

/-- Reads a number of methods onto those already read in reverse. -/
def readMethods (t : PoolTable) : Nat → List RawMethod → Reader (List RawMethod)
  | 0, acc => pure acc.reverse
  | n + 1, acc => fun c =>
    match RawMethod.read t c with
    | .ok m c => readMethods t n (m :: acc) c
    | .error e c => .error e c

/-- A module whose structure has been read. -/
structure Skeleton where
  table : PoolTable
  typeName : String
  superIndex : Nat
  interface : Option String
  methods : List RawMethod

/-- Reads the interfaces of a module, of which there may be one. -/
def readInterface (t : PoolTable) : Reader (Option String) := do
  match ← Reader.u16 with
  | 0 => return none
  | 1 => return some (← Reader.look (t.className (← Reader.u16)))
  | n => throw (.malformed (.interfaces n))

/-- Reads the structure of a module. -/
def Skeleton.readParts : Reader Skeleton := do
  let found ← Reader.u32
  Reader.ensure (found = magic) (.badMagic found)
  let _minor ← Reader.u16
  let major ← Reader.u16
  Reader.ensure (major = majorVersion) (.unsupportedVersion major)
  let table ← PoolTable.read
  let _access ← Reader.u16
  let typeName ← Reader.look (table.className (← Reader.u16))
  let superIndex ← Reader.u16
  let superType ← Reader.look (table.className superIndex)
  Reader.ensure (superType = superName) (.malformed (.superType superType))
  let interface ← readInterface table
  let fields ← Reader.u16
  Reader.ensure (fields = 0) (.malformed (.fields fields))
  let methods ← readMethods table (← Reader.u16) []
  let attributes ← Reader.u16
  Reader.ensure (attributes = 0) (.malformed (.attributes attributes))
  return ⟨table, typeName, superIndex, interface, methods⟩

/-- Reads the structure of a module, which has to end with the last byte. -/
def Skeleton.read : Reader Skeleton := fun c =>
  match Skeleton.readParts c with
  | .ok s c => if c.rest = [] then .ok s c else .error (.trailingBytes c.rest.length) c
  | .error e c => .error e c

/-! ### Methods -/

/-- Checks an initializer: it calls the initializer of the super type and nothing else. -/
def RawMethod.checkInitializer (m : RawMethod) (t : PoolTable) (superIndex : Nat) :
    Except ActivationError Unit :=
  let bad : Except ActivationError Unit := .error (.badInitializer m.code)
  if m.type ≠ initDescriptor then bad
  else
    match m.code with
    | [a, b, high, low, r] =>
      if a ≠ opSelf ∨ b ≠ opInvoke ∨ r ≠ opReturn then bad
      else
        let index := ofBytes [high, low]
        if index = unpatchedIndex then .error .unpatchedInitializer
        else do
          match ← t.get index with
          | .methodRef classIndex target =>
            if classIndex ≠ superIndex then bad
            else
              match ← t.get target with
              | .nameAndType name type =>
                if (← t.text name) ≠ initName then bad
                else if (← t.text type) ≠ initDescriptor then bad
                else .ok ()
              | _ => .error (.wrongEntry target .nameAndType)
          | _ => .error (.wrongEntry index .methodRef)
    | _ => bad

/-- The character of a code point. -/
def charOf? (n : Int) : Option Char :=
  if h : 0 ≤ n ∧ n.toNat.isValidChar then some (Char.ofNatAux n.toNat h.2) else none

/-- The value of a kind that the constant at an index stands for. A constant that is too wide for the
kind is refused. -/
def PoolTable.constant (t : PoolTable) (index : Nat) (kind : Kind) (method : String) :
    Except ActivationError Value := do
  let outOfRange (n : Int32) : Except ActivationError Value :=
    .error (.constantOutOfRange method kind n.toInt)
  match kind, ← t.get index with
  | .text, .string text => return .text (← t.text text)
  | .int32, .int n => return .int32 n
  | .int16, .int n =>
    if -32768 ≤ n.toInt ∧ n.toInt ≤ 32767 then return .int16 n.toInt16 else outOfRange n
  | .byte, .int n =>
    if -128 ≤ n.toInt ∧ n.toInt ≤ 127 then return .byte n.toInt8 else outOfRange n
  | .char, .int n =>
    match charOf? n.toInt with
    | some c => return .char c
    | none => outOfRange n
  | .float32, .int n => return .float32 n.toUInt32
  | .int64, .long n => return .int64 n
  | .float64, .double bits => return .float64 bits
  | _, _ => .error (.wrongEntry index (.constant kind))

/-- The value that an accessor returns, decoded from its instructions. The constant is looked up
before the return instruction is checked. -/
def RawMethod.decode (m : RawMethod) (t : PoolTable) : Except ActivationError Value :=
  match kindOfDescriptor? m.type with
  | none => .error (.unsupportedDescriptor m.name m.type)
  | some kind =>
    let bad : Except ActivationError Value := .error (.badInstructions m.name m.code)
    let returning (last : UInt8) (v : Value) : Except ActivationError Value :=
      if last = returnOpcode kind then .ok v else bad
    match m.code with
    | [op, last] =>
      if op = opFalse ∧ kind = .bool then returning last (.bool false)
      else if op = opTrue ∧ kind = .bool then returning last (.bool true)
      else bad
    | [op, index, last] =>
      if op = opLoad ∧ !kind.isWide then do
        returning last (← t.constant index.toNat kind m.name)
      else bad
    | [op, high, low, last] =>
      if op = opLoadLong ∧ !kind.isWide ∨ op = opLoadWide ∧ kind.isWide then do
        returning last (← t.constant (ofBytes [high, low]) kind m.name)
      else bad
    | _ => bad

/-- Decodes methods from first to last, given the accessors already decoded in reverse and whether
an initializer has been met. An initializer may be repeated, an accessor may not. -/
def decodeMethods (t : PoolTable) (superIndex : Nat) :
    List RawMethod → Distinct String → List Slot → Bool → Except ActivationError (List Slot)
  | [], _, slots, found => if found then .ok slots.reverse else .error .missingInitializer
  | m :: rest, seen, slots, found =>
    if m.name = initName then
      match m.checkInitializer t superIndex with
      | .ok () => decodeMethods t superIndex rest seen slots true
      | .error e => .error e
    else if (seen.place? m.name).isSome then .error (.malformed (.methodTwice m.name))
    else
      match m.decode t with
      | .ok v => decodeMethods t superIndex rest (seen.insert m.name) (⟨m.name, v⟩ :: slots) found
      | .error e => .error e

/-- Parses the bytes of a module. -/
def Contents.parse (bytes : List UInt8) : Except ActivationError Contents :=
  match Skeleton.read (.start bytes) with
  | .error e _ => .error e
  | .ok s _ =>
    match decodeMethods s.table s.superIndex s.methods .empty [] false with
    | .ok slots => .ok ⟨s.typeName, s.interface, slots⟩
    | .error e => .error e

end TypedConfig.Module
