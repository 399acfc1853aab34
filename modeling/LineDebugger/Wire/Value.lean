import LineDebugger.Wire.Reader

namespace LineDebugger
namespace Wire

/-!
# Tagged values

A value on the wire is a tag byte and a payload whose width the tag decides.
References of every kind have an object id as payload.  Floating-point payloads are
kept as their bits, so that nothing about them is lost, not even the sign of a NaN.
-/

/-- The type of a value, as the tag byte tells it. -/
inductive TypeTag where
  | array | byte | char | object | float | double | int | long | short | void
  | boolean | string | thread | threadGroup | classLoader | classObject
  deriving DecidableEq, Repr

namespace TypeTag

/-- All tags, in the order in which they are listed everywhere. -/
def all : List TypeTag :=
  [.array, .byte, .char, .object, .float, .double, .int, .long, .short, .void,
   .boolean, .string, .thread, .threadGroup, .classLoader, .classObject]

/-- The byte that stands for a tag: a letter, as in type signatures. -/
def toByte : TypeTag -> UInt8
  | .array => 0x5B
  | .byte => 0x42
  | .char => 0x43
  | .object => 0x4C
  | .float => 0x46
  | .double => 0x44
  | .int => 0x49
  | .long => 0x4A
  | .short => 0x53
  | .void => 0x56
  | .boolean => 0x5A
  | .string => 0x73
  | .thread => 0x74
  | .threadGroup => 0x67
  | .classLoader => 0x6C
  | .classObject => 0x63

/-- The tag that a byte stands for. -/
def ofByte? (byte : UInt8) : Option TypeTag := all.find? fun tag => tag.toByte == byte

theorem ofByte?_toByte (tag : TypeTag) : ofByte? tag.toByte = some tag := by
  cases tag <;> rfl

/-- The name of a tag in the JSON form and in diagnostics. -/
def name : TypeTag -> String
  | .array => "Array"
  | .byte => "Byte"
  | .char => "Char"
  | .object => "Object"
  | .float => "Float"
  | .double => "Double"
  | .int => "Int"
  | .long => "Long"
  | .short => "Short"
  | .void => "Void"
  | .boolean => "Boolean"
  | .string => "String"
  | .thread => "Thread"
  | .threadGroup => "ThreadGroup"
  | .classLoader => "ClassLoader"
  | .classObject => "ClassObject"

/-- The tag of a name. -/
def ofName? (text : String) : Option TypeTag := all.find? fun tag => tag.name == text

/-- Whether values with this tag are object ids. -/
def isReference : TypeTag -> Bool
  | .array | .object | .string | .thread | .threadGroup | .classLoader | .classObject => true
  | _ => false

end TypeTag

/-- The payload of a value. -/
inductive ValueData where
  | byte (value : Int8)
  | char (unit : UInt16)
  | float (bits : UInt32)
  | double (bits : UInt64)
  | int (value : Int32)
  | long (value : Int64)
  | short (value : Int16)
  | boolean (value : Bool)
  | object (id : UInt64)
  | void
  deriving DecidableEq, Repr

/-- The name of the kind of a payload. -/
def ValueData.name : ValueData -> String
  | .byte _ => "Byte"
  | .char _ => "Char"
  | .float _ => "Float"
  | .double _ => "Double"
  | .int _ => "Int"
  | .long _ => "Long"
  | .short _ => "Short"
  | .boolean _ => "Boolean"
  | .object _ => "Object"
  | .void => "Void"

/-- A value with its tag. -/
structure Value where
  tag : TypeTag
  data : ValueData
  deriving DecidableEq, Repr

namespace Value

/-- Whether the payload is of the kind that the tag announces. -/
def Matches (value : Value) : Prop :=
  match value.data with
  | .byte _ => value.tag = .byte
  | .char _ => value.tag = .char
  | .float _ => value.tag = .float
  | .double _ => value.tag = .double
  | .int _ => value.tag = .int
  | .long _ => value.tag = .long
  | .short _ => value.tag = .short
  | .boolean _ => value.tag = .boolean
  | .object _ => value.tag.isReference = true
  | .void => value.tag = .void

/-- The object id of a reference. -/
def objectId? (value : Value) : Option UInt64 :=
  match value.data with
  | .object id => some id
  | _ => none

end Value

/-! ## Reading values -/

/-- A tag byte.  It is consumed even if it stands for no tag. -/
def readTag : Reader TypeTag := do
  let byte ← readByte
  match TypeTag.ofByte? byte with
  | some tag => return tag
  | none => Reader.refuse (.unknownTag byte)

/-- The payload that a tag announces. -/
def readData : TypeTag -> Reader ValueData
  | .byte => do return .byte (UInt8.ofNat (← Reader.number .byte 1)).toInt8
  | .char => do return .char (← readWord16)
  | .double => do return .double (UInt64.ofNat (← Reader.number .double 8))
  | .float => do return .float (UInt32.ofNat (← Reader.number .float 4))
  | .int => do return .int (← readSigned32)
  | .long => do return .long (UInt64.ofNat (← Reader.number .long 8)).toInt64
  | .short => do return .short (UInt16.ofNat (← Reader.number .short 2)).toInt16
  | .boolean => do return .boolean (← readBool)
  | .void => pure .void
  | _ => do return .object (← readWord64)

/-- A value whose tag is known beforehand, as in regions of primitive arrays. -/
def readUntagged (tag : TypeTag) : Reader Value := do return ⟨tag, ← readData tag⟩

/-- A tag and the value it announces. -/
def readTagged : Reader Value := do readUntagged (← readTag)

/-- A stretch of an array.  Elements of primitive arrays carry no tags of their own;
references do, since each element may be of a narrower type. -/
def readRegion : Reader (List Value) := do
  let tag ← readTag
  readList (if tag.isReference then readTagged else readUntagged tag)

/-! ## Writing values -/

/-- The bytes of a payload. -/
def ValueData.bytes : ValueData -> List UInt8
  | .byte value => byteBytes value.toUInt8
  | .char unit => wordBytes16 unit
  | .float bits => wordBytes32 bits
  | .double bits => wordBytes64 bits
  | .int value => signedBytes32 value
  | .long value => wordBytes64 value.toUInt64
  | .short value => wordBytes16 value.toUInt16
  | .boolean value => byteBytes (if value then 1 else 0)
  | .object id => wordBytes64 id
  | .void => []

/-- The bytes of a value with its tag. -/
def Value.taggedBytes (value : Value) : List UInt8 := value.tag.toByte :: value.data.bytes

end Wire
end LineDebugger
