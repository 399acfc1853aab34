import LineDebugger.Decimal.Layout
import LineDebugger.Text.Numeral

namespace LineDebugger
namespace Debuggee

/-!
# What the operator sees of the debuggee

Locations with names, values ready to be shown, local variables and stack frames.
Nothing here talks to the debuggee; these are snapshots taken while it is halted.
-/

open Text

/-! ## Locations -/

/-- A place in the debuggee's code.  Code without debug information has no line. -/
structure Location where
  classId : UInt64
  className : String
  methodId : UInt64
  methodName : String
  line : Option UInt32
  codeIndex : UInt64
  deriving DecidableEq, Repr

namespace Location

/-- The line number, or a question mark. -/
def lineText (location : Location) : String :=
  match location.line with
  | some line => toString line.toNat
  | none => "?"

/-- The method, qualified by its class. -/
def qualifiedMethod (location : Location) : String :=
  location.className ++ "." ++ location.methodName

/-- The class and the line. -/
def text (location : Location) : String :=
  location.className ++ ":" ++ location.lineText

end Location

/-- One frame of a halted thread.  It means nothing once the thread runs again. -/
structure StackFrame where
  id : UInt64
  location : Location
  deriving DecidableEq, Repr

/-! ## Values -/

/-- A reference to an array, with the name of its element type and its length. -/
structure ArrayRef where
  id : UInt64
  elementType : String
  length : Nat
  deriving DecidableEq, Repr

/-- A reference to an object that is neither an array nor a string. -/
structure ObjectRef where
  id : UInt64
  typeId : UInt64
  typeName : String
  deriving DecidableEq, Repr

/-- A snapshot of a value.  Numbers of every integer type are one case and so are both
floating-point types, whose bits are kept in the wider format.  Null references and
the absence of a value are `none`. -/
inductive Value where
  | int (value : Int64)
  | float (bits : UInt64)
  | bool (value : Bool)
  | char (value : Char)
  | text (value : String)
  | array (array : ArrayRef)
  | object (object : ObjectRef)
  | none
  deriving DecidableEq, Repr

/-- The compact text of a value.  Arrays and objects show their type and their id in
hexadecimal. -/
def Value.render : Value -> String
  | .int value => toString value.toInt
  | .float bits => Decimal.doubleText bits
  | .bool value => if value then "true" else "false"
  | .char value => "'" ++ String.singleton value ++ "'"
  | .text value => "\"" ++ value ++ "\""
  | .array ref => s!"{ref.elementType}[{ref.length}] @" ++ Numeral.hex ref.id.toNat
  | .object ref => ref.typeName ++ " @" ++ Numeral.hex ref.id.toNat
  | .none => "null"

/-- The text of an array whose elements are known. -/
def Value.renderElements (elements : List Value) : String :=
  "[" ++ ", ".intercalate (elements.map Value.render) ++ "]"

/-- A visible local variable with its value at the halt. -/
structure LocalVariable where
  name : String
  declaredType : String
  value : Value
  deriving DecidableEq, Repr

/-- A variable with its type and the text of its value. -/
def LocalVariable.describe (shown : LocalVariable) (value : String) : String :=
  shown.name ++ ": " ++ shown.declaredType ++ " = " ++ value

/-- The text of a variable with the compact text of its value. -/
def LocalVariable.render (shown : LocalVariable) : String :=
  shown.describe shown.value.render

end Debuggee
end LineDebugger
