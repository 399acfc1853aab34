import LineDebugger.Wire.Reader

namespace LineDebugger
namespace Wire

/-!
# Code positions

A position in the code of the virtual machine names a class, a method of it and an
index into the method's bytecode.  All ids are 64 bits wide.
-/

/-- A code position.  The type tag tells classes, interfaces and arrays apart. -/
structure Location where
  typeTag : UInt8
  classId : UInt64
  methodId : UInt64
  index : UInt64
  deriving DecidableEq, Repr

namespace Location

/-- The type tag of positions in classes. -/
def classTag : UInt8 := 1

/-- The bytes of a position. -/
def bytes (location : Location) : List UInt8 :=
  byteBytes location.typeTag ++ wordBytes64 location.classId
    ++ wordBytes64 location.methodId ++ wordBytes64 location.index

end Location

/-- A position: type tag, class, method and index. -/
def readLocation : Reader Location := do
  let typeTag ← readByte
  let classId ← readWord64
  let methodId ← readWord64
  let index ← readWord64
  return { typeTag, classId, methodId, index }

end Wire
end LineDebugger
