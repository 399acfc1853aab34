namespace LineDebugger
namespace Debuggee

/-!
# Type names

The virtual machine names types by signatures: a letter for each primitive type, a
class name with slashes between `L` and a semicolon, and one opening bracket for each
array dimension.  The operator sees the names that source code uses.  A signature that
follows none of these forms is shown as it is.
-/

namespace TypeName

/-- The names of the primitive types and of no type at all. -/
def primitives : List (List Char × String) :=
  [(['B'], "byte"), (['C'], "char"), (['D'], "double"), (['F'], "float"), (['I'], "int"),
   (['J'], "long"), (['S'], "short"), (['Z'], "boolean"), (['V'], "void")]

/-- The name inside a class signature, with dots for slashes. -/
def className? : List Char -> Option (List Char)
  | 'L' :: rest =>
      if rest.getLast? = some ';' then
        some (rest.dropLast.map fun c => if c = '/' then '.' else c)
      else none
  | _ => none

/-- The name of a type that is no array. -/
def ofElement (signature : List Char) : List Char :=
  match primitives.lookup signature with
  | some name => name.toList
  | none => (className? signature).getD signature

/-- The name of a type, one pair of brackets for each dimension. -/
def ofChars : List Char -> List Char
  | '[' :: element => ofChars element ++ ['[', ']']
  | signature => ofElement signature

/-- The name that source code uses for the type with this signature. -/
def ofSignature (signature : String) : String :=
  String.ofList (ofChars signature.toList)

/-- The name of the elements of an array type: one pair of brackets less. -/
def element (arrayName : String) : String :=
  match arrayName.toList.reverse with
  | ']' :: '[' :: rest => String.ofList rest.reverse
  | _ => arrayName

end TypeName
end Debuggee
end LineDebugger
