namespace LineDebugger
namespace Text

/-!
# Lines

A line ends with a line feed, and a return in front of it belongs to the end.
-/

/-- The first line. -/
def firstLine : List Char -> List Char
  | [] => []
  | '\n' :: _ => []
  | '\r' :: '\n' :: _ => []
  | c :: rest => c :: firstLine rest

/-- The text with all lines but the first moved to the right. -/
def indented (width : Nat) (text : String) : String :=
  String.ofList (text.toList.flatMap fun c =>
    if c = '\n' then c :: List.replicate width ' ' else [c])

end Text
end LineDebugger
