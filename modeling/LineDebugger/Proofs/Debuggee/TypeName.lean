import LineDebugger.Debuggee.TypeName
import Mathlib.Data.List.Nodup

namespace LineDebugger
namespace Debuggee
namespace TypeName

/-!
# Names and signatures of types

An array dimension is a bracket in front of a signature and a pair of brackets behind a name, so
the two grow together, and the name of the elements of an array is the name of the signature that
is left without its first bracket.

Different types have different names.  A name ends in a pair of brackets only if it is that of an
array, since no other name has an opening bracket at all.  What is left without the pairs is a word
for a primitive type or a class name.  A class may be called by any characters but those that
separate names and signatures, so it has to be assumed that it is not called by such a word.
-/

/-! ## Dimensions -/

theorem toList_ofSignature (signature : String) :
    (ofSignature signature).toList = ofChars signature.toList := by
  rw [ofSignature, String.toList_ofList]

/-- One bracket more in front is one pair of brackets more behind. -/
theorem ofSignature_array (signature : String) :
    ofSignature ("[" ++ signature) = ofSignature signature ++ "[]" := by
  apply String.toList_inj.mp
  rw [toList_ofSignature, String.toList_append, String.toList_append, toList_ofSignature]
  rfl

theorem element_append (name : String) : element (name ++ "[]") = name := by
  have reversed : (name ++ "[]").toList.reverse = ']' :: '[' :: name.toList.reverse := by
    rw [String.toList_append, List.reverse_append]
    rfl
  simp only [element, reversed, List.reverse_reverse, String.ofList_toList]

/-- The elements of an array have the type that is left without the first bracket. -/
theorem element_ofSignature_array (signature : String) :
    element (ofSignature ("[" ++ signature)) = ofSignature signature := by
  rw [ofSignature_array, element_append]

/-! ## Descriptors -/

/-- The letters of the primitive types. -/
def letters : List Char := ['B', 'C', 'D', 'F', 'I', 'J', 'S', 'Z']

/-- The words for the primitive types. -/
def words : List String :=
  ["byte", "char", "double", "float", "int", "long", "short", "boolean"]

/-- The name of a class, with slashes: none of the characters by which names and signatures are
told apart, and none of the words for primitive types. -/
structure ClassName (name : List Char) : Prop where
  present : name ≠ []
  noDot : '.' ∉ name
  noSemicolon : ';' ∉ name
  noBracket : '[' ∉ name
  noWord : String.ofList name ∉ words

/-- A well-formed signature of a type. -/
inductive Descriptor : List Char -> Prop where
  | primitive {letter : Char} (listed : letter ∈ letters) : Descriptor [letter]
  | reference {name : List Char} (named : ClassName name) : Descriptor ('L' :: (name ++ [';']))
  | array {element : List Char} (descriptor : Descriptor element) : Descriptor ('[' :: element)

/-! ## Names of types that are no arrays -/

/-- A slash becomes a dot. -/
def dotted (c : Char) : Char := if c = '/' then '.' else c

/-- A dot becomes a slash. -/
def slashed (c : Char) : Char := if c = '.' then '/' else c

/-- A text without dots is read back after its slashes have become dots. -/
theorem map_slashed_dotted {chars : List Char} (noDot : '.' ∉ chars) :
    (chars.map dotted).map slashed = chars := by
  have back (c : Char) (member : c ∈ chars) : slashed (dotted c) = c := by
    by_cases slash : c = '/'
    · rw [slash]
      rfl
    · have other : c ≠ '.' := fun dot => noDot (dot ▸ member)
      rw [dotted, if_neg slash, slashed, if_neg other]
  rw [List.map_map]
  exact (List.map_congr_left back).trans (List.map_id chars)

theorem ofChars_array (element : List Char) :
    ofChars ('[' :: element) = ofChars element ++ ['[', ']'] := by
  rw [ofChars]

/-- The signatures of primitive types are single letters. -/
theorem length_of_primitive : forall entry, entry ∈ primitives -> entry.1.length = 1 := by
  decide

theorem ofChars_reference (name : List Char) :
    ofChars ('L' :: (name ++ [';'])) = name.map dotted := by
  have unlisted : primitives.lookup ('L' :: (name ++ [';'])) = none := by
    apply List.lookup_eq_none_iff.mpr
    intro entry member
    have single := length_of_primitive entry member
    apply bne_iff_ne.mpr
    intro same
    rw [← same, List.length_cons, List.length_append, List.length_singleton] at single
    omega
  have named : className? ('L' :: (name ++ [';'])) = some (name.map dotted) := by
    rw [className?, if_pos List.getLast?_concat, List.dropLast_concat]
    rfl
  rw [ofChars, ofElement, unlisted, named]
  · rfl
  · intro element array
    cases array

/-- The words are the names of the letters, in the same order. -/
theorem words_of_letters :
    letters.map (fun letter => ofChars [letter]) = words.map String.toList := by
  decide

theorem ofChars_primitive {letter : Char} (listed : letter ∈ letters) :
    exists word, word ∈ words ∧ ofChars [letter] = word.toList := by
  have named : ofChars [letter] ∈ letters.map fun letter => ofChars [letter] :=
    List.mem_map_of_mem listed
  rw [words_of_letters] at named
  rcases List.mem_map.mp named with ⟨word, member, same⟩
  exact ⟨word, member, same.symm⟩

theorem ofChars_primitive_inj {one other : Char} (first : one ∈ letters) (second : other ∈ letters)
    (same : ofChars [one] = ofChars [other]) : one = other := by
  have distinct : (letters.map fun letter => ofChars [letter]).Nodup := by
    rw [words_of_letters]
    decide
  exact List.inj_on_of_nodup_map distinct first second same

/-- The words have neither brackets nor separators of names. -/
theorem word_plain :
    forall word, word ∈ words -> '[' ∉ word.toList ∧ word.toList.map slashed = word.toList := by
  decide

theorem primitive_noBracket {letter : Char} (listed : letter ∈ letters) :
    '[' ∉ ofChars [letter] := by
  rcases ofChars_primitive listed with ⟨word, member, same⟩
  rw [same]
  exact (word_plain word member).1

theorem reference_noBracket {name : List Char} (named : ClassName name) :
    '[' ∉ ofChars ('L' :: (name ++ [';'])) := by
  rw [ofChars_reference]
  intro member
  rcases List.mem_map.mp member with ⟨c, present, same⟩
  by_cases slash : c = '/'
  · rw [slash] at same
    exact absurd same (by decide)
  · rw [dotted, if_neg slash] at same
    exact named.noBracket (same ▸ present)

/-- A class that is called by no word is not taken for a primitive type. -/
theorem reference_ne_primitive {name : List Char} (named : ClassName name) {letter : Char}
    (listed : letter ∈ letters) : ofChars ('L' :: (name ++ [';'])) ≠ ofChars [letter] := by
  rcases ofChars_primitive listed with ⟨word, member, called⟩
  rw [ofChars_reference, called]
  intro same
  have back : name = word.toList := by
    rw [← map_slashed_dotted named.noDot, same, (word_plain word member).2]
  apply named.noWord
  rw [back, String.ofList_toList]
  exact member

theorem bracket_mem_array (element : List Char) : '[' ∈ ofChars ('[' :: element) := by
  rw [ofChars_array]
  exact List.mem_append_right _ List.mem_cons_self

/-- Different types have different names. -/
theorem ofChars_inj {one other : List Char} (first : Descriptor one) (second : Descriptor other)
    (same : ofChars one = ofChars other) : one = other := by
  -- The induction is on the dimensions of the first type.  Where the other one has a different
  -- form, either only one of the names has a bracket, or a class is called by a word.
  induction first generalizing other with
  | @primitive letter listed =>
      cases second with
      | @primitive other alsoListed =>
          rw [ofChars_primitive_inj listed alsoListed same]
      | reference named => exact absurd same.symm (reference_ne_primitive named listed)
      | array => exact absurd (same ▸ bracket_mem_array _) (primitive_noBracket listed)
  | @reference name named =>
      cases second with
      | primitive listed => exact absurd same (reference_ne_primitive named listed)
      | @reference other alsoNamed =>
          rw [ofChars_reference, ofChars_reference] at same
          rw [← map_slashed_dotted named.noDot, same, map_slashed_dotted alsoNamed.noDot]
      | array => exact absurd (same ▸ bracket_mem_array _) (reference_noBracket named)
  | array descriptor inductionHypothesis =>
      cases second with
      | primitive listed => exact absurd (same ▸ bracket_mem_array _) (primitive_noBracket listed)
      | reference named => exact absurd (same ▸ bracket_mem_array _) (reference_noBracket named)
      | array alsoDescriptor =>
          rw [ofChars_array, ofChars_array] at same
          rw [inductionHypothesis alsoDescriptor (List.append_cancel_right same)]

end TypeName
end Debuggee
end LineDebugger
