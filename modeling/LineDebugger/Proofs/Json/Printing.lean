import LineDebugger.Proofs.Json.Spelling
import Mathlib.Data.List.Forall2

namespace LineDebugger
namespace Json

/-!
# Data in print

The parser finds a document again in what is printed of a datum, whole and without a fault.  What
has to be shown for a list or a record is that its parts are told apart.  Each part ends at a
comma or at the closing bracket, and these are the characters at which a value may end.

The parser is given three units of fuel for each character.  That is enough for a part, since a
list takes two units before it comes to an item, and an item has at least one character and is
followed by another.
-/

/-- The characters write a document: the parser finds it, whatever stands behind it that may
stand behind a value.  No space and no closing bracket comes first. -/
structure Writes (text : List Char) (document : Document) : Prop where
  opens : exists c others, text = c :: others ∧ isSpace c = false ∧ c ≠ ']'
  parses : forall fuel rest, 3 * text.length ≤ fuel -> Ends rest ->
    parseValue fuel (text ++ rest) = ⟨document, some rest⟩

theorem skipSpace_cons {c : Char} (notSpace : isSpace c = false) (rest : List Char) :
    skipSpace (c :: rest) = c :: rest := by
  rw [skipSpace, List.dropWhile_cons, notSpace]
  rfl

/-- Where there is a first character, there is fuel. -/
theorem Writes.of_head {c : Char} {others : List Char} {document : Document}
    (notSpace : isSpace c = false) (notClosing : c ≠ ']')
    (parses : forall fuel rest, 3 * others.length + 2 ≤ fuel -> Ends rest ->
      parseValue (fuel + 1) (c :: (others ++ rest)) = ⟨document, some rest⟩) :
    Writes (c :: others) document where
  opens := ⟨c, others, rfl, notSpace, notClosing⟩
  parses := by
    intro fuel rest enough ends
    rw [List.length_cons] at enough
    cases fuel with
    | zero => omega
    | succ fuel => exact parses fuel rest (by omega) ends

/-! ## Numbers and texts -/

theorem writes_natural {number : Nat} (fits : number ≤ Numeral.maxWord) :
    Writes (Nat.toDigits 10 number) (.number (.ok (.natural number))) := by
  cases digits : Nat.toDigits 10 number with
  | nil => exact absurd digits Nat.toDigits_ne_nil
  | cons c others =>
      have isDigit : c.isDigit = true := isDigit_of_mem (digits ▸ List.mem_cons_self)
      have other (letter : Char) (notDigit : letter.isDigit = false) : c ≠ letter := by
        rintro rfl
        rw [isDigit] at notDigit
        cases notDigit
      have notSpace : isSpace c = false := by
        simp only [isSpace, other ' ' rfl, other '\n' rfl, other '\t' rfl, other '\r' rfl,
          decide_false, Bool.or_self]
      refine .of_head notSpace (other ']' rfl) fun fuel rest _ ends => ?_
      rw [parseValue, skipSpace_cons notSpace]
      dsimp only
      rw [if_neg (other 'n' rfl), if_neg (other 't' rfl), if_neg (other 'f' rfl),
        if_neg (other '-' rfl), Text.Numeral.digit?_of_isDigit isDigit, Option.isSome_some,
        if_pos rfl, ← List.cons_append, ← digits, scanNumeral_digits _ _ ends, parseNumber,
        Numeral.value_natural fits]

theorem writes_negative {number : Nat} (positive : 0 < number)
    (fits : Int64.minValue.toInt ≤ -(number : Int)) :
    Writes ('-' :: Nat.toDigits 10 number) (.number (.ok (.negative (-(number : Int))))) := by
  refine .of_head rfl (by decide) fun fuel rest _ ends => ?_
  rw [parseValue, skipSpace_cons rfl]
  dsimp only
  rw [if_neg (by decide), if_neg (by decide), if_neg (by decide), if_pos rfl,
    scanNumeral_digits _ _ ends, parseNumber, Numeral.value_negative positive fits]

theorem writes_text (text : String) :
    Writes (Datum.jsonText text).toList (.text (.ok text)) := by
  rw [toList_jsonText]
  refine .of_head rfl (by decide) fun fuel rest _ _ => ?_
  rw [parseValue, skipSpace_cons rfl, List.append_assoc, List.singleton_append]
  dsimp only
  rw [if_neg (by decide), if_neg (by decide), if_neg (by decide), if_neg (by decide),
    if_neg (by decide), if_pos rfl, parseText, passText_spelling, readText_spelling]
  dsimp only [Except.map]
  rw [String.ofList_toList]

theorem parseWord_append (document : Document) (word rest : List Char) :
    parseWord document word (word ++ rest) = ⟨document, some rest⟩ := by
  induction word with
  | nil => rfl
  | cons c word inductionHypothesis =>
      rw [List.cons_append, parseWord, if_pos rfl]
      exact inductionHypothesis

theorem writes_null : Writes "null".toList .null := by
  refine .of_head rfl (by decide) fun fuel rest _ _ => ?_
  rw [parseValue, skipSpace_cons rfl]
  exact parseWord_append .null ['u', 'l', 'l'] rest

theorem writes_boolean (value : Bool) :
    Writes (if value then "true" else "false").toList (.boolean value) := by
  cases value with
  | true =>
      refine .of_head rfl (by decide) fun fuel rest _ _ => ?_
      rw [parseValue, skipSpace_cons rfl]
      exact parseWord_append (.boolean true) ['r', 'u', 'e'] rest
  | false =>
      refine .of_head rfl (by decide) fun fuel rest _ _ => ?_
      rw [parseValue, skipSpace_cons rfl]
      exact parseWord_append (.boolean false) ['a', 'l', 's', 'e'] rest

/-! ## Lists and objects -/

/-- Further parts, each with a comma before it, and the closing bracket. -/
def behind (bracket : Char) (parts : List (List Char)) : List Char :=
  parts.flatMap (',' :: ·) ++ [bracket]

/-- The parts with commas between them, and the closing bracket. -/
def within (bracket : Char) : List (List Char) -> List Char
  | [] => [bracket]
  | part :: others => part ++ behind bracket others

section Behind

variable (bracket : Char) (part : List Char) (parts : List (List Char))

theorem behind_cons : behind bracket (part :: parts) = ',' :: (part ++ behind bracket parts) := by
  rw [behind, List.flatMap_cons, List.append_assoc]
  rfl

theorem length_behind_pos : 0 < (behind bracket parts).length := by
  rw [behind, List.length_append]
  exact Nat.lt_add_left _ Nat.one_pos

/-- A part may end where the next one or the bracket begins. -/
theorem ends_behind {bracket : Char} (closing : bracket = ']' ∨ bracket = '\x7d')
    (rest : List Char) : Ends (behind bracket parts ++ rest) := by
  cases parts with
  | nil => exact ends_cons (.inr closing) rest
  | cons part others =>
      rw [behind_cons]
      exact ends_cons (.inl rfl) _

end Behind

/-- An item and those behind it. -/
theorem Writes.parseItem {text tail : List Char} {document : Document} {documents : List Document}
    {rest : List Char} {fuel : Nat} (writes : Writes text document)
    (enough : 3 * text.length ≤ fuel) (ends : Ends tail)
    (later : parseItems fuel false tail = (documents, .closed, some rest)) :
    Json.parseItem (fuel + 1) (text ++ tail) = (document :: documents, .closed, some rest) := by
  rw [Json.parseItem]
  dsimp only
  rw [writes.parses fuel tail enough ends]
  dsimp only
  rw [later]

/-- The induction is on the items. -/
theorem parseItems_behind {texts : List (List Char)} {documents : List Document}
    (written : List.Forall₂ Writes texts documents) (rest : List Char) (fuel : Nat)
    (enough : 3 * (behind ']' texts).length ≤ fuel) :
    parseItems fuel false (behind ']' texts ++ rest) = (documents, .closed, some rest) := by
  induction written generalizing fuel with
  | nil =>
      cases fuel with
      | zero => exact absurd enough (by decide)
      | succ fuel => rfl
  | @cons text document texts documents writes _ ih =>
      rw [behind_cons, List.length_cons, List.length_append] at enough
      have more := length_behind_pos ']' texts
      rcases writes.opens with ⟨c, others, head, notSpace, notClosing⟩
      obtain ⟨fuel, rfl⟩ : exists less, fuel = less + 2 := ⟨fuel - 2, by omega⟩
      rw [behind_cons, List.cons_append, List.append_assoc, parseItems, skipSpace_cons rfl]
      dsimp only
      rw [if_neg (by decide), if_neg Bool.false_ne_true, if_pos rfl]
      have item := writes.parseItem (by omega) (ends_behind texts (.inl rfl) rest)
        (ih fuel (by omega))
      rw [head, List.cons_append] at item ⊢
      rw [skipSpace_cons notSpace]
      dsimp only
      rw [if_neg notClosing, item]

theorem writes_list {texts : List (List Char)} {documents : List Document}
    (written : List.Forall₂ Writes texts documents) :
    Writes ('[' :: within ']' texts) (.list documents .closed) := by
  refine .of_head rfl (by decide) fun fuel rest enough _ => ?_
  rw [parseValue, skipSpace_cons rfl]
  dsimp only
  rw [if_neg (by decide), if_neg (by decide), if_neg (by decide), if_neg (by decide),
    if_neg (by decide), if_neg (by decide), if_pos rfl]
  suffices items : parseItems fuel true (within ']' texts ++ rest)
      = (documents, .closed, some rest) by rw [items]
  cases written with
  | nil =>
      cases fuel with
      | zero => exact absurd enough (by decide)
      | succ fuel => rfl
  | @cons text document texts documents writes written =>
      rw [within, List.length_append] at enough
      have more := length_behind_pos ']' texts
      rcases writes.opens with ⟨c, others, head, notSpace, notClosing⟩
      obtain ⟨fuel, rfl⟩ : exists less, fuel = less + 2 := ⟨fuel - 2, by omega⟩
      have item := writes.parseItem (by omega) (ends_behind texts (.inl rfl) rest)
        (parseItems_behind written rest fuel (by omega))
      rw [within, List.append_assoc, parseItems]
      rw [head, List.cons_append] at item ⊢
      rw [skipSpace_cons notSpace]
      dsimp only
      rw [if_neg notClosing, if_pos rfl, item]

/-- The characters write a member of an object. -/
inductive WritesMember : List Char -> Except Fault String × Document -> Prop where
  | intro (key : String) {text : List Char} {document : Document} (writes : Writes text document) :
      WritesMember ((Datum.jsonText key).toList ++ ':' :: text) (.ok key, document)

/-- A member, after its opening quote, and those behind it. -/
theorem parseMember_of_writes (key : String) {text tail rest : List Char} {document : Document}
    {members : List (Except Fault String × Document)} {fuel : Nat} (writes : Writes text document)
    (enough : 3 * text.length ≤ fuel) (ends : Ends tail)
    (later : parseMembers fuel tail = (members, .closed, some rest)) :
    parseMember (fuel + 1) (spelling key.toList ++ '"' :: ':' :: (text ++ tail))
      = ((.ok key, document) :: members, .closed, some rest) := by
  rw [parseMember, passText_spelling, readText_spelling]
  dsimp only
  rw [skipSpace_cons rfl]
  dsimp only
  rw [if_pos rfl, writes.parses fuel tail enough ends]
  dsimp only [Except.map]
  rw [later, String.ofList_toList]

/-- The induction is on the members. -/
theorem parseMembers_behind {texts : List (List Char)}
    {members : List (Except Fault String × Document)}
    (written : List.Forall₂ WritesMember texts members) (rest : List Char) (fuel : Nat)
    (enough : 3 * (behind '\x7d' texts).length ≤ fuel) :
    parseMembers fuel (behind '\x7d' texts ++ rest) = (members, .closed, some rest) := by
  induction written generalizing fuel with
  | nil =>
      cases fuel with
      | zero => exact absurd enough (by decide)
      | succ fuel => rfl
  | @cons _ _ texts members writesMember _ ih =>
      cases writesMember with
      | @intro key text document writes =>
          simp only [behind_cons, List.length_cons, List.length_append] at enough
          have more := length_behind_pos '\x7d' texts
          obtain ⟨fuel, rfl⟩ : exists less, fuel = less + 2 := ⟨fuel - 2, by omega⟩
          have member := parseMember_of_writes key writes (by omega)
            (ends_behind texts (.inr rfl) rest) (ih fuel (by omega))
          rw [behind_cons, toList_jsonText]
          simp only [List.cons_append, List.append_assoc, List.nil_append]
          rw [parseMembers, skipSpace_cons rfl]
          dsimp only
          rw [if_neg (by decide), if_pos rfl, skipSpace_cons rfl]
          dsimp only
          rw [if_pos rfl, member]

theorem writes_object {texts : List (List Char)} {members : List (Except Fault String × Document)}
    (written : List.Forall₂ WritesMember texts members) :
    Writes ('\x7b' :: within '\x7d' texts) (.object members .closed) := by
  refine .of_head rfl (by decide) fun fuel rest enough _ => ?_
  rw [parseValue, skipSpace_cons rfl]
  dsimp only
  rw [if_neg (by decide), if_neg (by decide), if_neg (by decide), if_neg (by decide),
    if_neg (by decide), if_neg (by decide), if_neg (by decide), if_pos rfl]
  cases written with
  | nil =>
      cases fuel with
      | zero => exact absurd enough (by decide)
      | succ fuel => rfl
  | @cons _ _ texts members writesMember written =>
      cases writesMember with
      | @intro key text document writes =>
          simp only [within, List.length_append, List.length_cons] at enough
          have more := length_behind_pos '\x7d' texts
          obtain ⟨fuel, rfl⟩ : exists less, fuel = less + 2 := ⟨fuel - 2, by omega⟩
          have member := parseMember_of_writes key writes (by omega)
            (ends_behind texts (.inr rfl) rest) (parseMembers_behind written rest fuel (by omega))
          rw [within, toList_jsonText]
          simp only [List.cons_append, List.append_assoc, List.nil_append]
          rw [parseObject, skipSpace_cons rfl]
          dsimp only
          rw [if_neg (by decide), if_pos rfl, member]

/-! ## Data -/

namespace Datum

/-- The compact text of the datum is parsed to the document. -/
def Shows (datum : Datum) (document : Document) : Prop := Writes datum.compact.toList document

/-- A field and the member that it is parsed to. -/
def ShowsField (field : String × Datum) (member : Except Fault String × Document) : Prop :=
  member.1 = .ok field.1 ∧ field.2.Shows member.2

/-- The number that an integer is read as. -/
def numberOf (value : Int) : Number := if 0 ≤ value then .natural value.toNat else .negative value

theorem shows_integer {value : Int} (low : Int64.minValue.toInt ≤ value)
    (high : value ≤ Numeral.maxWord) : (integer value).Shows (.number (.ok (numberOf value))) := by
  change Writes (toString value).toList _
  rw [Int.toString_eq_repr, Int.repr_eq_if, numberOf]
  by_cases natural : 0 ≤ value
  · rw [if_pos natural, if_pos natural, Nat.repr_eq_ofList_toDigits, String.toList_ofList]
    exact writes_natural (by omega)
  · have magnitude : -((-value).toNat : Int) = value := by omega
    rw [if_neg natural, if_neg natural, Nat.repr_eq_ofList_toDigits, String.toList_append,
      String.toList_ofList, String.toList_ofList]
    have negative := writes_negative (show 0 < (-value).toNat by omega) (by omega)
    rw [magnitude] at negative
    exact negative

theorem shows_text (text : String) : (Datum.text text).Shows (.text (.ok text)) :=
  writes_text text

theorem shows_choice (name : String) : (choice name).Shows (.text (.ok name)) :=
  writes_text name

theorem shows_boolean (value : Bool) : (boolean value).Shows (.boolean value) :=
  writes_boolean value

theorem shows_absent (name : String) : (absent name).Shows .null :=
  writes_null

/-- Of an alternative that is shown by its content nothing else is seen. -/
theorem shows_wrapped (name : String) {content : Datum} {document : Document}
    (shows : content.Shows document) : (wrapped name content).Shows document :=
  shows

/-- The induction follows the printing of items. -/
theorem compactItems_within (bracket : Char) : (items : List Datum) ->
    (compactItems items).toList ++ [bracket]
      = within bracket (items.map fun item => item.compact.toList)
  | [] => rfl
  | [item] => by rw [compactItems]; rfl
  | item :: next :: others => by
      rw [compactItems, String.toList_append, String.toList_append, List.append_assoc,
        compactItems_within bracket (next :: others)]
      · simp only [List.map_cons, within, behind_cons, List.append_assoc]
        rfl
      · intro none
        cases none

/-- The characters of a field. -/
def memberText (field : String × Datum) : List Char :=
  (jsonText field.1).toList ++ ':' :: field.2.compact.toList

/-- The induction follows the printing of fields. -/
theorem compactFields_within (bracket : Char) : (fields : List (String × Datum)) ->
    (compactFields fields).toList ++ [bracket] = within bracket (fields.map memberText)
  | [] => rfl
  | [(name, value)] => by
      rw [compactFields, String.toList_append, String.toList_append, List.append_assoc,
        List.append_assoc]
      exact (List.append_assoc (jsonText name).toList (':' :: value.compact.toList) [bracket]).symm
  | (name, value) :: next :: others => by
      rw [compactFields, String.toList_append, String.toList_append, String.toList_append,
        String.toList_append, List.append_assoc, compactFields_within bracket (next :: others)]
      · simp only [List.map_cons, within, behind_cons, List.append_assoc, memberText]
        rfl
      · intro none
        cases none

theorem shows_list {items : List Datum} {documents : List Document}
    (shown : List.Forall₂ Shows items documents) :
    (list items).Shows (.list documents .closed) := by
  change Writes ("[" ++ compactItems items ++ "]").toList _
  rw [String.toList_append, String.toList_append, List.append_assoc]
  change Writes ('[' :: ((compactItems items).toList ++ [']'])) _
  rw [compactItems_within]
  exact writes_list (List.forall₂_map_left_iff.mpr shown)

theorem shows_record {name : String} {fields : List (String × Datum)}
    {members : List (Except Fault String × Document)}
    (shown : List.Forall₂ ShowsField fields members) :
    (record name fields).Shows (.object members .closed) := by
  change Writes ("\x7b" ++ compactFields fields ++ "\x7d").toList _
  rw [String.toList_append, String.toList_append, List.append_assoc]
  change Writes ('\x7b' :: ((compactFields fields).toList ++ ['\x7d'])) _
  rw [compactFields_within]
  refine writes_object (List.forall₂_map_left_iff.mpr (shown.imp ?_))
  rintro field ⟨_, document⟩ ⟨rfl, shows⟩
  exact .intro field.1 shows

/-- An alternative looks like a record that has its name as the first field. -/
theorem compact_tagged (name : String) (fields : List (String × Datum)) :
    (tagged name fields).compact = (record name ((tagField, text name) :: fields)).compact := by
  rw [compact, compact]
  cases fields with
  | nil =>
      simp only [compactFields, compact, List.isEmpty_nil, if_true, String.append_empty,
        String.append_assoc]
  | cons field others =>
      change _ = "\x7b" ++ (jsonText tagField ++ ":" ++ jsonText name ++ ","
        ++ compactFields (field :: others)) ++ "\x7d"
      simp only [List.isEmpty_cons, Bool.false_eq_true, if_false, String.append_assoc]

theorem shows_tagged {name : String} {fields : List (String × Datum)}
    {members : List (Except Fault String × Document)}
    (shown : List.Forall₂ ShowsField fields members) :
    (tagged name fields).Shows
      (.object ((.ok tagField, .text (.ok name)) :: members) .closed) := by
  rw [Shows, compact_tagged]
  exact shows_record (.cons ⟨rfl, shows_text name⟩ shown)

/-- The compact text is parsed as a whole. -/
theorem Shows.parse {datum : Datum} {document : Document} (shows : datum.Shows document) :
    Document.parse datum.compact = ⟨document, some []⟩ := by
  have whole := Writes.parses shows (3 * datum.compact.toList.length + 3) [] (by omega) ends_nil
  rw [List.append_nil] at whole
  exact whole

end Datum
end Json
end LineDebugger
