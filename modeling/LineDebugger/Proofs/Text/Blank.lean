import Mathlib.Data.List.TakeWhile
import LineDebugger.Proofs.Text.Numeral
import LineDebugger.Text.Blank

namespace LineDebugger
namespace Text

/-!
# What is left between blanks

A text is trimmed from both ends.  What is left is the part of it that has only blanks around it
and none at its ends; blanks within it stay.  A numeral has no blanks at all, so an answer that is
trimmed reads as a numeral exactly when it is one with blanks around it.
-/

/-- Blanks and nothing else. -/
def Blanks (chars : List Char) : Prop := forall c, c ∈ chars -> isBlank c = true

theorem Blanks.reverse {chars : List Char} (blanks : Blanks chars) : Blanks chars.reverse :=
  fun c member => blanks c (List.mem_reverse.mp member)

/-- Whatever is dropped from the front passes the test, and what is left begins with something
that does not. -/
theorem dropWhile_eq_iff {α : Type} {passes : α -> Bool} {items rest : List α} :
    items.dropWhile passes = rest ↔ exists front, items = front ++ rest ∧
      (forall item, item ∈ front -> passes item = true) ∧
      forall item, rest.head? = some item -> passes item = false := by
  constructor
  · rintro rfl
    refine ⟨items.takeWhile passes, List.takeWhile_append_dropWhile.symm,
      fun item member => List.mem_takeWhile_imp member, fun item first => ?_⟩
    have stops := List.head?_dropWhile_not passes items
    rw [first] at stops
    exact stops
  · rintro ⟨front, rfl, passed, stops⟩
    rw [List.dropWhile_append_of_pos passed]
    cases rest with
    | nil => rfl
    | cons first others =>
        exact List.dropWhile_cons_of_neg (Bool.eq_false_iff.mp (stops first rfl))

/-- What is left has blanks around it and none at its ends. -/
theorem trimChars_eq_iff {chars core : List Char} :
    trimChars chars = core ↔ exists lead trail, chars = lead ++ core ++ trail ∧
      Blanks lead ∧ Blanks trail ∧
      (forall c, core.head? = some c -> isBlank c = false) ∧
      forall c, core.getLast? = some c -> isBlank c = false := by
  rw [trimChars, List.reverse_eq_iff]
  constructor
  · intro left
    obtain ⟨lead, split, leading, begins⟩ := dropWhile_eq_iff.mp (Eq.refl (chars.dropWhile isBlank))
    obtain ⟨back, turned, trailing, ends⟩ := dropWhile_eq_iff.mp left
    have rest : chars.dropWhile isBlank = core ++ back.reverse := by
      rw [List.reverse_eq_iff.mp turned, List.reverse_append, List.reverse_reverse]
    refine ⟨lead, back.reverse, ?_, leading, Blanks.reverse trailing, fun c first => ?_,
      fun c last => ends c ?_⟩
    · rw [List.append_assoc, ← rest]
      exact split
    · exact begins c (by rw [rest, List.head?_append, first, Option.some_or])
    · rw [List.head?_reverse]
      exact last
  · rintro ⟨lead, trail, rfl, leading, trailing, begins, ends⟩
    cases core with
    | nil =>
        have blanks : (lead ++ [] ++ trail).dropWhile isBlank = [] := by
          rw [List.append_nil, List.dropWhile_append_of_pos leading]
          exact List.dropWhile_eq_nil_iff.mpr trailing
        rw [blanks]
        rfl
    | cons c rest =>
        have begun : (lead ++ c :: rest ++ trail).dropWhile isBlank = c :: rest ++ trail := by
          refine dropWhile_eq_iff.mpr ⟨lead, List.append_assoc .., leading, fun item first => ?_⟩
          exact begins item first
        rw [begun]
        refine dropWhile_eq_iff.mpr ⟨trail.reverse, List.reverse_append, trailing.reverse, ?_⟩
        intro item last
        rw [List.head?_reverse] at last
        exact ends item last

/-! ## Numerals between blanks -/

theorem blankRanges_apart : forall range, range ∈ blankRanges ->
    range.2 < '0'.toNat ∨ '9'.toNat < range.1 := by
  decide

theorem not_isDigit_of_isBlank {c : Char} (blank : isBlank c = true) : c.isDigit = false := by
  rw [isBlank, List.any_eq_true] at blank
  obtain ⟨range, listed, within⟩ := blank
  rw [Bool.and_eq_true, decide_eq_true_eq, decide_eq_true_eq] at within
  have apart := blankRanges_apart range listed
  rw [Bool.eq_false_iff, ne_eq, Char.isDigit_iff_toNat]
  omega

/-- Blanks are neither digits nor signs. -/
theorem UnsignedDigits.not_blank {chars : List Char} {number : Nat} {c : Char}
    (numeral : UnsignedDigits chars number) (member : c ∈ chars) : isBlank c = false := by
  rw [Bool.eq_false_iff]
  intro blank
  refine numeral.not_mem (not_isDigit_of_isBlank blank) ?_ member
  rintro rfl
  exact absurd blank (by decide)

/-- A numeral with blanks around it, and the number that it stands for. -/
inductive PaddedNumeral : List Char -> Nat -> Prop where
  | between {lead core trail : List Char} {number : Nat} : Blanks lead -> Blanks trail ->
      UnsignedDigits core number -> PaddedNumeral (lead ++ core ++ trail) number

/-- What is left of a text is a numeral if and only if the text is one with blanks around it. -/
theorem unsignedDigits_trim_iff {text : String} {number : Nat} :
    UnsignedDigits (trim text).toList number ↔ PaddedNumeral text.toList number := by
  rw [trim, String.toList_ofList]
  constructor
  · intro numeral
    obtain ⟨lead, trail, parts, leading, trailing, -, -⟩ :=
      trimChars_eq_iff.mp (Eq.refl (trimChars text.toList))
    rw [parts]
    exact .between leading trailing numeral
  · intro padded
    generalize text.toList = chars at padded
    cases padded with
    | @between lead core trail number leading trailing numeral =>
        have trimmed : trimChars (lead ++ core ++ trail) = core :=
          trimChars_eq_iff.mpr ⟨lead, trail, rfl, leading, trailing,
            fun c first => numeral.not_blank (List.mem_of_head? first),
            fun c last => numeral.not_blank (List.mem_of_getLast? last)⟩
        rw [trimmed]
        exact numeral

end Text
end LineDebugger
