import LineDebugger.Json.Decoder
import LineDebugger.Proofs.Json.Printing

namespace LineDebugger
namespace Json

/-!
# Decoders that find data again

A decoder recovers a datum if it finds it again in the document that the compact text of the datum
is parsed to.  Whether a decoder of lists, records or alternatives does so depends on the decoders
of the parts alone.

The name of an alternative may stand anywhere among the fields, so the fields are read as a whole
before any of them is decoded, and what is nested too deep is refused then.  A decoder that
recovers a datum is therefore said to do so with a number of levels: a reader who allows that many
finds no fault in the document.
-/

namespace Decoder

/-- The decoder finds the datum in the document that its compact text is parsed to. -/
structure Recovers (decoder : Decoder) (levels : Nat) (datum : Datum) (document : Document) :
    Prop where
  shows : datum.Shows document
  decodes : decoder document = .ok datum
  flawless : forall depth, levels ≤ depth -> document.faultReading depth = none

theorem Recovers.mono {decoder : Decoder} {levels more : Nat} {datum : Datum} {document : Document}
    (recovers : decoder.Recovers levels datum document) (above : levels ≤ more) :
    decoder.Recovers more datum document where
  shows := recovers.shows
  decodes := recovers.decodes
  flawless depth deep := recovers.flawless depth (Nat.le_trans above deep)

/-! ## Integers and texts -/

section Integers

variable {low high value : Int}

theorem integer_decodes (above : low ≤ value) (below : value ≤ high) :
    integer low high (.number (.ok (Datum.numberOf value))) = .ok (.integer value) := by
  rw [Datum.numberOf]
  by_cases natural : 0 ≤ value
  · have same : (value.toNat : Int) = value := Int.toNat_of_nonneg natural
    rw [if_pos natural, integer, same, if_pos below]
  · rw [if_neg natural, integer, if_pos above]

theorem integer_recovers (above : low ≤ value) (below : value ≤ high)
    (least : Int64.minValue.toInt ≤ value) (most : value ≤ Numeral.maxWord) :
    (integer low high).Recovers 0 (.integer value) (.number (.ok (Datum.numberOf value))) where
  shows := Datum.shows_integer least most
  decodes := integer_decodes above below
  flawless _ _ := rfl

end Integers

theorem text_recovers (value : String) : text.Recovers 0 (.text value) (.text (.ok value)) where
  shows := Datum.shows_text value
  decodes := rfl
  flawless _ _ := rfl

/-! ## Lists -/

section Lists

variable {item : Decoder} {levels : Nat} {data : List Datum} {documents : List Document}

/-- The induction is on the items. -/
theorem items_recover (recovers : List.Forall₂ (item.Recovers levels) data documents) :
    items item documents = .ok data := by
  induction recovers with
  | nil => rfl
  | cons first _ ih =>
      rw [items, first.decodes, ih]
      rfl

/-- The induction is on the items. -/
theorem items_flawless (recovers : List.Forall₂ (item.Recovers levels) data documents) {depth : Nat}
    (deep : levels ≤ depth) : Document.faultReadingItems depth documents = none := by
  induction recovers with
  | nil => rfl
  | cons first _ ih =>
      rw [Document.faultReadingItems, first.flawless depth deep, ih]
      rfl

theorem list_recovers (recovers : List.Forall₂ (item.Recovers levels) data documents) :
    (list item).Recovers (levels + 1) (.list data) (.list documents .closed) where
  shows := Datum.shows_list (recovers.imp fun _ _ each => each.shows)
  decodes := by
    rw [list, items_recover recovers]
    rfl
  flawless := by
    intro depth deep
    rw [Document.faultReading, if_neg (by omega), items_flawless recovers (by omega)]
    rfl

end Lists

/-! ## Records -/

/-- Each decoder recovers its field from its member. -/
inductive RecoversFields (levels : Nat) :
    Fields -> List (String × Datum) -> List (Except Fault String × Document) -> Prop where
  | nil : RecoversFields levels [] [] []
  | cons {name : String} {decoder : Decoder} {datum : Datum} {document : Document}
      {fields : Fields} {values : List (String × Datum)}
      {members : List (Except Fault String × Document)}
      (first : decoder.Recovers levels datum document)
      (others : RecoversFields levels fields values members) :
      RecoversFields levels ((name, decoder) :: fields) ((name, datum) :: values)
        ((.ok name, document) :: members)

/-- What stands under a name is found if no name stands twice. -/
theorem lookup_of_mem {β : Type} {entries : List (String × β)}
    (distinct : (entries.map Prod.fst).Nodup) {entry : String × β} (present : entry ∈ entries) :
    entries.lookup entry.1 = some entry.2 := by
  induction entries with
  | nil => cases present
  | cons first others ih =>
      rw [List.map_cons, List.nodup_cons] at distinct
      rcases List.mem_cons.mp present with rfl | later
      · exact List.lookup_cons_self
      · have differ : (entry.1 == first.1) = false := by
          rw [beq_eq_false_iff_ne]
          intro same
          exact distinct.1 (same ▸ List.mem_map_of_mem later)
        rw [List.lookup_cons, differ]
        exact ih distinct.2 later

/-- Nothing stands under a name that does not occur. -/
theorem lookup_of_not_mem {β : Type} {entries : List (String × β)} {name : String}
    (absent : name ∉ entries.map Prod.fst) : entries.lookup name = none := by
  rw [List.lookup_eq_none_iff]
  intro entry present
  rw [bne_iff_ne]
  rintro rfl
  exact absent (List.mem_map_of_mem present)

namespace RecoversFields

variable {levels : Nat} {fields : Fields} {values : List (String × Datum)}
  {members : List (Except Fault String × Document)}

theorem names (recovers : RecoversFields levels fields values members) :
    values.map Prod.fst = fields.map Prod.fst := by
  induction recovers with
  | nil => rfl
  | cons _ _ ih => exact congrArg _ ih

theorem shows (recovers : RecoversFields levels fields values members) :
    List.Forall₂ Datum.ShowsField values members := by
  induction recovers with
  | nil => exact .nil
  | cons first _ ih => exact .cons ⟨rfl, first.shows⟩ ih

theorem flawless (recovers : RecoversFields levels fields values members) {depth : Nat}
    (deep : levels ≤ depth) : Document.faultReadingMembers depth members = none := by
  induction recovers with
  | nil => rfl
  | cons first _ ih =>
      rw [Document.faultReadingMembers, first.flawless depth deep, ih]
      rfl

/-- The members are all fields, and none of them has been met before.  The induction is on the
members that are left. -/
theorem byName (recovers : RecoversFields levels fields values members) {all : Fields}
    (known : forall field, field ∈ fields -> all.lookup field.1 = some field.2)
    (distinct : (fields.map Prod.fst).Nodup) {found : List (String × Datum)}
    (fresh : forall name, name ∈ fields.map Prod.fst -> found.lookup name = none) :
    fieldsByName all found members = .ok (found ++ values) := by
  induction recovers generalizing found with
  | nil => rw [List.append_nil]; rfl
  | @cons name decoder datum document fields values members first others ih =>
      rw [List.map_cons, List.nodup_cons] at distinct
      rw [fieldsByName]
      dsimp only [bind, Except.bind]
      rw [known _ List.mem_cons_self]
      dsimp only
      rw [fresh name List.mem_cons_self, first.decodes]
      dsimp only [Option.isSome_none]
      have knownToo : forall field, field ∈ fields -> all.lookup field.1 = some field.2 :=
        fun field later => known field (List.mem_cons_of_mem _ later)
      rw [if_neg Bool.false_ne_true, ih knownToo distinct.2 ?_, List.append_assoc]
      · rfl
      · intro other later
        have differ : (other == name) = false := by
          rw [beq_eq_false_iff_ne]
          rintro rfl
          exact distinct.1 later
        rw [List.lookup_append, fresh other (List.mem_cons_of_mem _ later), List.lookup_cons,
          differ]
        rfl

/-- The induction is on the fields. -/
theorem inOrder (recovers : RecoversFields levels fields values members)
    {found : List (String × Datum)}
    (present : forall value, value ∈ values -> found.lookup value.1 = some value.2) :
    Decoder.inOrder fields found = .ok values := by
  induction recovers with
  | nil => rfl
  | @cons name decoder datum document fields values members _ _ ih =>
      have later := ih fun value member => present value (List.mem_cons_of_mem _ member)
      rw [Decoder.inOrder] at later ⊢
      rw [List.mapM_cons, later]
      dsimp only
      rw [present _ List.mem_cons_self]
      rfl

theorem fieldValues (recovers : RecoversFields levels fields values members)
    (distinct : (fields.map Prod.fst).Nodup) (whole : Bool) :
    Decoder.fieldValues whole fields (.object members .closed) = .ok values := by
  rw [Decoder.fieldValues,
    recovers.byName (fun _ => lookup_of_mem distinct) distinct fun _ _ => rfl]
  refine recovers.inOrder fun _ => lookup_of_mem ?_
  rw [recovers.names]
  exact distinct

theorem record (recovers : RecoversFields levels fields values members)
    (distinct : (fields.map Prod.fst).Nodup) (whole : Bool) (name : String) :
    (Decoder.record whole name fields).Recovers (levels + 1) (.record name values)
      (.object members .closed) where
  shows := Datum.shows_record recovers.shows
  decodes := by
    rw [Decoder.record, recovers.fieldValues distinct]
    rfl
  flawless := by
    intro depth deep
    rw [Document.faultReading, if_neg (by omega), recovers.flawless (by omega)]
    rfl

/-! ## Alternatives -/

/-- Once the name of the alternative is known, the other members are left as they are. -/
theorem takeTag (recovers : RecoversFields levels fields values members) {depth : Nat}
    (deep : levels ≤ depth) (names : List String) (tag : Option String)
    (untagged : Datum.tagField ∉ fields.map Prod.fst) :
    Decoder.takeTag names depth tag members = .ok (tag, members) := by
  induction recovers with
  | nil => rfl
  | cons first _ ih =>
      rw [List.map_cons, List.mem_cons, not_or] at untagged
      rw [Decoder.takeTag]
      dsimp only [bind, Except.bind]
      rw [if_neg (Ne.symm untagged.1), first.flawless depth deep, ih untagged.2]
      rfl

theorem contentOf (recovers : RecoversFields levels fields values members)
    (distinct : (fields.map Prod.fst).Nodup) :
    Decoder.contentOf fields (.object members .closed) = .ok values := by
  cases fields with
  | nil =>
      cases recovers
      rfl
  | cons field others => exact recovers.fieldValues distinct true

/-- The name of the alternative comes first and is no field. -/
theorem tagged (recovers : RecoversFields levels fields values members)
    (distinct : (fields.map Prod.fst).Nodup) (untagged : Datum.tagField ∉ fields.map Prod.fst)
    {depth : Nat} (deep : levels ≤ depth) {alternatives : List (String × Fields)} {name : String}
    (known : alternatives.lookup name = some fields) :
    (Decoder.tagged depth alternatives).Recovers (levels + 1) (.tagged name values)
      (.object ((.ok Datum.tagField, .text (.ok name)) :: members) .closed) where
  shows := Datum.shows_tagged recovers.shows
  decodes := by
    have listed : (alternatives.map Prod.fst).contains name = true := by
      rw [List.contains_iff_mem]
      by_contra absent
      rw [lookup_of_not_mem absent] at known
      cases known
    have named : nameOf (alternatives.map Prod.fst) (.text (.ok name)) = .ok name := if_pos listed
    rw [Decoder.tagged]
    dsimp only
    rw [Decoder.takeTag]
    dsimp only [bind, Except.bind, Option.isSome_none]
    rw [if_pos rfl, if_neg Bool.false_ne_true, named]
    dsimp only
    rw [recovers.takeTag deep _ _ untagged]
    dsimp only [ensure, Closing.faultAsElement, pure, Except.pure]
    rw [known, Option.getD_some, recovers.contentOf distinct]
  flawless := by
    intro depth deep
    rw [Document.faultReading, if_neg (by omega), Document.faultReadingMembers,
      recovers.flawless (by omega)]
    rfl

end RecoversFields

/-- The compact text of a datum is decoded as the document that it is parsed to. -/
theorem decode_of_shows {decoder : Decoder} {datum other : Datum} {document : Document}
    (shows : datum.Shows document) (decodes : decoder document = .ok other) :
    decoder.decode datum.compact = .ok other := by
  rw [Decoder.decode, shows.parse]
  dsimp only
  rw [decodes]
  rfl

end Decoder
end Json
end LineDebugger
