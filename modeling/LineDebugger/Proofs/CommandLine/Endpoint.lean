import LineDebugger.CommandLine.Endpoint
import LineDebugger.Proofs.Text.Numeral

namespace LineDebugger
namespace CommandLine

open Text

/-!
# Reading an endpoint

A host may be any text, with colons of its own, so the colon that counts is the last one.  A port
has none: it is a numeral.  What is read is therefore told by the text as a whole, and an endpoint
that is written out is read back as itself.

The converse fails on purpose.  A port may be written with a plus sign or with leading zeros, and
writing the endpoint again drops both.  From then on the text stays as it is.
-/

namespace Endpoint

/-! ## The last colon -/

theorem splitLast_cons_of_some {c : Char} {rest before after : List Char}
    (later : splitLast rest = some (before, after)) :
    splitLast (c :: rest) = some (c :: before, after) := by
  rw [splitLast, later]

theorem splitLast_cons_of_none {c : Char} {rest : List Char} (last : splitLast rest = none) :
    splitLast (c :: rest) = if c = ':' then some ([], rest) else none := by
  rw [splitLast, last]

/-- A text is parted unless it has no colon. -/
theorem splitLast_eq_none_iff {chars : List Char} : splitLast chars = none ↔ ':' ∉ chars := by
  induction chars with
  | nil => simp [splitLast]
  | cons c rest inductionHypothesis =>
      rw [List.mem_cons, not_or, ← inductionHypothesis]
      cases later : splitLast rest with
      | some parts => simp [splitLast_cons_of_some later]
      | none =>
          rw [splitLast_cons_of_none later]
          by_cases colon : c = ':'
          · simp [colon]
          · simp [colon, Ne.symm colon]

theorem splitLast_append (before : List Char) {after : List Char} (last : ':' ∉ after) :
    splitLast (before ++ ':' :: after) = some (before, after) := by
  induction before with
  | nil => simp [splitLast_cons_of_none (splitLast_eq_none_iff.mpr last)]
  | cons c before inductionHypothesis => exact splitLast_cons_of_some inductionHypothesis

/-- A text is parted at a colon after which there is none. -/
theorem splitLast_eq_some_iff {chars before after : List Char} :
    splitLast chars = some (before, after) ↔ chars = before ++ ':' :: after ∧ ':' ∉ after := by
  constructor
  · intro parted
    -- The induction is on the text: a colon in front counts only if none follows.
    induction chars generalizing before with
    | nil => cases parted
    | cons c rest inductionHypothesis =>
        cases later : splitLast rest with
        | some parts =>
            rw [splitLast_cons_of_some later] at parted
            cases parted
            rcases inductionHypothesis later with ⟨split, last⟩
            exact ⟨congrArg (c :: ·) split, last⟩
        | none =>
            rw [splitLast_cons_of_none later] at parted
            by_cases colon : c = ':'
            · rw [if_pos colon] at parted
              cases parted
              exact ⟨congrArg (· :: after) colon, splitLast_eq_none_iff.mp later⟩
            · rw [if_neg colon] at parted
              cases parted
  · rintro ⟨rfl, last⟩
    exact splitLast_append before last

/-! ## What a text names -/

/-- The text has a host in front of its last colon, and after it a numeral for a port. -/
structure Names (text host port : String) (number : Nat) : Prop where
  parted : text = host ++ ":" ++ port
  last : ':' ∉ port.toList
  present : host ≠ ""
  numeral : UnsignedDigits port.toList number
  bounded : number ≤ 65535

theorem toList_parted (host port : String) :
    (host ++ ":" ++ port).toList = host.toList ++ ':' :: port.toList := by
  simp

theorem parse_of_names {text host port : String} {number : Nat}
    (names : Names text host port number) : parse text = .ok ⟨host, UInt16.ofNat number⟩ := by
  have someHost : host.toList.isEmpty = false := by
    simpa using names.present
  have read : Numeral.word16? port = some (UInt16.ofNat number) := by
    apply Numeral.word16?_eq_some_iff.mpr
    rw [UInt16.toNat_ofNat_of_lt' (Nat.lt_succ_of_le names.bounded)]
    exact names.numeral
  simp only [parse, names.parted, toList_parted, splitLast_append _ names.last, someHost,
    Bool.false_eq_true, if_false, String.ofList_toList, read]

/-- Whatever is read is what the text names. -/
theorem names_of_parse {text : String} {endpoint : Endpoint} (read : parse text = .ok endpoint) :
    exists port, Names text endpoint.host port endpoint.port.toNat := by
  rw [parse] at read
  split at read
  · cases read
  · next host port parted =>
      rcases splitLast_eq_some_iff.mp parted with ⟨split, last⟩
      by_cases empty : host.isEmpty = true
      · rw [if_pos empty] at read
        cases read
      · rw [if_neg empty] at read
        dsimp only at read
        split at read
        · next number numeral =>
            cases read
            refine ⟨String.ofList port, ?_, ?_, ?_, Numeral.word16?_eq_some_iff.mp numeral, ?_⟩
            · apply String.toList_inj.mp
              rw [split, toList_parted, String.toList_ofList, String.toList_ofList]
            · rw [String.toList_ofList]
              exact last
            · intro missing
              apply empty
              simpa using congrArg String.toList missing
            · exact Nat.le_pred_of_lt number.toNat_lt
        · cases read

/-- The written form of an endpoint names its host and its port. -/
theorem names_render {endpoint : Endpoint} (present : endpoint.host ≠ "") :
    Names endpoint.render endpoint.host (toString endpoint.port.toNat) endpoint.port.toNat := by
  have numeral : UnsignedDigits (toString endpoint.port.toNat).toList endpoint.port.toNat := by
    rw [Nat.toString_eq_repr, Nat.toList_repr]
    exact .bare (toDigits_digits _)
  exact ⟨rfl, numeral.not_mem (by decide) (by decide), present, numeral,
    Nat.le_pred_of_lt endpoint.port.toNat_lt⟩

theorem parse_render {endpoint : Endpoint} (present : endpoint.host ≠ "") :
    parse endpoint.render = .ok endpoint := by
  rw [parse_of_names (names_render present), UInt16.ofNat_toNat]

/-- An endpoint with a host is read back from its written form.  A text is accepted if it names a
host and a port of at most 65535, and only then; the endpoint is this host with this port, and
from there on writing and reading change nothing. -/
theorem parse_reads_names :
    (forall endpoint : Endpoint, endpoint.host ≠ "" -> parse endpoint.render = .ok endpoint) ∧
    (forall text, (exists endpoint, parse text = .ok endpoint) ↔
      exists host port number, Names text host port number) ∧
    (forall text host port number, Names text host port number ->
      exists endpoint, parse text = .ok endpoint ∧
        endpoint.host = host ∧ endpoint.port.toNat = number) ∧
    (forall text endpoint, parse text = .ok endpoint ->
      parse endpoint.render = .ok endpoint) := by
  refine ⟨fun _ => parse_render, fun text => ⟨?_, ?_⟩, ?_, ?_⟩
  · rintro ⟨endpoint, read⟩
    rcases names_of_parse read with ⟨port, names⟩
    exact ⟨endpoint.host, port, endpoint.port.toNat, names⟩
  · rintro ⟨host, port, number, names⟩
    exact ⟨⟨host, UInt16.ofNat number⟩, parse_of_names names⟩
  · intro text host port number names
    exact ⟨⟨host, UInt16.ofNat number⟩, parse_of_names names, rfl,
      UInt16.toNat_ofNat_of_lt' (Nat.lt_succ_of_le names.bounded)⟩
  · intro text endpoint read
    rcases names_of_parse read with ⟨port, names⟩
    exact parse_render names.present

/-- A host may have colons, and a port may have a sign and leading zeros.  These are gone once the
endpoint is written again. -/
theorem parse_reads_names_colons :
    (Endpoint.mk "::1" 5005).host ≠ "" ∧
    parse (Endpoint.mk "::1" 5005).render = .ok ⟨"::1", 5005⟩ ∧
    Names "a:b:+00080" "a:b" "+00080" 80 ∧
    (exists endpoint, parse "a:b:+00080" = .ok endpoint ∧
      endpoint.host = "a:b" ∧ endpoint.port.toNat = 80) ∧
    parse "a:b:+00080" = .ok ⟨"a:b", 80⟩ ∧
    parse (Endpoint.mk "a:b" 80).render = .ok ⟨"a:b", 80⟩ := by
  have present : (Endpoint.mk "::1" 5005).host ≠ "" := by decide
  have digits : Digits "00080".toList 80 :=
    ⟨by decide, List.all_eq_true.mp (by decide), by decide⟩
  have names : Names "a:b:+00080" "a:b" "+00080" 80 :=
    ⟨by decide, by decide, by decide, .plus digits, by decide⟩
  have read : parse "a:b:+00080" = .ok ⟨"a:b", 80⟩ := parse_of_names names
  exact ⟨present, parse_reads_names.1 _ present, names, parse_reads_names.2.2.1 _ _ _ _ names,
    read, parse_reads_names.2.2.2 _ _ read⟩

end Endpoint
end CommandLine
end LineDebugger
