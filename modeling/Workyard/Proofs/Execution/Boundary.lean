/-
**Where output can be cut.**

A cut is sought among octets: from the limit on, up to the first octet that is not inside a character,
or to the end. The characters of a text are whole on both sides of such a place and of no other, so
that the search ends and what is behind the place is a text again.

* `isBoundary_octets_iff`: the boundaries in the octets of a text are where its characters meet;
* `Cut.isLeast`: a text is cut at the least boundary that is not too early;
* `truncated_at_boundary`: what cutting its output makes of a failure.
-/

import Mathlib.Order.Bounds.Basic
import Workyard.Proofs.Execution.Truncation
import Workyard.Proofs.Text.Utf8

namespace Workyard

/-! ### Boundaries among octets -/

namespace Text.Utf8

/-- Whether an octet is inside a character, behind its first one. -/
def isInner (octet : UInt8) : Bool := 0x80 ≤ octet && octet < 0xc0

/-- A place in octets at the end or in front of an octet that is not inside a character. -/
def IsBoundary (spelled : List UInt8) (place : Nat) : Prop :=
  place = spelled.length ∨ ∃ octet, spelled[place]? = some octet ∧ isInner octet = false

/-- No character starts with an octet from inside of one. -/
theorem start_of_isInner {octet : UInt8} (inner : isInner octet = true) : start octet = .refused := by
  simp only [isInner, Bool.and_eq_true, decide_eq_true_eq, UInt8.le_iff_toNat_le,
    UInt8.lt_iff_toNat_lt, UInt8.reduceToNat] at inner
  simp only [start, UInt8.le_iff_toNat_le, UInt8.lt_iff_toNat_lt, UInt8.reduceToNat]
  rw [if_neg (by omega), if_pos (by omega)]

theorem isInner_of_mem_continuation {count code : Nat} {octet : UInt8}
    (member : octet ∈ continuation count code) : isInner octet = true := by
  induction count with
  | zero => cases member
  | succ count hypothesis =>
    rcases List.mem_cons.mp member with rfl | member
    · have six : above count code % 64 < 64 := Nat.mod_lt _ (by decide)
      simp only [isInner, Bool.and_eq_true, decide_eq_true_eq, UInt8.le_iff_toNat_le,
        UInt8.lt_iff_toNat_lt, UInt8.reduceToNat, toNat_continuing six]
      omega
    · exact hypothesis member

/-- The first octet of a character is not inside it, and all others are. -/
theorem utf8EncodeChar_shape (c : Char) :
    ∃ first inside, String.utf8EncodeChar c = first :: inside ∧ isInner first = false ∧
      ∀ octet ∈ inside, isInner octet = true := by
  have outer : ∀ {octet : UInt8}, start octet ≠ .refused → isInner octet = false := by
    intro octet begins
    by_contra inner
    exact begins (start_of_isInner (Bool.eq_true_of_not_eq_false inner))
  rcases encode_starts c with ⟨octet, written, whole⟩ | ⟨octet, count, low, high, written, begun, -⟩
  · refine ⟨octet, [], written, outer ?_, fun _ member => by cases member⟩
    rw [whole]
    exact nofun
  · refine ⟨octet, _, written, outer ?_, fun _ => isInner_of_mem_continuation⟩
    rw [begun]
    exact nofun

theorem length_octets (text : List Char) : (octets text).length = size text := by
  induction text with
  | nil => rfl
  | cons c rest hypothesis =>
    rw [octets_cons, List.length_append, String.length_utf8EncodeChar, hypothesis, size_cons]

theorem length_encode (text : String) : (encode text).length = size text.toList := by
  rw [encode_eq, length_octets]

/-- Behind a character there are the boundaries of the rest. -/
theorem isBoundary_append (spelled rest : List UInt8) (place : Nat) :
    IsBoundary (spelled ++ rest) (spelled.length + place) ↔ IsBoundary rest place := by
  unfold IsBoundary
  rw [List.length_append, Nat.add_left_cancel_iff, List.getElem?_append_right (Nat.le_add_right _ _),
    Nat.add_sub_cancel_left]

/-- Inside a character there is no boundary. -/
theorem not_isBoundary_inside {c : Char} {place : Nat} (behind : 0 < place)
    (before : place < c.utf8Size) (rest : List UInt8) :
    ¬ IsBoundary (String.utf8EncodeChar c ++ rest) place := by
  obtain ⟨first, inside, written, -, inner⟩ := utf8EncodeChar_shape c
  have size := String.length_utf8EncodeChar c
  rintro (ends | ⟨octet, found, outer⟩)
  · rw [List.length_append] at ends
    omega
  · rw [List.getElem?_append_left (by omega), written] at found
    obtain ⟨behind, rfl⟩ : ∃ behind, place = behind + 1 := ⟨place - 1, by omega⟩
    rw [List.getElem?_cons_succ] at found
    rw [inner octet (List.mem_of_getElem? found)] at outer
    cases outer

/-- **The boundaries in the octets of a text are where its characters meet.** -/
theorem isBoundary_octets_iff (text : List Char) (place : Nat) :
    IsBoundary (octets text) place ↔ ∃ front back, text = front ++ back ∧ size front = place := by
  induction text generalizing place with
  | nil =>
    constructor
    · rintro (ends | ⟨octet, found, -⟩)
      · exact ⟨[], [], rfl, ends.symm⟩
      · cases found
    · rintro ⟨front, back, split, rfl⟩
      obtain ⟨rfl, rfl⟩ := List.append_eq_nil_iff.mp split.symm
      exact .inl rfl
  | cons c rest hypothesis =>
    rw [octets_cons]
    rcases Nat.eq_zero_or_pos place with rfl | behind
    · -- a text starts at a boundary
      obtain ⟨first, inside, written, outer, -⟩ := utf8EncodeChar_shape c
      refine ⟨fun _ => ⟨[], c :: rest, rfl, rfl⟩, fun _ => .inr ⟨first, ?_, outer⟩⟩
      rw [written]
      rfl
    rcases Nat.lt_or_ge place c.utf8Size with before | beyond
    · refine ⟨fun boundary => absurd boundary (not_isBoundary_inside behind before _), ?_⟩
      rintro ⟨front, back, split, rfl⟩
      cases front with
      | nil => cases behind
      | cons d front =>
        rw [← (List.cons.inj split).1] at before
        rw [size_cons] at before
        omega
    · obtain ⟨further, rfl⟩ : ∃ further, place = c.utf8Size + further := ⟨place - c.utf8Size, by omega⟩
      rw [← String.length_utf8EncodeChar, isBoundary_append, hypothesis]
      constructor
      · rintro ⟨front, back, rfl, rfl⟩
        exact ⟨c :: front, back, rfl, by rw [size_cons, String.length_utf8EncodeChar]⟩
      · rintro ⟨front, back, split, total⟩
        cases front with
        | nil =>
          rw [String.length_utf8EncodeChar] at total
          exact absurd total (Nat.ne_of_lt behind)
        | cons d front =>
          obtain ⟨rfl, rfl⟩ := List.cons.inj split
          rw [size_cons, String.length_utf8EncodeChar] at total
          exact ⟨front, back, rfl, by omega⟩

/-- **A text is cut at the least boundary that is not too early.** -/
theorem Cut.isLeast {least cut : Nat} {text kept : List Char} (cutThere : Cut least text cut kept) :
    IsLeast {place | IsBoundary (octets text) place ∧ least ≤ place} cut := by
  obtain ⟨gone, split, counted⟩ := cutThere.split
  refine ⟨⟨?_, cutThere.reaches⟩, ?_⟩
  · exact (isBoundary_octets_iff text cut).mpr ⟨gone, kept, split, counted⟩
  · rintro place ⟨boundary, late⟩
    obtain ⟨front, back, parts, rfl⟩ := (isBoundary_octets_iff text place).mp boundary
    exact cutThere.first front back parts late

end Text.Utf8

/-! ### Cutting the output of a failure -/

namespace ExecFailure

open Text.Utf8

/-- The failure with another text for its captured output, if it has any. -/
def withCaptured (failure : ExecFailure) (text : String) : ExecFailure :=
  match failure with
  | .exited code _ => .exited code text
  | .timedOut afterMs _ => .timedOut afterMs text
  | .spawnFailed reason => .spawnFailed reason
  | .ioFailed reason => .ioFailed reason

theorem truncated_of_captured {failure : ExecFailure} {output : String}
    (captured : failure.captured? = some output) (limit : Nat) :
    failure.truncated limit = failure.withCaptured (outputTail limit output) := by
  cases failure with
  | exited code text | timedOut afterMs text =>
    cases captured
    rfl
  | spawnFailed reason | ioFailed reason => cases captured

/-- A failure of a command that was not started is not changed. -/
theorem truncated_of_uncaptured {failure : ExecFailure} (none : failure.captured? = none)
    (limit : Nat) : failure.truncated limit = failure := by
  cases failure with
  | exited code text | timedOut afterMs text => cases none
  | spawnFailed reason | ioFailed reason => rfl

/-- **Output is cut at a boundary.** Cutting the output of a failure changes nothing else of it, and
nothing at all where there is none. Output that is short enough is kept. Longer output is cut at the
least boundary in its octets that leaves no more than the limit; the octets behind it are a text,
which is kept behind a note of how many are gone, and no more than three are lost for the boundary. -/
theorem truncated_at_boundary (limit : Nat) (failure : ExecFailure) :
    (failure.captured? = none → failure.truncated limit = failure) ∧
    ∀ output, failure.captured? = some output → ∃ text,
      failure.truncated limit = failure.withCaptured text ∧
      ((encode output).length ≤ limit → text = output) ∧
      (limit < (encode output).length → ∃ gone kept : String,
        output = gone ++ kept ∧
        text = s!"[{(encode gone).length} bytes truncated]" ++ kept ∧
        IsLeast {place | IsBoundary (encode output) place ∧ (encode output).length - limit ≤ place}
          (encode gone).length ∧
        encode kept = (encode output).drop (encode gone).length ∧
        (encode kept).length ≤ limit ∧ limit ≤ (encode kept).length + 3) := by
  refine ⟨fun none => truncated_of_uncaptured none limit, fun output captured => ?_⟩
  refine ⟨outputTail limit output, truncated_of_captured captured limit, fun small => ?_,
    fun large => ?_⟩
  · rw [length_encode] at small
    exact outputTail_of_le small
  · rw [length_encode] at large
    obtain ⟨cut, kept, cutThere, written⟩ := outputTail_of_lt large
    obtain ⟨gone, split, counted⟩ := cutThere.split
    have total : size output.toList = cut + size kept := by rw [split, size_append, counted]
    have reaches := cutThere.reaches
    have near := cutThere.near
    have dropped : (encode (String.ofList gone)).length = cut := by
      rw [length_encode, String.toList_ofList, counted]
    have left : (encode (String.ofList kept)).length = size kept := by
      rw [length_encode, String.toList_ofList]
    refine ⟨String.ofList gone, String.ofList kept, ?_, ?_, ?_, ?_, ?_, ?_⟩
    · rw [← String.ofList_append, ← split, String.ofList_toList]
    · rw [dropped, ← ofList_note, ← String.ofList_append, ← written, String.ofList_toList]
    · rw [dropped, length_encode, encode_eq]
      exact cutThere.isLeast
    · rw [dropped, encode_eq, encode_eq, String.toList_ofList, split, octets_append, ← counted,
        ← length_octets, List.drop_left]
    · omega
    · omega

/-- Three characters of two octets each, of which three octets can stay: the cut goes on from the middle
of the second character to the end of it. -/
theorem truncated_at_boundary_inside :
    (ExecFailure.spawnFailed "ENOENT").truncated 0 = .spawnFailed "ENOENT" ∧
      (ExecFailure.exited (some 1) "ééé").truncated 3 = .exited (some 1) "[4 bytes truncated]é" := by
  refine ⟨(truncated_at_boundary 0 (.spawnFailed "ENOENT")).1 rfl, ?_⟩
  obtain ⟨text, changed, -, long⟩ := (truncated_at_boundary 3 (.exited (some 1) "ééé")).2 "ééé" rfl
  have spelled : encode "ééé" = [0xc3, 0xa9, 0xc3, 0xa9, 0xc3, 0xa9] := by
    rw [encode_eq]
    decide
  obtain ⟨gone, kept, -, whole, isLeast, rest, -, -⟩ := long (by rw [spelled]; decide)
  -- behind three octets the next one is inside a character
  have four : IsLeast
      {place | IsBoundary (encode "ééé") place ∧ (encode "ééé").length - 3 ≤ place} 4 := by
    rw [spelled]
    refine ⟨⟨.inr ⟨0xc3, rfl, rfl⟩, by decide⟩, ?_⟩
    rintro place ⟨boundary, late⟩
    by_contra early
    obtain rfl : place = 3 := by
      have three : 3 ≤ place := late
      omega
    rcases boundary with ends | ⟨octet, found, outer⟩
    · cases ends
    · cases found
      cases outer
  have counted : (encode gone).length = 4 := isLeast.unique four
  rw [counted, spelled] at rest
  have last : kept = "é" := by
    have letter : encode "é" = [0xc3, 0xa9] := by
      rw [encode_eq]
      decide
    have same : octets kept.toList = octets "é".toList := by
      rw [← encode_eq, ← encode_eq, rest, letter]
      rfl
    exact String.toList_inj.mp (Except.ok.inj
      ((decode_eq_ok_iff.mpr same).symm.trans (decode_eq_ok_iff.mpr rfl))).symm
  rw [changed, whole, counted, last]
  rfl

end ExecFailure

end Workyard
