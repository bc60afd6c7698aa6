/-
**Decoding undoes encoding.**

A character of more than one octet is a first octet, which says how many follow and holds the highest
bits of the code point, and six more bits in each of the others. Reading folds the bits together again;
the bounds on the second octet keep out what is too long, no scalar value or too large.

* `decodeFrom_partial_iff`: what may follow inside a character;
* `decode_eq_ok_iff`: octets are read as a text exactly if they encode it.
-/

import Workyard.Text.Utf8

namespace Workyard.Text.Utf8

/-! ### Inside a character -/

/-- The octet that holds six bits of a code point. -/
def continuing (bits : Nat) : UInt8 := UInt8.ofNat (bits + 0x80)

/-- A code point without its lowest bits, six of them dropped so many times. -/
def above : Nat → Nat → Nat
  | 0, code => code
  | count + 1, code => above count code / 64

/-- The octets that hold the lowest bits of a code point, six in each. -/
def continuation : Nat → Nat → List UInt8
  | 0, _ => []
  | count + 1, code => continuing (above count code % 64) :: continuation count code

/-- What each step drops. -/
theorem above_steps (code : Nat) :
    above 0 code = code ∧ above 1 code = code / 64 ∧ above 2 code = above 1 code / 64 ∧
      above 3 code = above 2 code / 64 :=
  ⟨rfl, rfl, rfl, rfl⟩

theorem above_two (code : Nat) : above 2 code = code / 4096 := Nat.div_div_eq_div_mul code 64 64

theorem above_three (code : Nat) : above 3 code = code / 262144 := by
  rw [above, above_two, Nat.div_div_eq_div_mul]

theorem toNat_continuing {bits : Nat} (six : bits < 64) : (continuing bits).toNat = 0x80 + bits := by
  rw [continuing, UInt8.toNat_ofNat']
  omega

section Within

variable {count bits taken index : Nat} {low high : UInt8} {read text : List Char}
  {octets : List UInt8}

/-- An octet is taken inside a character if it holds six bits within the bounds. -/
theorem continue_continuing {digit : Nat} (six : digit < 64) (least : low.toNat ≤ 0x80 + digit)
    (greatest : 0x80 + digit ≤ high.toNat) :
    Partial.continue ⟨count + 1, low, high, bits, taken⟩ (continuing digit) =
      if count = 0 then .complete (Char.ofNat (bits * 64 + digit))
      else .unfinished ⟨count, 0x80, 0xbf, bits * 64 + digit, taken + 1⟩ := by
  have within : (decide (low ≤ continuing digit) && decide (continuing digit ≤ high)) = true := by
    simp [UInt8.le_iff_toNat_le, toNat_continuing six, least, greatest]
  have last : count + 1 ≤ 1 ↔ count = 0 := by omega
  simp only [Partial.continue, within, toNat_continuing six, last, Nat.add_sub_cancel_left,
    Nat.add_sub_cancel, if_true]

/-- Any other octet is refused. -/
theorem continue_cases (least : 0x80 ≤ low) (greatest : high ≤ 0xbf) (state : Partial)
    (bounded : state.low = low ∧ state.high = high) (octet : UInt8) :
    state.continue octet = .refused ∨
      ∃ digit < 64, octet = continuing digit ∧ low.toNat ≤ 0x80 + digit ∧
        0x80 + digit ≤ high.toNat := by
  by_cases within : low ≤ octet ∧ octet ≤ high
  · simp only [UInt8.le_iff_toNat_le] at least greatest within
    have bounds : 0x80 ≤ low.toNat ∧ high.toNat ≤ 0xbf := ⟨least, greatest⟩
    have six : octet.toNat - 0x80 < 64 := by omega
    refine .inr ⟨octet.toNat - 0x80, six, ?_, by omega, by omega⟩
    rw [← UInt8.toNat_inj, toNat_continuing six]
    omega
  · left
    simp [Partial.continue, bounded, within]

/-- Reading goes on behind an octet that is taken inside a character. -/
theorem decodeFrom_continuing {digit : Nat} (six : digit < 64) (least : low.toNat ≤ 0x80 + digit)
    (greatest : 0x80 + digit ≤ high.toNat) (rest : List UInt8) :
    decodeFrom index (some ⟨count + 1, low, high, bits, taken⟩) read (continuing digit :: rest) =
      if count = 0 then
        decodeFrom (index + taken + 1) none (Char.ofNat (bits * 64 + digit) :: read) rest
      else decodeFrom index (some ⟨count, 0x80, 0xbf, bits * 64 + digit, taken + 1⟩) read rest := by
  rw [decodeFrom]
  simp only [continue_continuing six least greatest]
  by_cases last : count = 0 <;> simp [last]

/-- The next octet inside a character. -/
theorem decodeFrom_octet_iff (least : 0x80 ≤ low) (greatest : high ≤ 0xbf) :
    decodeFrom index (some ⟨count + 1, low, high, bits, taken⟩) read octets = .ok text ↔
      ∃ digit rest, digit < 64 ∧ octets = continuing digit :: rest ∧ low.toNat ≤ 0x80 + digit ∧
        0x80 + digit ≤ high.toNat ∧
        (if count = 0 then
          decodeFrom (index + taken + 1) none (Char.ofNat (bits * 64 + digit) :: read) rest
        else decodeFrom index (some ⟨count, 0x80, 0xbf, bits * 64 + digit, taken + 1⟩) read rest) =
          .ok text := by
  constructor
  · intro decoded
    cases octets with
    | nil => cases decoded
    | cons octet rest =>
      rcases continue_cases least greatest ⟨count + 1, low, high, bits, taken⟩ ⟨rfl, rfl⟩ octet with
        refused | ⟨digit, six, rfl, lower, upper⟩
      · rw [decodeFrom] at decoded
        simp only [refused] at decoded
        cases decoded
      · rw [decodeFrom_continuing six lower upper] at decoded
        exact ⟨digit, rest, six, rfl, lower, upper, decoded⟩
  · rintro ⟨digit, rest, six, rfl, lower, upper, decoded⟩
    rw [decodeFrom_continuing six lower upper]
    exact decoded

/-- **What may follow inside a character**: octets with the missing bits of a code point, the first of
them within the bounds, and then any text. -/
theorem decodeFrom_partial_iff (least : 0x80 ≤ low) (greatest : high ≤ 0xbf) :
    decodeFrom index (some ⟨count + 1, low, high, bits, taken⟩) read octets = .ok text ↔
      ∃ code rest, octets = continuation (count + 1) code ++ rest ∧ above (count + 1) code = bits ∧
        low.toNat ≤ 0x80 + above count code % 64 ∧ 0x80 + above count code % 64 ≤ high.toNat ∧
        decodeFrom (index + (taken + count + 1)) none (Char.ofNat code :: read) rest = .ok text := by
  induction count generalizing low high bits taken octets with
  | zero =>
    rw [decodeFrom_octet_iff least greatest]
    simp only [if_true, above, continuation, List.cons_append, List.nil_append]
    constructor
    · rintro ⟨digit, rest, six, rfl, lower, upper, decoded⟩
      have lowest : (bits * 64 + digit) % 64 = digit := by omega
      exact ⟨bits * 64 + digit, rest, by rw [lowest], by omega, by rwa [lowest], by rwa [lowest],
        decoded⟩
    · rintro ⟨code, rest, rfl, rfl, lower, upper, decoded⟩
      refine ⟨code % 64, rest, Nat.mod_lt _ (by decide), rfl, lower, upper, ?_⟩
      rw [Nat.div_add_mod']
      exact decoded
  | succ count hypothesis =>
    have place : taken + 1 + count + 1 = taken + (count + 1) + 1 := by omega
    rw [decodeFrom_octet_iff least greatest]
    simp only [Nat.succ_ne_zero, if_false]
    constructor
    · rintro ⟨digit, rest, six, rfl, lower, upper, decoded⟩
      rw [hypothesis (by decide) (by decide), place] at decoded
      obtain ⟨code, rest, rfl, folded, -, -, decoded⟩ := decoded
      have lowest : above (count + 1) code % 64 = digit := by omega
      have first : continuation (count + 1 + 1) code =
          continuing digit :: continuation (count + 1) code := by
        rw [continuation, lowest]
      exact ⟨code, rest, by rw [first]; rfl, by rw [above]; omega, by rwa [lowest],
        by rwa [lowest], decoded⟩
    · rintro ⟨code, rest, rfl, rfl, lower, upper, decoded⟩
      refine ⟨above (count + 1) code % 64, continuation (count + 1) code ++ rest,
        Nat.mod_lt _ (by decide), rfl, lower, upper, ?_⟩
      have six : above count code % 64 < 64 := Nat.mod_lt _ (by decide)
      rw [hypothesis (by decide) (by decide), place]
      refine ⟨code, rest, rfl, (Nat.div_add_mod' _ 64).symm, ?_, ?_, decoded⟩
      · exact Nat.le_add_right 0x80 _
      · have greatest : UInt8.toNat 0xbf = 0xbf := rfl
        omega

end Within

/-! ### Whole characters -/

theorem toNat_ofNat {code : Nat} (valid : code.isValidChar) : (Char.ofNat code).toNat = code := by
  rw [Char.ofNat, dif_pos valid]
  rfl

section Encode

variable {code : Nat}

theorem encode_one (greatest : code ≤ 0x7f) :
    String.utf8EncodeChar (Char.ofNat code) = [UInt8.ofNat code] := by
  have value : (Char.ofNat code).val.toNat = code := toNat_ofNat (.inl (by omega))
  simp only [String.utf8EncodeChar, value, greatest, if_true]

theorem encode_two (least : 0x80 ≤ code) (greatest : code ≤ 0x7ff) :
    String.utf8EncodeChar (Char.ofNat code) =
      UInt8.ofNat (above 1 code + 0xc0) :: continuation 1 code := by
  have value : (Char.ofNat code).val.toNat = code := toNat_ofNat (.inl (by omega))
  have small : ¬ code ≤ 0x7f := by omega
  have lead : code / 64 % 32 = code / 64 := by omega
  simp only [String.utf8EncodeChar, value, small, greatest, lead, if_true, if_false, continuation,
    continuing, above]

theorem encode_three (least : 0x800 ≤ code) (greatest : code ≤ 0xffff) (valid : code.isValidChar) :
    String.utf8EncodeChar (Char.ofNat code) =
      UInt8.ofNat (above 2 code + 0xe0) :: continuation 2 code := by
  have value : (Char.ofNat code).val.toNat = code := toNat_ofNat valid
  have small : ¬ code ≤ 0x7f ∧ ¬ code ≤ 0x7ff := by omega
  have lead : code / 4096 % 16 = code / 4096 := by omega
  simp only [String.utf8EncodeChar, value, small, greatest, lead, if_true, if_false, continuation,
    continuing, above_two]
  rfl

theorem encode_four (least : 0x10000 ≤ code) (greatest : code ≤ 0x10ffff) :
    String.utf8EncodeChar (Char.ofNat code) =
      UInt8.ofNat (above 3 code + 0xf0) :: continuation 3 code := by
  have value : (Char.ofNat code).val.toNat = code := toNat_ofNat (.inr (by omega))
  have small : ¬ code ≤ 0x7f ∧ ¬ code ≤ 0x7ff ∧ ¬ code ≤ 0xffff := by omega
  have lead : code / 262144 % 8 = code / 262144 := by omega
  simp only [String.utf8EncodeChar, value, small, lead, if_false, continuation, continuing, above_two,
    above_three]
  rfl

end Encode

section Start

variable {octet : UInt8} {bits : Nat}

theorem start_two (holds : octet.toNat = bits + 0xc0) (least : 2 ≤ bits) (greatest : bits < 0x20) :
    start octet = .unfinished ⟨1, 0x80, 0xbf, bits, 1⟩ := by
  simp only [start, UInt8.le_iff_toNat_le, UInt8.lt_iff_toNat_lt, holds, UInt8.reduceToNat]
  rw [if_neg (by omega), if_neg (by omega), if_pos (by omega), Nat.add_sub_cancel]

theorem start_three (holds : octet.toNat = bits + 0xe0) (greatest : bits < 0x10) :
    start octet = .unfinished
      ⟨2, if bits = 0 then 0xa0 else 0x80, if bits = 0xd then 0x9f else 0xbf, bits, 1⟩ := by
  have first : bits + 0xe0 = 0xe0 ↔ bits = 0 := by omega
  have surrogates : bits + 0xe0 = 0xed ↔ bits = 0xd := by omega
  simp only [start, UInt8.le_iff_toNat_le, UInt8.lt_iff_toNat_lt, ← UInt8.toNat_inj, holds,
    UInt8.reduceToNat, first, surrogates]
  rw [if_neg (by omega), if_neg (by omega), if_neg (by omega), if_pos (by omega), Nat.add_sub_cancel]

theorem start_four (holds : octet.toNat = bits + 0xf0) (greatest : bits < 5) :
    start octet = .unfinished
      ⟨3, if bits = 0 then 0x90 else 0x80, if bits = 4 then 0x8f else 0xbf, bits, 1⟩ := by
  have first : bits + 0xf0 = 0xf0 ↔ bits = 0 := by omega
  have last : bits + 0xf0 = 0xf4 ↔ bits = 4 := by omega
  simp only [start, UInt8.le_iff_toNat_le, UInt8.lt_iff_toNat_lt, ← UInt8.toNat_inj, holds,
    UInt8.reduceToNat, first, last]
  rw [if_neg (by omega), if_neg (by omega), if_neg (by omega), if_neg (by omega),
    if_pos (by omega), Nat.add_sub_cancel]

end Start

/-- What a first octet says of the octets behind it: none for a character of one octet, else how many,
and bounds within which every code point is a scalar value that takes so many. -/
theorem start_cases (octet : UInt8) :
    start octet = .refused ∨
      (octet.toNat ≤ 0x7f ∧ start octet = .complete (Char.ofNat octet.toNat)) ∨
      ∃ count low high bits, start octet = .unfinished ⟨count + 1, low, high, bits, 1⟩ ∧
        0x80 ≤ low ∧ high ≤ 0xbf ∧
        ∀ code, above (count + 1) code = bits → low.toNat ≤ 0x80 + above count code % 64 →
          0x80 + above count code % 64 ≤ high.toNat →
            String.utf8EncodeChar (Char.ofNat code) = octet :: continuation (count + 1) code := by
  have spelled {lead : Nat} (same : lead = octet.toNat) : UInt8.ofNat lead = octet := by
    rw [same, UInt8.ofNat_toNat]
  by_cases one : octet.toNat ≤ 0x7f
  · exact .inr (.inl ⟨one, by simp [start, UInt8.le_iff_toNat_le, one]⟩)
  by_cases two : 0xc2 ≤ octet.toNat ∧ octet.toNat < 0xe0
  · refine .inr (.inr ⟨0, _, _, _, start_two (show octet.toNat = octet.toNat - 0xc0 + 0xc0 by omega)
      (by omega) (by omega), by decide, by decide, fun code highest _ _ => ?_⟩)
    obtain ⟨-, first, -⟩ := above_steps code
    rw [Nat.zero_add] at highest
    rw [encode_two (by omega) (by omega), spelled (by omega)]
  by_cases three : 0xe0 ≤ octet.toNat ∧ octet.toNat < 0xf0
  · refine .inr (.inr ⟨1, _, _, _, start_three (show octet.toNat = octet.toNat - 0xe0 + 0xe0 by omega)
      (by omega), ?_, ?_, fun code highest lower upper => ?_⟩)
    · split <;> decide
    · split <;> decide
    · obtain ⟨-, first, second, third⟩ := above_steps code
      simp only [apply_ite UInt8.toNat, UInt8.reduceToNat, Nat.reduceAdd] at highest lower upper
      have bounds : 0x800 ≤ code ∧ code ≤ 0xffff ∧ code.isValidChar := by
        unfold Nat.isValidChar
        split at lower <;> split at upper <;> omega
      rw [encode_three bounds.1 bounds.2.1 bounds.2.2, spelled (by omega)]
  by_cases four : 0xf0 ≤ octet.toNat ∧ octet.toNat < 0xf5
  · refine .inr (.inr ⟨2, _, _, _, start_four (show octet.toNat = octet.toNat - 0xf0 + 0xf0 by omega)
      (by omega), ?_, ?_, fun code highest lower upper => ?_⟩)
    · split <;> decide
    · split <;> decide
    · obtain ⟨-, first, second, third⟩ := above_steps code
      simp only [apply_ite UInt8.toNat, UInt8.reduceToNat, Nat.reduceAdd] at highest lower upper
      have bounds : 0x10000 ≤ code ∧ code ≤ 0x10ffff := by
        split at lower <;> split at upper <;> omega
      rw [encode_four bounds.1 bounds.2, spelled (by omega)]
  · left
    simp only [start, UInt8.le_iff_toNat_le, UInt8.lt_iff_toNat_lt, UInt8.reduceToNat]
    rw [if_neg one]
    split
    · rfl
    · rw [if_neg (by omega), if_neg (by omega), if_neg (by omega)]

/-- A character has one octet, or a first octet that says what follows. -/
theorem encode_starts (c : Char) :
    (∃ octet, String.utf8EncodeChar c = [octet] ∧ start octet = .complete c) ∨
      ∃ octet count low high, String.utf8EncodeChar c = octet :: continuation (count + 1) c.toNat ∧
        start octet = .unfinished ⟨count + 1, low, high, above (count + 1) c.toNat, 1⟩ ∧
        0x80 ≤ low ∧ high ≤ 0xbf ∧ low.toNat ≤ 0x80 + above count c.toNat % 64 ∧
        0x80 + above count c.toNat % 64 ≤ high.toNat := by
  have valid : c.toNat.isValidChar := c.valid
  have same : Char.ofNat c.toNat = c := Char.ofNat_toNat c
  have held {lead : Nat} (small : lead < 0x100) : (UInt8.ofNat lead).toNat = lead := by
    rw [UInt8.toNat_ofNat']
    omega
  generalize c.toNat = code at valid same
  rw [← same]
  unfold Nat.isValidChar at valid
  obtain ⟨zero, first, second, third⟩ := above_steps code
  by_cases one : code ≤ 0x7f
  · refine .inl ⟨UInt8.ofNat code, encode_one one, ?_⟩
    simp [start, UInt8.le_iff_toNat_le, held (show code < 0x100 by omega), one]
  right
  by_cases two : code ≤ 0x7ff
  · refine ⟨_, 0, _, _, encode_two (by omega) two,
      start_two (held (by omega)) (show 2 ≤ above 1 code by omega)
        (show above 1 code < 0x20 by omega), by decide, by decide, ?_, ?_⟩
    all_goals simp only [UInt8.reduceToNat]; omega
  by_cases three : code ≤ 0xffff
  · refine ⟨_, 1, _, _, encode_three (by omega) three valid,
      start_three (held (by omega)) (show above 2 code < 0x10 by omega), ?_, ?_, ?_, ?_⟩
    · split <;> decide
    · split <;> decide
    all_goals
      simp only [apply_ite UInt8.toNat, UInt8.reduceToNat, Nat.reduceAdd]
      split <;> omega
  · refine ⟨_, 2, _, _, encode_four (by omega) (by omega),
      start_four (held (by omega)) (show above 3 code < 5 by omega), ?_, ?_, ?_, ?_⟩
    · split <;> decide
    · split <;> decide
    all_goals
      simp only [apply_ite UInt8.toNat, UInt8.reduceToNat, Nat.reduceAdd]
      split <;> omega

/-! ### Texts -/

theorem length_continuation (count code : Nat) : (continuation count code).length = count := by
  induction count with
  | zero => rfl
  | succ count hypothesis => rw [continuation, List.length_cons, hypothesis]

/-- **The next character**: octets are read as a text if they start with a character and the octets
behind it are read as the rest. -/
theorem decodeFrom_cons_iff {index : Nat} {read text : List Char} {octets : List UInt8}
    (more : octets ≠ []) :
    decodeFrom index none read octets = .ok text ↔
      ∃ c rest, octets = String.utf8EncodeChar c ++ rest ∧
        decodeFrom (index + c.utf8Size) none (c :: read) rest = .ok text := by
  constructor
  · intro decoded
    cases octets with
    | nil => exact absurd rfl more
    | cons octet octets =>
      rw [decodeFrom] at decoded
      rcases start_cases octet with refused | ⟨one, whole⟩ |
        ⟨count, low, high, bits, begun, least, greatest, spelled⟩
      · simp only [refused] at decoded
        cases decoded
      · simp only [whole] at decoded
        have written := encode_one one
        rw [UInt8.ofNat_toNat] at written
        refine ⟨Char.ofNat octet.toNat, octets, by rw [written]; rfl, ?_⟩
        rw [← String.length_utf8EncodeChar, written]
        exact decoded
      · simp only [begun] at decoded
        obtain ⟨code, rest, rfl, highest, lower, upper, decoded⟩ :=
          (decodeFrom_partial_iff least greatest).mp decoded
        have written := spelled code highest lower upper
        refine ⟨Char.ofNat code, rest, by rw [written]; rfl, ?_⟩
        rw [← String.length_utf8EncodeChar, written, List.length_cons, length_continuation,
          Nat.add_comm (count + 1) 1, ← Nat.add_assoc 1]
        exact decoded
  · rintro ⟨c, rest, rfl, decoded⟩
    rw [← String.length_utf8EncodeChar] at decoded
    rcases encode_starts c with ⟨octet, written, whole⟩ |
      ⟨octet, count, low, high, written, begun, least, greatest, lower, upper⟩
    · rw [written] at decoded ⊢
      rw [List.cons_append, decodeFrom]
      simp only [whole]
      exact decoded
    · rw [written, List.length_cons, length_continuation, Nat.add_comm (count + 1) 1,
        ← Nat.add_assoc 1] at decoded
      rw [written, List.cons_append, decodeFrom]
      simp only [begun]
      rw [decodeFrom_partial_iff least greatest]
      refine ⟨c.toNat, rest, rfl, rfl, lower, upper, ?_⟩
      rw [Char.ofNat_toNat]
      exact decoded

/-- The octets of a text. -/
def octets (text : List Char) : List UInt8 := text.flatMap String.utf8EncodeChar

@[simp] theorem octets_nil : octets [] = [] := rfl

theorem octets_cons (c : Char) (text : List Char) :
    octets (c :: text) = String.utf8EncodeChar c ++ octets text := rfl

@[simp] theorem octets_append (first second : List Char) :
    octets (first ++ second) = octets first ++ octets second :=
  List.flatMap_append

@[simp] theorem octets_eq_nil_iff {text : List Char} : octets text = [] ↔ text = [] := by
  cases text <;> simp [octets_cons]

theorem decodeFrom_eq_ok_iff {index : Nat} {read text : List Char} {spelled : List UInt8} :
    decodeFrom index none read spelled = .ok text ↔
      ∃ tail, text = read.reverse ++ tail ∧ spelled = octets tail := by
  induction length : spelled.length using Nat.strongRecOn generalizing index read spelled with
  | ind length hypothesis =>
    subst length
    by_cases more : spelled = []
    · subst more
      constructor
      · intro decoded
        exact ⟨[], by rw [List.append_nil]; exact (Except.ok.inj decoded).symm, rfl⟩
      · rintro ⟨tail, rfl, nothing⟩
        obtain rfl : tail = [] := octets_eq_nil_iff.mp nothing.symm
        rw [List.append_nil]
        rfl
    · rw [decodeFrom_cons_iff more]
      constructor
      · rintro ⟨c, rest, rfl, decoded⟩
        have shorter : rest.length < (String.utf8EncodeChar c ++ rest).length := by
          have size := c.utf8Size_pos
          rw [List.length_append, String.length_utf8EncodeChar]
          omega
        obtain ⟨tail, rfl, rfl⟩ := (hypothesis _ shorter rfl).mp decoded
        exact ⟨c :: tail, by simp, rfl⟩
      · rintro ⟨tail, rfl, rfl⟩
        cases tail with
        | nil => exact absurd rfl more
        | cons c tail =>
          have shorter : (octets tail).length < (octets (c :: tail)).length := by
            have size := c.utf8Size_pos
            rw [octets_cons, List.length_append, String.length_utf8EncodeChar]
            omega
          exact ⟨c, octets tail, rfl, (hypothesis _ shorter rfl).mpr ⟨tail, by simp, rfl⟩⟩

/-- **Decoding undoes encoding, and reads nothing else.** -/
theorem decode_eq_ok_iff {text : List Char} {spelled : List UInt8} :
    decode spelled = .ok text ↔ spelled = octets text := by
  rw [decode, decodeFrom_eq_ok_iff]
  constructor
  · rintro ⟨tail, rfl, rfl⟩
    rfl
  · intro same
    exact ⟨text, rfl, same⟩

/-- An octet below 128 is a character by itself. -/
theorem utf8EncodeChar_of_mem {c : Char} {octet : UInt8} (small : octet.toNat < 0x80)
    (member : octet ∈ String.utf8EncodeChar c) : c.toNat = octet.toNat := by
  have value : c.val.toNat = c.toNat := rfl
  have held (lead : Nat) : (UInt8.ofNat lead).toNat = lead % 256 := UInt8.toNat_ofNat'
  simp only [String.utf8EncodeChar, value] at member
  -- every octet of a longer character is 128 or more
  repeat' split at member
  all_goals simp only [List.mem_cons, List.not_mem_nil, or_false] at member
  · rw [member, held]
    omega
  · rcases member with rfl | rfl <;> rw [held] at small <;> omega
  · rcases member with rfl | rfl | rfl <;> rw [held] at small <;> omega
  · rcases member with rfl | rfl | rfl | rfl <;> rw [held] at small <;> omega

theorem mem_octets_iff {text : List Char} (c : Char) (ascii : c.toNat < 0x80) :
    UInt8.ofNat c.toNat ∈ octets text ↔ c ∈ text := by
  have held : (UInt8.ofNat c.toNat).toNat = c.toNat := by rw [UInt8.toNat_ofNat']; omega
  constructor
  · intro member
    obtain ⟨other, inside, member⟩ := List.mem_flatMap.mp member
    have same := utf8EncodeChar_of_mem (by rwa [held]) member
    rw [held] at same
    rwa [Char.toNat_inj.mp same] at inside
  · intro inside
    refine List.mem_flatMap.mpr ⟨c, inside, ?_⟩
    have written : String.utf8EncodeChar (Char.ofNat c.toNat) = [UInt8.ofNat c.toNat] :=
      encode_one (by omega)
    rw [Char.ofNat_toNat] at written
    rw [written]
    exact List.mem_singleton_self _

theorem toList_loop (bytes : ByteArray) (index : Nat) (read : List UInt8) :
    ByteArray.toList.loop bytes index read = read.reverse ++ bytes.data.toList.drop index := by
  fun_induction ByteArray.toList.loop bytes index read with
  | case1 index read more hypothesis =>
    have inside : index < bytes.data.toList.length := more
    have octet : bytes.get! index = bytes.data.toList[index] := by
      rw [ByteArray.get!, getElem!_pos bytes.data index more, Array.getElem_toList]
    rw [hypothesis, List.drop_eq_getElem_cons inside, octet]
    simp
  | case2 index read done =>
    have nothing : bytes.data.toList.drop index = [] := List.drop_eq_nil_of_le (Nat.le_of_not_lt done)
    rw [nothing, List.append_nil]

/-- Encoding gives these octets. -/
theorem encode_eq (text : String) : encode text = octets text.toList := by
  rw [encode, ByteArray.toList, toList_loop, List.reverse_nil, List.nil_append, List.drop_zero,
    String.toUTF8, ← String.utf8Encode_toList, List.utf8Encode, List.toList_data_toByteArray]
  rfl

end Workyard.Text.Utf8
