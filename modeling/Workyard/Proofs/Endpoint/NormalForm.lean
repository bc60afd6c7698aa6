/-
**When the full form of an address is its own.**

The full form of an address is a scheme, a mark, a host, a colon and a port. Taking the full form again
finds the same scheme and the same last colon, and leaves the host as it is; what it can still change is
the end of the port, since blanks are dropped from an address before slashes are, and so stay behind where
slashes stood after them. A port that was filled in ends in a digit.

* `url_shape`: what every full form looks like;
* `url_assembled`: the full form of what looks so;
* `url_url_iff`: when a second full form is the same as the first.
-/

import Mathlib.Data.List.DropRight
import Mathlib.Data.List.Infix
import Workyard.Endpoint

namespace Workyard

/-! ### Ends of a text -/

namespace Text

variable {p : Char → Bool} {c : Char}

/-- Whether the last character is of a kind. -/
def EndsIn (p : Char → Bool) (text : List Char) : Prop := ∃ front c, text = front ++ [c] ∧ p c = true

/-- Before a character of another kind nothing ends a text. -/
theorem endsIn_append_cons (other : p c = false) (front back : List Char) :
    EndsIn p (front ++ c :: back) ↔ EndsIn p back := by
  constructor
  · rintro ⟨before, d, split, kind⟩
    rcases List.eq_nil_or_concat back with rfl | ⟨inner, last, rfl⟩
    · obtain ⟨-, same⟩ := List.append_inj' split rfl
      rw [(List.cons.inj same).1, kind] at other
      cases other
    · rw [List.concat_eq_append, ← List.cons_append, ← List.append_assoc] at split
      obtain ⟨-, same⟩ := List.append_inj' split rfl
      exact ⟨inner, last, List.concat_eq_append, (List.cons.inj same).1 ▸ kind⟩
  · rintro ⟨before, d, rfl, kind⟩
    exact ⟨front ++ c :: before, d, by rw [List.append_assoc]; rfl, kind⟩

theorem rdropWhile_eq_self_iff_endsIn (text : List Char) :
    text.rdropWhile p = text ↔ ¬ EndsIn p text := by
  rw [List.rdropWhile_eq_self_iff]
  constructor
  · rintro kept ⟨front, c, rfl, kind⟩
    have last := kept (List.append_ne_nil_of_right_ne_nil front (List.cons_ne_nil c []))
    rw [List.getLast_append_singleton] at last
    exact last kind
  · intro free nonempty kind
    exact free ⟨text.dropLast, text.getLast nonempty,
      (List.dropLast_append_getLast nonempty).symm, kind⟩

/-- Dropping from the end does not go beyond a character of another kind. -/
theorem rdropWhile_append_cons (other : p c = false) (front back : List Char) :
    (front ++ c :: back).rdropWhile p = front ++ c :: back.rdropWhile p := by
  induction back using List.reverseRecOn with
  | nil =>
    rw [List.rdropWhile_concat_neg p front c (by rw [other]; exact Bool.false_ne_true)]
    rfl
  | append_singleton back d hypothesis =>
    rw [← List.cons_append, ← List.append_assoc, List.rdropWhile_concat, List.rdropWhile_concat]
    by_cases kind : p d = true
    · rw [if_pos kind, if_pos kind, hypothesis]
    · rw [if_neg kind, if_neg kind, List.append_assoc]
      rfl

theorem trimStart_cons (dark : isBlank c = false) (rest : List Char) :
    trimStart (c :: rest) = c :: rest :=
  List.dropWhile_cons_of_neg (by rw [dark]; exact Bool.false_ne_true)

/-- What is left of a trimmed text starts with no blank. -/
theorem dark_of_trimStart {text rest : List Char} (starts : trimStart text = c :: rest) :
    isBlank c = false := by
  have head := List.head?_dropWhile_not isBlank text
  rw [trimStart] at starts
  rw [starts] at head
  exact head

theorem dark_of_isDigit (digit : c.isDigit = true) : isBlank c = false := by
  simp only [Char.isDigit, Bool.and_eq_true, decide_eq_true_eq] at digit
  have bounds : 48 ≤ c.toNat ∧ c.toNat ≤ 57 := ⟨digit.1, digit.2⟩
  simp only [isBlank, blankRanges, List.any_cons, List.any_nil, Bool.or_eq_false_iff,
    Bool.and_eq_false_iff, decide_eq_false_iff_not, and_true]
  omega

/-! ### Cutting a text at a mark -/

/-- The parts of a text are around the mark. -/
theorem eq_of_splitFirst? {mark text before behind : List Char}
    (split : splitFirst? mark text = some (before, behind)) : text = before ++ mark ++ behind := by
  induction text generalizing before with
  | nil =>
    rw [splitFirst?] at split
    split at split
    · next empty =>
      cases split
      rw [empty]
      rfl
    · cases split
  | cons c rest hypothesis =>
    rw [splitFirst?] at split
    split at split
    · next here =>
      cases split
      obtain ⟨back, parts⟩ := List.isPrefixOf_iff_prefix.mp here
      rw [← parts, List.drop_left]
      rfl
    · obtain ⟨⟨first, second⟩, found, same⟩ := Option.map_eq_some_iff.mp split
      cases same
      rw [hypothesis found]
      rfl

/-- Where a text is cut does not depend on what is behind the mark. -/
theorem splitFirst?_replace {mark text before behind : List Char}
    (split : splitFirst? mark text = some (before, behind)) (other : List Char) :
    splitFirst? mark (before ++ mark ++ other) = some (before, other) := by
  have at_mark : splitFirst? mark (mark ++ other) = some ([], other) := by
    rcases marked : mark ++ other with _ | ⟨c, rest⟩
    · obtain ⟨rfl, rfl⟩ := List.append_eq_nil_iff.mp marked
      rfl
    · have here : mark.isPrefixOf (c :: rest) = true :=
        List.isPrefixOf_iff_prefix.mpr ⟨other, marked⟩
      rw [splitFirst?, if_pos here, ← marked, List.drop_left]
  induction text generalizing before with
  | nil =>
    rw [splitFirst?] at split
    split at split
    · cases split
      exact at_mark
    · cases split
  | cons c rest hypothesis =>
    rw [splitFirst?] at split
    split at split
    · cases split
      exact at_mark
    · next absent =>
      obtain ⟨⟨first, second⟩, found, same⟩ := Option.map_eq_some_iff.mp split
      cases same
      -- the mark is not earlier either, as it would end within what is kept
      have still : ¬ mark.isPrefixOf (c :: (first ++ mark ++ other)) = true := by
        have long : mark.length ≤ (c :: (first ++ mark)).length := by
          rw [List.length_cons, List.length_append]
          omega
        rw [List.isPrefixOf_iff_prefix, ← List.cons_append, List.isPrefix_append_of_length long]
        rw [eq_of_splitFirst? found, List.isPrefixOf_iff_prefix, ← List.cons_append,
          List.isPrefix_append_of_length long] at absent
        exact absent
      rw [List.cons_append, List.cons_append, splitFirst?, if_neg still, hypothesis found]
      rfl

end Text

namespace Endpoint

open Text

/-! ### Parts of an address -/

/-- The scheme of an address and what is behind its mark. -/
def parts (address : List Char) : List Char × List Char :=
  (splitFirst? schemeMark (bare address)).getD (defaultScheme, bare address)

theorem url_eq (port : Nat) (address : List Char) :
    url port address = (parts address).1 ++ schemeMark ++ (parts address).2 ++
      if hasPort (parts address).2 then [] else ':' :: (toString port).toList :=
  rfl

/-- What is behind the last colon is a port unless a bracket is closed there. -/
theorem hasPort_iff (rest : List Char) :
    hasPort rest = true ↔ ∃ before behind, rest = before ++ ':' :: behind ∧ ':' ∉ behind ∧
      ']' ∉ behind := by
  unfold hasPort
  constructor
  · intro has
    split at has
    · next before behind found =>
      obtain ⟨parts, last⟩ := (splitLast?_eq_some_iff ':' rest before behind).mp found
      refine ⟨before, behind, parts, last, fun closed => ?_⟩
      rw [List.contains_iff_mem.mpr closed] at has
      cases has
    · cases has
  · rintro ⟨before, behind, parts, last, opened⟩
    rw [(splitLast?_eq_some_iff ':' rest before behind).mpr ⟨parts, last⟩]
    simp [opened]

/-- A text that is found as the scheme again, whatever is behind its mark. -/
structure IsScheme (scheme : List Char) : Prop where
  found : ∀ rest, splitFirst? schemeMark (scheme ++ schemeMark ++ rest) = some (scheme, rest)
  starts : ∀ rest, trimStart (scheme ++ schemeMark ++ rest) = scheme ++ schemeMark ++ rest

theorem isScheme_default : IsScheme defaultScheme :=
  ⟨fun _ => rfl, fun rest => trimStart_cons (by decide) ('t' :: 't' :: 'p' :: (schemeMark ++ rest))⟩

theorem starts_of_dark {scheme : List Char} (dark : ∀ c ∈ scheme.head?, isBlank c = false)
    (rest : List Char) :
    trimStart (scheme ++ schemeMark ++ rest) = scheme ++ schemeMark ++ rest := by
  cases scheme with
  | nil => exact trimStart_cons (by decide) ('/' :: '/' :: rest)
  | cons c scheme => exact trimStart_cons (dark c rfl) (scheme ++ schemeMark ++ rest)

/-- The end of an address without blanks and then without slashes. -/
def stripped (text : List Char) : List Char := (text.rdropWhile isBlank).rdropWhile (· = '/')

theorem bare_eq (address : List Char) : bare address = stripped (trimStart address) := rfl

theorem stripped_append_cons {c : Char} (dark : isBlank c = false) (other : c ≠ '/')
    (front back : List Char) : stripped (front ++ c :: back) = front ++ c :: stripped back := by
  rw [stripped, rdropWhile_append_cons dark, rdropWhile_append_cons (decide_eq_false other)]
  rfl

theorem front_of_stripped (text : List Char) : stripped text <+: text :=
  (List.rdropWhile_prefix _ _).trans (List.rdropWhile_prefix _ _)

theorem stripped_eq_self_iff (text : List Char) :
    stripped text = text ↔ ¬ EndsIn isBlank text ∧ ¬ EndsIn (· = '/') text := by
  rw [← rdropWhile_eq_self_iff_endsIn, ← rdropWhile_eq_self_iff_endsIn, stripped]
  constructor
  · intro same
    have blanks : text.rdropWhile isBlank = text := by
      refine (List.rdropWhile_prefix isBlank text).eq_of_length (Nat.le_antisymm ?_ ?_)
      · exact (List.rdropWhile_prefix isBlank text).length_le
      · have shorter := (List.rdropWhile_prefix (fun c => decide (c = '/'))
          (text.rdropWhile isBlank)).length_le
        rwa [same] at shorter
    rw [blanks] at same
    exact ⟨blanks, same⟩
  · rintro ⟨blanks, slashes⟩
    rw [blanks, slashes]

/-- An address without what is around it does not end in a slash. -/
theorem not_endsIn_bare (address : List Char) : ¬ EndsIn (· = '/') (bare address) :=
  (rdropWhile_eq_self_iff_endsIn _).mp (List.rdropWhile_idempotent _ _)

/-- The scheme of an address is found again. -/
theorem parts_isScheme (address : List Char) : IsScheme (parts address).1 := by
  unfold parts
  cases found : splitFirst? schemeMark (bare address) with
  | none => exact isScheme_default
  | some halves =>
    obtain ⟨scheme, rest⟩ := halves
    refine ⟨splitFirst?_replace found, starts_of_dark fun c first => ?_⟩
    have whole := eq_of_splitFirst? found
    obtain ⟨back, longer⟩ := front_of_stripped (trimStart address)
    rw [← bare_eq, whole] at longer
    obtain ⟨rest, rfl⟩ := List.head?_eq_some_iff.mp first
    exact dark_of_trimStart longer.symm

/-- What is behind the scheme of an address ends it. -/
theorem parts_suffix (address : List Char) : (parts address).2 <:+ bare address := by
  unfold parts
  cases found : splitFirst? schemeMark (bare address) with
  | none => exact List.suffix_refl _
  | some halves => exact ⟨_, (eq_of_splitFirst? found).symm⟩

/-! ### Full forms -/

/-- The digits of a filled in port. -/
theorem isDigit_of_mem_toString {port : Nat} {c : Char} (member : c ∈ (toString port).toList) :
    c.isDigit = true := by
  rw [Nat.toString_eq_repr, Nat.toList_repr] at member
  exact Nat.isDigit_of_mem_toDigits (by decide) (by decide) member

/-- It ends in nothing that is no digit. -/
theorem not_endsIn_toString {p : Char → Bool} (other : ∀ c, c.isDigit = true → p c = false)
    (port : Nat) : ¬ EndsIn p (toString port).toList := by
  rintro ⟨front, c, split, holds⟩
  have digit : c.isDigit = true := isDigit_of_mem_toString (by rw [split]; simp)
  rw [other c digit] at holds
  cases holds

/-- **The full form of what has all its parts**: only the end of the port can change. -/
theorem url_assembled {scheme before behind : List Char} (isScheme : IsScheme scheme)
    (last : ':' ∉ behind) (opened : ']' ∉ behind) (port : Nat) :
    url port (scheme ++ schemeMark ++ (before ++ ':' :: behind)) =
      scheme ++ schemeMark ++ (before ++ ':' :: stripped behind) := by
  have left : bare (scheme ++ schemeMark ++ (before ++ ':' :: behind)) =
      scheme ++ schemeMark ++ (before ++ ':' :: stripped behind) := by
    rw [bare_eq, isScheme.starts, ← List.append_assoc,
      stripped_append_cons (by decide) (by decide), List.append_assoc]
  have cut : parts (scheme ++ schemeMark ++ (before ++ ':' :: behind)) =
      (scheme, before ++ ':' :: stripped behind) := by
    rw [parts, left, isScheme.found]
    rfl
  have within := (front_of_stripped behind).subset
  have has : hasPort (before ++ ':' :: stripped behind) = true :=
    (hasPort_iff _).mpr ⟨before, stripped behind, rfl, fun colon => last (within colon),
      fun bracket => opened (within bracket)⟩
  rw [url_eq, cut]
  dsimp only
  rw [has, if_pos rfl, List.append_nil]

/-- **What every full form looks like**: behind a scheme, its mark, a host and a colon there is the port
of the address, or the one that was filled in. -/
theorem url_shape (port : Nat) (address : List Char) :
    ∃ scheme before behind, IsScheme scheme ∧ ':' ∉ behind ∧ ']' ∉ behind ∧
      url port address = scheme ++ schemeMark ++ (before ++ ':' :: behind) ∧
      if hasPort (parts address).2 then ':' :: behind <:+ bare address
      else behind = (toString port).toList := by
  have isScheme := parts_isScheme address
  by_cases has : hasPort (parts address).2 = true
  · obtain ⟨before, behind, split, last, opened⟩ := (hasPort_iff _).mp has
    refine ⟨_, before, behind, isScheme, last, opened, ?_, ?_⟩
    · rw [url_eq, if_pos has, List.append_nil, ← split]
    · rw [if_pos has]
      refine List.IsSuffix.trans ⟨before, ?_⟩ (parts_suffix address)
      exact split.symm
  · refine ⟨_, (parts address).2, (toString port).toList, isScheme, ?_, ?_, ?_, ?_⟩
    · intro colon
      cases isDigit_of_mem_toString colon
    · intro bracket
      cases isDigit_of_mem_toString bracket
    · rw [url_eq, if_neg has, List.append_assoc]
    · rw [if_neg has]

/-- A filled in port ends in a digit. -/
theorem stripped_toString (port : Nat) : stripped (toString port).toList = (toString port).toList := by
  rw [stripped_eq_self_iff]
  refine ⟨not_endsIn_toString (fun _ => dark_of_isDigit) port,
    not_endsIn_toString (fun c digit => ?_) port⟩
  refine decide_eq_false ?_
  rintro rfl
  cases digit

/-- **When a second full form is the same as the first**: always, unless the address brings its port and,
without the blanks around it and the slashes behind it, still ends in a blank. -/
theorem url_url_iff (port later : Nat) (address : List Char) :
    url later (url port address) = url port address ↔
      ¬ (hasPort (parts address).2 = true ∧ EndsIn isBlank (bare address)) := by
  obtain ⟨scheme, before, behind, isScheme, last, opened, shape, tail⟩ := url_shape port address
  have again : url later (url port address) = url port address ↔ stripped behind = behind := by
    rw [shape, url_assembled isScheme last opened, List.append_cancel_left_eq,
      List.append_cancel_left_eq, List.cons.injEq]
    exact and_iff_right rfl
  rw [again]
  by_cases has : hasPort (parts address).2 = true
  · rw [if_pos has] at tail
    obtain ⟨front, ends⟩ := tail
    have slash := not_endsIn_bare address
    rw [← ends, endsIn_append_cons (by decide)] at slash
    rw [← ends, endsIn_append_cons (by decide), stripped_eq_self_iff]
    exact ⟨fun same both => same.1 both.2, fun free => ⟨fun blank => free ⟨has, blank⟩, slash⟩⟩
  · rw [if_neg has] at tail
    rw [tail]
    exact ⟨fun _ both => has both.1, fun _ => stripped_toString port⟩

/-- **A full form is not always its own**: a blank is left behind where a slash stood after it. -/
theorem url_not_normal :
    ¬ ∀ (address : List Char) (port later : Nat), url later (url port address) = url port address := by
  intro normal
  have twice := normal "http://h:1 /".toList workerPort workerPort
  have once : url workerPort "http://h:1 /".toList = "http://h:1 ".toList := by decide
  have again : url workerPort "http://h:1 ".toList = "http://h:1".toList := by decide
  rw [once, again] at twice
  cases twice

end Endpoint

end Workyard
