/-
**Listen addresses are read back.**

A listen address is refused exactly if it has a colon, no bracket is closed behind the last one, and what
is behind that is no port. What is found in any other can be written as a host, a colon and a port, which
is read in the same way: a bare host has the port of a manager then, and a port that stood alone all
addresses as its host. Only where nothing but blanks was given no host is found, and what is written then
is read as a port that stands alone.

* `Listen.parse_eq_error_iff`: which listen addresses are refused;
* `Listen.parse_address`: what is read in the written form of a host and port;
* `Listen.reads_back_iff`: refusals, and when what is found has a host and is read back.
-/

import Workyard.Proofs.Endpoint.NormalForm
import Workyard.Proofs.Text.Numeral

namespace Workyard

namespace Listen

open Text Endpoint

/-! ### The parts of a listen address -/

/-- Without a port the whole text is the host. -/
theorem parse_of_bare {listen : List Char} (bare : hasPort (trim listen) = false) :
    parse listen = .ok ⟨trim listen, managerPort⟩ := by
  unfold hasPort at bare
  unfold parse
  cases found : splitLast? ':' (trim listen) with
  | none => simp only [found]
  | some halves =>
    obtain ⟨host, port⟩ := halves
    rw [found] at bare
    simp only [Bool.not_eq_false'] at bare
    simp only [found, bare, if_true]

/-- With a port, that decides whether the text is refused; all addresses are the host if none is named. -/
theorem parse_of_port {listen host port : List Char} (split : trim listen = host ++ ':' :: port)
    (last : ':' ∉ port) (opened : ']' ∉ port) :
    parse listen = match parseUnsigned maxU16 port with
      | .error fault => .error ⟨trim listen, fault⟩
      | .ok port => .ok ⟨if host = [] then anyHost else host, port⟩ := by
  have found := (splitLast?_eq_some_iff ':' (trim listen) host port).mpr ⟨split, last⟩
  have unclosed : port.contains ']' = false := by simpa using opened
  unfold parse
  cases read : parseUnsigned maxU16 port <;>
    simp only [found, unclosed, read, Bool.false_eq_true, if_false]

/-- **A listen address is refused exactly if it brings what is no port**: it has a colon, no bracket is
closed behind the last one, and what is behind that is a numeral of no number of sixteen bits. -/
theorem parse_eq_error_iff (listen : List Char) :
    (∃ fault, parse listen = .error fault) ↔
      ∃ host port, trim listen = host ++ ':' :: port ∧ ':' ∉ port ∧ ']' ∉ port ∧
        ∀ value, IsNumeral port value → maxU16 < value := by
  constructor
  · rintro ⟨fault, refused⟩
    cases has : hasPort (trim listen) with
    | false =>
      rw [parse_of_bare has] at refused
      cases refused
    | true =>
      obtain ⟨host, port, split, last, opened⟩ := (hasPort_iff _).mp has
      rw [parse_of_port split last opened] at refused
      refine ⟨host, port, split, last, opened, parseUnsigned_eq_error_iff.mp ?_⟩
      cases read : parseUnsigned maxU16 port with
      | error cause => exact ⟨cause, rfl⟩
      | ok value =>
        rw [read] at refused
        cases refused
  · rintro ⟨host, port, split, last, opened, large⟩
    obtain ⟨cause, read⟩ := parseUnsigned_eq_error_iff.mpr large
    exact ⟨⟨trim listen, cause⟩, by rw [parse_of_port split last opened, read]⟩

/-- What is found in a listen address. -/
inductive Finds (listen : List Char) : Listen → Prop where
  /-- A host without a port. -/
  | bare (portless : hasPort (trim listen) = false) : Finds listen ⟨trim listen, managerPort⟩
  /-- A port behind a host that may be left out. -/
  | full {host digits : List Char} {port : Nat} (split : trim listen = host ++ ':' :: digits)
    (fits : port ≤ maxU16) : Finds listen ⟨if host = [] then anyHost else host, port⟩

theorem finds_of_parse {listen : List Char} {found : Listen} (read : parse listen = .ok found) :
    Finds listen found := by
  cases has : hasPort (trim listen) with
  | false =>
    rw [parse_of_bare has] at read
    cases read
    exact .bare has
  | true =>
    obtain ⟨host, digits, split, last, opened⟩ := (hasPort_iff _).mp has
    rw [parse_of_port split last opened] at read
    cases value : parseUnsigned maxU16 digits with
    | error fault =>
      rw [value] at read
      cases read
    | ok port =>
      rw [value] at read
      cases read
      exact .full split (parseUnsigned_eq_ok_iff.mp value).2

/-! ### The written form -/

/-- A trimmed text starts with no blank. -/
theorem dark_of_trim {listen rest : List Char} {c : Char} (starts : trim listen = c :: rest) :
    isBlank c = false := by
  obtain ⟨back, longer⟩ : trim listen <+: trimStart listen := List.rdropWhile_prefix isBlank _
  rw [starts] at longer
  exact dark_of_trimStart longer.symm

/-- The written form of a host that starts with no blank is left as it is. -/
theorem trim_address {listen : Listen} (dark : ∀ c ∈ listen.host.head?, isBlank c = false) :
    trim listen.address = listen.address := by
  have starts : trimStart listen.address = listen.address := by
    unfold address
    cases host : listen.host with
    | nil => exact trimStart_cons (by decide) _
    | cons c rest => exact trimStart_cons (dark c (by rw [host]; rfl)) _
  calc trim listen.address = (trimStart listen.address).rdropWhile isBlank := rfl
    _ = listen.address.rdropWhile isBlank := by rw [starts]
    _ = listen.address := by
      rw [rdropWhile_eq_self_iff_endsIn, address, endsIn_append_cons (by decide)]
      exact not_endsIn_toString (fun _ => dark_of_isDigit) listen.port

/-- **What is read in the written form of a host and port** is these, all addresses standing for no host. -/
theorem parse_address {listen : Listen} (dark : ∀ c ∈ listen.host.head?, isBlank c = false)
    (fits : listen.port ≤ maxU16) :
    parse listen.address =
      .ok ⟨if listen.host = [] then anyHost else listen.host, listen.port⟩ := by
  have split : trim listen.address = listen.host ++ ':' :: (toString listen.port).toList :=
    trim_address dark
  have digits : ∀ c ∈ (toString listen.port).toList, c.isDigit = true :=
    fun _ => isDigit_of_mem_toString
  have last : ':' ∉ (toString listen.port).toList := fun colon => by cases digits ':' colon
  have opened : ']' ∉ (toString listen.port).toList := fun bracket => by cases digits ']' bracket
  have numeral : IsNumeral (toString listen.port).toList listen.port := by
    rw [Nat.toString_eq_repr, Nat.toList_repr]
    exact isNumeral_toDigits listen.port
  rw [parse_of_port split last opened, parseUnsigned_eq_ok_iff.mpr ⟨numeral, fits⟩]

namespace Finds

variable {listen : List Char} {found : Listen}

theorem dark (finds : Finds listen found) : ∀ c ∈ found.host.head?, isBlank c = false := by
  intro c first
  obtain ⟨rest, starts⟩ := List.head?_eq_some_iff.mp first
  cases finds with
  | bare portless => exact dark_of_trim starts
  | @full host digits port split fits =>
    by_cases unnamed : host = []
    · simp only [unnamed, if_true, anyHost, List.cons.injEq] at starts
      rw [← starts.1]
      decide
    · simp only [unnamed, if_false] at starts
      rw [starts] at split
      exact dark_of_trim split

theorem fits (finds : Finds listen found) : found.port ≤ maxU16 := by
  cases finds with
  | bare portless => exact (by decide : managerPort ≤ maxU16)
  | full split fits => exact fits

/-- A host is found unless nothing but blanks was given. -/
theorem host_eq_nil_iff (finds : Finds listen found) : found.host = [] ↔ allBlank listen = true := by
  rw [allBlank_iff_trim_eq_nil]
  cases finds with
  | bare portless => exact Iff.rfl
  | @full host digits port split fits =>
    have nonempty : trim listen ≠ [] := by
      rw [split]
      exact List.append_ne_nil_of_right_ne_nil host (List.cons_ne_nil ':' digits)
    have named : (if host = [] then anyHost else host) ≠ [] := by
      split
      · exact List.cons_ne_nil _ _
      · assumption
    exact iff_of_false named nonempty

/-- What is found is read back exactly if it has a host. -/
theorem parse_address_iff (finds : Finds listen found) :
    parse found.address = .ok found ↔ found.host ≠ [] := by
  rw [parse_address finds.dark finds.fits]
  obtain ⟨host, port⟩ := found
  by_cases unnamed : host = []
  · rw [if_pos unnamed, unnamed]
    simp [anyHost]
  · simp [unnamed]

end Finds

/-- **When a listen address is refused, and when what is found in it is read back.** It is refused exactly
if it has a colon, no bracket is closed behind the last one, and what is behind that is a numeral of no
number of sixteen bits. What is found in any other has a host, and is found again in its written form,
exactly if it is not blank. -/
theorem reads_back_iff (listen : List Char) :
    ((∃ fault, parse listen = .error fault) ↔
      ∃ host port, trim listen = host ++ ':' :: port ∧ ':' ∉ port ∧ ']' ∉ port ∧
        ∀ value, IsNumeral port value → maxU16 < value) ∧
    ∀ found, parse listen = .ok found →
      (found.host ≠ [] ↔ allBlank listen = false) ∧
        (parse found.address = .ok found ↔ allBlank listen = false) := by
  refine ⟨parse_eq_error_iff listen, fun found read => ?_⟩
  have finds := finds_of_parse read
  have named : found.host ≠ [] ↔ allBlank listen = false := by
    rw [Ne, finds.host_eq_nil_iff, Bool.not_eq_true]
  exact ⟨named, finds.parse_address_iff.trans named⟩

/-- A host in brackets without a port is found again behind the port of a manager. -/
theorem reads_back_iff_bracketed :
    parse " [::1]\n".toList = .ok ⟨"[::1]".toList, 1235⟩ ∧
      ("[::1]".toList ≠ [] ↔ allBlank " [::1]\n".toList = false) ∧
      parse "[::1]:1235".toList = .ok ⟨"[::1]".toList, 1235⟩ := by
  have found : parse " [::1]\n".toList = .ok ⟨"[::1]".toList, 1235⟩ := by decide
  obtain ⟨named, again⟩ := (reads_back_iff " [::1]\n".toList).2 ⟨"[::1]".toList, 1235⟩ found
  exact ⟨found, named, again.mpr (by decide)⟩

/-- **Not every listen address that is accepted has a host**: in nothing none is found, and its written
form is read as that of all addresses. -/
theorem host_not_always_found :
    ¬ ∀ (listen : List Char) (found : Listen), parse listen = .ok found →
      found.host ≠ [] ∧ parse found.address = .ok found := by
  intro always
  have accepted : parse [] = .ok ⟨[], managerPort⟩ := by decide
  exact (always [] ⟨[], managerPort⟩ accepted).1 rfl

end Listen

end Workyard
