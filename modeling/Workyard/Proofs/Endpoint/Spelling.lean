/-
**The spellings of an address.**

An address can be spelled with or without a scheme and a port, with slashes behind it and blanks around
it. The colon behind a scheme is the first one, and that in front of a port the last one that no bracket
is closed behind; those within brackets are neither. So all spellings of one address have one full form,
which spells its parts in order, and those of different addresses have different ones.

* `Spelling`: an address in parts, and the text of it;
* `Spelling.url_text`: the full form of a spelling;
* `Spelling.url_text_inj`: spellings with the same full form;
* `Spelling.one_entry_iff`: the full form, and what registering two spellings comes to.
-/

import Workyard.Proofs.Endpoint.NormalForm
import Workyard.Proofs.Yard.Registration
import Workyard.Rpc.Manager

namespace Workyard

namespace Endpoint

open Text

/-! ### Parts of a spelling -/

/-- Whether a character separates nothing. -/
def isPlain (c : Char) : Bool := !isBlank c && c ≠ '/' && c ≠ ':'

/-- Whether a character can stand in brackets. -/
def isEnclosed (c : Char) : Bool := !isBlank c && c ≠ '/' && c ≠ '[' && c ≠ ']'

/-- A text that is the host of an address: a name, or anything in brackets that has none inside. -/
inductive IsHost : List Char → Prop where
  | name {text : List Char} (nonempty : text ≠ []) (plain : ∀ c ∈ text, isPlain c = true) :
    IsHost text
  | bracketed (inner : List Char) (enclosed : ∀ c ∈ inner, isEnclosed c = true) :
    IsHost ('[' :: (inner ++ [']']))

/-- A spelling of an address. -/
structure Spelling where
  /-- The blanks in front of it. -/
  before : List Char
  scheme : Option (List Char)
  host : List Char
  port : Option (List Char)
  /-- The number of slashes behind it. -/
  slashes : Nat
  /-- The blanks behind the slashes. -/
  after : List Char
  before_blank : allBlank before = true
  scheme_plain : ∀ text ∈ scheme, text ≠ [] ∧ ∀ c ∈ text, isPlain c = true
  host_isHost : IsHost host
  port_digits : ∀ text ∈ port, text ≠ [] ∧ ∀ c ∈ text, c.isDigit = true
  after_blank : allBlank after = true

theorem dark_of_isPlain {c : Char} (plain : isPlain c = true) : isBlank c = false := by
  simp only [isPlain, Bool.and_eq_true, Bool.not_eq_true'] at plain
  exact plain.1.1

theorem dark_of_isEnclosed {c : Char} (enclosed : isEnclosed c = true) :
    isBlank c = false ∧ c ≠ '/' := by
  simp only [isEnclosed, Bool.and_eq_true, Bool.not_eq_true', decide_eq_true_eq] at enclosed
  exact enclosed.1.1

theorem ne_of_isPlain {c : Char} (plain : isPlain c = true) : c ≠ '/' ∧ c ≠ ':' := by
  simp only [isPlain, Bool.and_eq_true, decide_eq_true_eq] at plain
  exact ⟨plain.1.2, plain.2⟩

namespace IsHost

variable {host : List Char}

theorem ne_nil (isHost : IsHost host) : host ≠ [] := by
  cases isHost with
  | name nonempty plain => exact nonempty
  | bracketed inner enclosed => exact List.cons_ne_nil _ _

/-- A host has no blanks and no slashes. -/
theorem dark (isHost : IsHost host) : ∀ c ∈ host, isBlank c = false ∧ c ≠ '/' := by
  intro c member
  cases isHost with
  | name nonempty plain => exact ⟨dark_of_isPlain (plain c member), (ne_of_isPlain (plain c member)).1⟩
  | bracketed inner enclosed =>
    rcases List.mem_cons.mp member with rfl | member
    · exact ⟨by decide, by decide⟩
    · rcases List.mem_append.mp member with inside | closing
      · exact dark_of_isEnclosed (enclosed c inside)
      · rw [List.mem_singleton.mp closing]
        exact ⟨by decide, by decide⟩

/-- No colon of a host is taken for that of a port. -/
theorem hasPort_eq_false (isHost : IsHost host) : hasPort host = false := by
  refine Bool.eq_false_iff.mpr fun has => ?_
  obtain ⟨front, behind, split, -, opened⟩ := (hasPort_iff host).mp has
  cases isHost with
  | name nonempty plain =>
    have colon : ':' ∈ host := by
      rw [split]
      exact List.mem_append_right front List.mem_cons_self
    exact (ne_of_isPlain (plain ':' colon)).2 rfl
  | bracketed inner enclosed =>
    -- the last character is the closing bracket, which must not be behind the colon
    have closed : EndsIn (· = ']') ('[' :: (inner ++ [']'])) := ⟨'[' :: inner, ']', rfl, by decide⟩
    rw [split, endsIn_append_cons (by decide)] at closed
    obtain ⟨back, last, rfl, same⟩ := closed
    rw [of_decide_eq_true same] at opened
    exact opened (List.mem_append_right back List.mem_cons_self)

end IsHost

/-- A plain text in front of the mark is found as the scheme. -/
theorem isScheme_of_isPlain {scheme : List Char} (plain : ∀ c ∈ scheme, isPlain c = true) :
    IsScheme scheme := by
  refine ⟨fun rest => ?_, starts_of_dark fun c first => ?_⟩
  · induction scheme with
    | nil => rfl
    | cons c scheme hypothesis =>
      have other := (ne_of_isPlain (plain c List.mem_cons_self)).2
      have absent : ¬ schemeMark.isPrefixOf (c :: (scheme ++ schemeMark ++ rest)) = true := by
        intro here
        obtain ⟨back, split⟩ := List.isPrefixOf_iff_prefix.mp here
        exact other (List.cons.inj split).1.symm
      rw [List.cons_append, List.cons_append, splitFirst?, if_neg absent,
        hypothesis fun d member => plain d (List.mem_cons_of_mem c member)]
      rfl
  · exact dark_of_isPlain (plain c (List.mem_of_mem_head? first))

namespace Spelling

/-! ### The text of a spelling -/

variable (spelling : Spelling)

/-- The host and the port, if there is one. -/
def place : List Char :=
  spelling.host ++ match spelling.port with
    | some port => ':' :: port
    | none => []

/-- The spelling without what is around it. -/
def core : List Char :=
  match spelling.scheme with
  | some scheme => scheme ++ schemeMark ++ spelling.place
  | none => spelling.place

/-- The whole text of a spelling. -/
def text : List Char :=
  spelling.before ++ (spelling.core ++ List.replicate spelling.slashes '/' ++ spelling.after)

/-- The scheme, or the one that is filled in. -/
def fullScheme : List Char := spelling.scheme.getD defaultScheme

/-- The port, or the one that is filled in. -/
def fullPort (port : Nat) : List Char := spelling.port.getD (toString port).toList

theorem fullScheme_plain : ∀ c ∈ spelling.fullScheme, isPlain c = true := by
  unfold fullScheme
  cases given : spelling.scheme with
  | some scheme => exact (spelling.scheme_plain scheme given).2
  | none => exact List.all_eq_true.mp (by decide)

theorem isScheme_fullScheme : IsScheme spelling.fullScheme :=
  isScheme_of_isPlain spelling.fullScheme_plain

theorem fullPort_digits (port : Nat) : ∀ c ∈ spelling.fullPort port, c.isDigit = true := by
  unfold fullPort
  cases given : spelling.port with
  | some digits => exact (spelling.port_digits digits given).2
  | none => exact fun c member => isDigit_of_mem_toString member

/-- No digit is a colon or a bracket. -/
theorem not_mem_fullPort (port : Nat) :
    ':' ∉ spelling.fullPort port ∧ ']' ∉ spelling.fullPort port := by
  refine ⟨fun colon => ?_, fun bracket => ?_⟩
  · cases spelling.fullPort_digits port ':' colon
  · cases spelling.fullPort_digits port ']' bracket

theorem place_ne_nil : spelling.place ≠ [] := by
  unfold place
  exact fun empty => spelling.host_isHost.ne_nil (List.append_eq_nil_iff.mp empty).1

theorem place_dark : ∀ c ∈ spelling.place, isBlank c = false ∧ c ≠ '/' := by
  intro c member
  unfold place at member
  rcases List.mem_append.mp member with host | port
  · exact spelling.host_isHost.dark c host
  · cases given : spelling.port with
    | none =>
      rw [given] at port
      cases port
    | some digits =>
      rw [given] at port
      rcases List.mem_cons.mp port with rfl | digit
      · exact ⟨by decide, by decide⟩
      · have isDigit := (spelling.port_digits digits given).2 c digit
        refine ⟨dark_of_isDigit isDigit, ?_⟩
        rintro rfl
        cases isDigit

theorem core_dark : ∀ c ∈ spelling.core, isBlank c = false := by
  intro c member
  unfold core at member
  cases given : spelling.scheme with
  | none =>
    rw [given] at member
    exact (spelling.place_dark c member).1
  | some scheme =>
    rw [given] at member
    rcases List.mem_append.mp member with front | place
    · rcases List.mem_append.mp front with letter | mark
      · exact dark_of_isPlain ((spelling.scheme_plain scheme given).2 c letter)
      · have dark : schemeMark.all (fun c => !isBlank c) = true := by decide
        exact Bool.not_eq_true' _ |>.mp (List.all_eq_true.mp dark c mark)
    · exact (spelling.place_dark c place).1

/-- The last character of a spelling is that of its host or its port. -/
theorem core_ends : ∃ front last, spelling.core = front ++ [last] ∧ last ≠ '/' := by
  obtain ⟨scheme, whole⟩ : ∃ scheme, spelling.core = scheme ++ spelling.place := by
    unfold core
    cases spelling.scheme with
    | none => exact ⟨[], rfl⟩
    | some scheme => exact ⟨scheme ++ schemeMark, rfl⟩
  rcases List.eq_nil_or_concat spelling.place with empty | ⟨front, last, split⟩
  · exact absurd empty spelling.place_ne_nil
  · rw [List.concat_eq_append] at split
    refine ⟨scheme ++ front, last, by rw [whole, split, List.append_assoc], ?_⟩
    exact (spelling.place_dark last (by rw [split]; simp)).2

/-- The blanks in front of a spelling are dropped. -/
theorem trimStart_text :
    trimStart spelling.text =
      spelling.core ++ List.replicate spelling.slashes '/' ++ spelling.after := by
  obtain ⟨front, last, ends, -⟩ := spelling.core_ends
  rw [trimStart, text, List.dropWhile_append_of_pos fun c member =>
    List.all_eq_true.mp spelling.before_blank c member]
  cases first : spelling.core with
  | nil =>
    rw [ends] at first
    exact absurd first (List.append_ne_nil_of_right_ne_nil _ (List.cons_ne_nil last []))
  | cons c rest =>
    exact trimStart_cons (spelling.core_dark c (by rw [first]; exact List.mem_cons_self)) _

/-- A spelling and the slashes behind it do not end in a blank. -/
theorem not_endsIn_slashes :
    ¬ EndsIn isBlank (spelling.core ++ List.replicate spelling.slashes '/') := by
  rintro ⟨before, c, parts, blank⟩
  have member : c ∈ spelling.core ++ List.replicate spelling.slashes '/' := by
    rw [parts]
    exact List.mem_append_right before List.mem_cons_self
  have dark : isBlank c = false := by
    rcases List.mem_append.mp member with inside | slash
    · exact spelling.core_dark c inside
    · rw [List.eq_of_mem_replicate slash]
      decide
  rw [dark] at blank
  cases blank

/-- What is around a spelling is dropped. -/
theorem bare_text : bare spelling.text = spelling.core := by
  have slashes : (List.replicate spelling.slashes '/').rdropWhile (· = '/') = [] := by
    refine List.rdropWhile_eq_nil_iff.mpr fun c member => ?_
    exact decide_eq_true (List.eq_of_mem_replicate member)
  have blanks : (spelling.core ++ List.replicate spelling.slashes '/' ++ spelling.after).rdropWhile
      isBlank = spelling.core ++ List.replicate spelling.slashes '/' :=
    (trimEnd_append_blank _ spelling.after spelling.after_blank).trans
      ((rdropWhile_eq_self_iff_endsIn _).mpr spelling.not_endsIn_slashes)
  obtain ⟨front, last, ends, other⟩ := spelling.core_ends
  rw [bare_eq, trimStart_text, stripped, blanks, ends, List.append_assoc, List.singleton_append,
    rdropWhile_append_cons (decide_eq_false other), slashes]

/-- The scheme of a spelling, and its host and port. -/
theorem parts_text : parts spelling.text = (spelling.fullScheme, spelling.place) := by
  rw [parts, bare_text, fullScheme, core]
  cases given : spelling.scheme with
  | some scheme =>
    have isScheme := isScheme_of_isPlain (spelling.scheme_plain scheme given).2
    dsimp only
    rw [isScheme.found]
    rfl
  | none =>
    have unmarked : splitFirst? schemeMark spelling.place = none := by
      refine Option.eq_none_iff_forall_ne_some.mpr fun halves found => ?_
      obtain ⟨before, behind⟩ := halves
      have slash : '/' ∈ spelling.place := by
        rw [eq_of_splitFirst? found]
        simp [schemeMark]
      exact (spelling.place_dark '/' slash).2 rfl
    dsimp only
    rw [unmarked]
    rfl

/-! ### Full forms -/

/-- **The full form of a spelling** spells its parts in order, those that are missing filled in. -/
theorem url_text (port : Nat) :
    url port spelling.text =
      spelling.fullScheme ++ schemeMark ++ (spelling.host ++ ':' :: spelling.fullPort port) := by
  rw [url_eq, parts_text]
  dsimp only
  cases given : spelling.port with
  | some digits =>
    have place : spelling.place = spelling.host ++ ':' :: digits := by rw [Spelling.place, given]
    have port_eq : spelling.fullPort port = digits := by rw [fullPort, given, Option.getD_some]
    have has : hasPort spelling.place = true := by
      have free := spelling.not_mem_fullPort port
      rw [port_eq] at free
      exact (hasPort_iff _).mpr ⟨spelling.host, digits, place, free.1, free.2⟩
    rw [has, if_pos rfl, List.append_nil, place, port_eq]
  | none =>
    have place : spelling.place = spelling.host := by rw [Spelling.place, given, List.append_nil]
    have port_eq : spelling.fullPort port = (toString port).toList := by
      rw [fullPort, given, Option.getD_none]
    rw [place, spelling.host_isHost.hasPort_eq_false, port_eq, List.append_assoc]
    rfl

/-- Two spellings of one address, if this port is filled in. -/
structure Agree (port : Nat) (first second : Spelling) : Prop where
  scheme : first.fullScheme = second.fullScheme
  host : first.host = second.host
  port : first.fullPort port = second.fullPort port

/-- **Spellings have the same full form exactly if they agree in all parts.** -/
theorem url_text_inj (port : Nat) (first second : Spelling) :
    url port first.text = url port second.text ↔ Agree port first second := by
  rw [url_text, url_text]
  constructor
  · intro same
    have halves := first.isScheme_fullScheme.found (first.host ++ ':' :: first.fullPort port)
    rw [same, second.isScheme_fullScheme.found] at halves
    obtain ⟨scheme, rest⟩ := Prod.mk.inj (Option.some.inj halves)
    have cut : ∀ spelling : Spelling,
        splitLast? ':' (spelling.host ++ ':' :: spelling.fullPort port) =
          some (spelling.host, spelling.fullPort port) := by
      intro spelling
      exact (splitLast?_eq_some_iff ':' _ _ _).mpr ⟨rfl, (spelling.not_mem_fullPort port).1⟩
    have ends := cut first
    rw [← rest, cut second] at ends
    obtain ⟨host, port⟩ := Prod.mk.inj (Option.some.inj ends)
    exact ⟨scheme.symm, host.symm, port.symm⟩
  · rintro ⟨scheme, host, port⟩
    rw [scheme, host, port]

/-! ### Registrations -/

/-- The address as it is given to a manager. -/
def address : String := String.ofList spelling.text

theorem workerUrl_inj (first second : Spelling) :
    workerUrl first.address = workerUrl second.address ↔ Agree workerPort first second := by
  rw [workerUrl, workerUrl, address, address, String.toList_ofList, String.toList_ofList,
    String.ofList_inj, url_text_inj]

/-- A spelling is not blank. -/
theorem allBlank_address : allBlank spelling.address.toList = false := by
  rw [address, String.toList_ofList]
  refine Bool.eq_false_iff.mpr fun blank => ?_
  have nothing := (allBlank_iff_trim_eq_nil _).mp blank
  have core : spelling.core = [] := by rw [← bare_text, bare, nothing]; rfl
  unfold Spelling.core at core
  cases given : spelling.scheme with
  | none =>
    rw [given] at core
    exact spelling.place_ne_nil core
  | some scheme =>
    rw [given] at core
    exact spelling.place_ne_nil (List.append_eq_nil_iff.mp core).2

variable {σ : Type} {yard : Yard σ}

/-- A manager adds a worker under the full form of its spelling. -/
theorem register_address (limit : Option Nat) (yard : Yard σ) :
    Rpc.Manager.register limit spelling.address yard =
      ((yard.addWorker (workerUrl spelling.address) limit).1,
        .ok ⟨(yard.addWorker (workerUrl spelling.address) limit).2⟩) := by
  unfold Rpc.Manager.register
  rw [if_neg (by rw [spelling.allBlank_address]; exact Bool.false_ne_true)]

/-- A spelling is refused exactly if its full form is registered. -/
theorem refused_iff (isOpen : yard.isOpen = true) (limit : Option Nat) :
    (Rpc.Manager.register limit spelling.address yard).2 = .ok ⟨false⟩ ↔
      workerUrl spelling.address ∈ yard.registry.addresses := by
  rw [register_address, Yard.addWorker_of_isOpen isOpen]
  by_cases known : workerUrl spelling.address ∈ yard.registry.addresses
  · rw [if_pos known]
    exact ⟨fun _ => known, fun _ => rfl⟩
  · rw [if_neg known]
    exact ⟨nofun, fun entered => absurd entered known⟩

/-- Registering a spelling enters its full form. -/
theorem registered_iff (isOpen : yard.isOpen = true) (limit : Option Nat) (other : String) :
    other ∈ (Rpc.Manager.register limit spelling.address yard).1.registry.addresses ↔
      other = workerUrl spelling.address ∨ other ∈ yard.registry.addresses := by
  rw [register_address, Yard.addWorker_of_isOpen isOpen]
  by_cases known : workerUrl spelling.address ∈ yard.registry.addresses
  · rw [if_pos known]
    exact ⟨.inr, fun either => either.elim (fun same => same ▸ known) id⟩
  · rw [if_neg known]
    exact Yard.Registry.mem_add yard.registry (workerUrl spelling.address) other

theorem isOpen_register (isOpen : yard.isOpen = true) (limit : Option Nat) :
    (Rpc.Manager.register limit spelling.address yard).1.isOpen = true := by
  rw [register_address, Yard.addWorker_of_isOpen isOpen]
  split
  · exact isOpen
  · exact isOpen

/-- **Spellings and entries.** The full form of a spelling spells its scheme, its host and its port, those
that are missing filled in. Two spellings have the same full form exactly if they agree in these; so a
second worker is refused as registered already exactly if its spelling agrees with that of the first. -/
theorem one_entry_iff (port : Nat) (first second : Spelling) :
    url port first.text =
        first.fullScheme ++ schemeMark ++ (first.host ++ ':' :: first.fullPort port) ∧
      (url port first.text = url port second.text ↔ Agree port first second) ∧
      ∀ (yard : Yard σ) (limit : Option Nat), yard.isOpen = true →
        workerUrl second.address ∉ yard.registry.addresses →
        ((Rpc.Manager.register limit second.address
            (Rpc.Manager.register limit first.address yard).1).2 = .ok ⟨false⟩ ↔
          Agree workerPort first second) := by
  refine ⟨first.url_text port, url_text_inj port first second, fun yard limit isOpen new => ?_⟩
  rw [second.refused_iff (first.isOpen_register isOpen limit), first.registered_iff isOpen,
    ← workerUrl_inj]
  exact ⟨fun entered => (entered.resolve_right new).symm, fun same => .inl same.symm⟩

/-- A host in brackets. -/
def bracketed : Spelling where
  before := []
  scheme := none
  host := "[::1]".toList
  port := none
  slashes := 0
  after := []
  before_blank := rfl
  scheme_plain := nofun
  host_isHost := .bracketed "::1".toList (List.all_eq_true.mp (by decide))
  port_digits := nofun
  after_blank := rfl

/-- The same host with all that can be left out. -/
def elaborate : Spelling where
  before := " ".toList
  scheme := some "http".toList
  host := "[::1]".toList
  port := some "1234".toList
  slashes := 2
  after := " ".toList
  before_blank := by decide
  scheme_plain := by
    rintro _ ⟨⟩
    exact ⟨by decide, List.all_eq_true.mp (by decide)⟩
  host_isHost := .bracketed "::1".toList (List.all_eq_true.mp (by decide))
  port_digits := by
    rintro _ ⟨⟩
    exact ⟨by decide, List.all_eq_true.mp (by decide)⟩
  after_blank := by decide

/-- A host in brackets that is registered under two spellings. -/
theorem one_entry_iff_bracketed :
    ({ log := () } : Yard Unit).isOpen = true ∧
      workerUrl elaborate.address ∉ ({ log := () } : Yard Unit).registry.addresses ∧
      url workerPort bracketed.text = "http://[::1]:1234".toList ∧
      (Rpc.Manager.register none elaborate.address
        (Rpc.Manager.register none bracketed.address { log := () }).1).2 = .ok ⟨false⟩ := by
  obtain ⟨written, -, entry⟩ := @one_entry_iff Unit workerPort bracketed elaborate
  have isOpen : ({ log := () } : Yard Unit).isOpen = true := rfl
  have new : workerUrl elaborate.address ∉ ({ log := () } : Yard Unit).registry.addresses :=
    List.not_mem_nil
  refine ⟨isOpen, new, written.trans (by decide), (entry { log := () } none isOpen new).mpr ?_⟩
  exact ⟨by decide, rfl, by decide⟩

end Spelling

end Endpoint

end Workyard
