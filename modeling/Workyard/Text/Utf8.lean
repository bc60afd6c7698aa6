/-
**UTF-8 with the place of the first fault.**

Octets are read one at a time. Between two octets the reader either stands between characters or
inside one that still owes continuation octets (`Partial`). A text that is not UTF-8 is refused with
the index of the faulty character's first octet and the number of octets that no character starts
with, or with no number where the text ends inside a character.

* `decode`: the characters of the octets, or their first `Fault`;
* `decodeLossy`: the characters of any octets, each longest faulty part read as `U+FFFD`;
* `dropOctets`: a text from the first character boundary at or after an octet index.
-/

namespace Workyard.Text.Utf8

/-- Where and how octets stop being UTF-8. -/
structure Fault where
  /-- The index of the first octet of the faulty character. -/
  index : Nat
  /-- The number of faulty octets, none if the text ends inside the character. -/
  width : Option Nat
deriving DecidableEq, Repr

/-- The words for a fault. -/
def Fault.message (fault : Fault) : String :=
  match fault.width with
  | some width => s!"invalid utf-8 sequence of {width} bytes from index {fault.index}"
  | none => s!"incomplete utf-8 byte sequence from index {fault.index}"

/-- A character of which some octets have been read. -/
structure Partial where
  /-- The continuation octets still owed. -/
  owed : Nat
  /-- The least octet that may come next. -/
  low : UInt8
  /-- The greatest octet that may come next. -/
  high : UInt8
  /-- The bits read so far. -/
  bits : Nat
  /-- The octets read so far. -/
  taken : Nat
deriving DecidableEq, Repr

/-- What one more octet does. -/
inductive Verdict where
  /-- It completes a character. -/
  | complete (c : Char)
  /-- It leaves a character unfinished. -/
  | unfinished (state : Partial)
  /-- No character goes on with it. -/
  | refused

/-- The first octet of a character. -/
def start (octet : UInt8) : Verdict :=
  if octet ≤ 0x7f then .complete (Char.ofNat octet.toNat)
  else if octet < 0xc2 then .refused
  else if octet ≤ 0xdf then .unfinished ⟨1, 0x80, 0xbf, octet.toNat - 0xc0, 1⟩
  else if octet ≤ 0xef then
    .unfinished ⟨2, if octet = 0xe0 then 0xa0 else 0x80, if octet = 0xed then 0x9f else 0xbf,
      octet.toNat - 0xe0, 1⟩
  else if octet ≤ 0xf4 then
    .unfinished ⟨3, if octet = 0xf0 then 0x90 else 0x80, if octet = 0xf4 then 0x8f else 0xbf,
      octet.toNat - 0xf0, 1⟩
  else .refused

/-- A later octet of a character. -/
def Partial.continue (state : Partial) (octet : UInt8) : Verdict :=
  if state.low ≤ octet && octet ≤ state.high then
    let bits := state.bits * 64 + (octet.toNat - 0x80)
    if state.owed ≤ 1 then .complete (Char.ofNat bits)
    else .unfinished ⟨state.owed - 1, 0x80, 0xbf, bits, state.taken + 1⟩
  else .refused

/-- Reads on from `state`, where the character being read starts at `index` and `read` holds the
characters before it in reverse. -/
def decodeFrom (index : Nat) (state : Option Partial) (read : List Char) :
    List UInt8 → Except Fault (List Char)
  | [] => match state with
    | none => .ok read.reverse
    | some _ => .error ⟨index, none⟩
  | octet :: rest => match state with
    | none => match start octet with
      | .complete c => decodeFrom (index + 1) none (c :: read) rest
      | .unfinished next => decodeFrom index (some next) read rest
      | .refused => .error ⟨index, some 1⟩
    | some partly => match partly.continue octet with
      | .complete c => decodeFrom (index + partly.taken + 1) none (c :: read) rest
      | .unfinished next => decodeFrom index (some next) read rest
      | .refused => .error ⟨index, some partly.taken⟩

/-- The characters of the octets, or the first fault. -/
def decode (octets : List UInt8) : Except Fault (List Char) := decodeFrom 0 none [] octets

/-- The character that stands for what cannot be read. -/
def replacement : Char := '\ufffd'

/-- Reads on from `state` with a replacement for each longest faulty part. -/
def decodeLossyFrom (state : Option Partial) (read : List Char) : List UInt8 → List Char
  | [] => match state with
    | none => read.reverse
    | some _ => (replacement :: read).reverse
  | octet :: rest =>
    let verdict := match state with
      | none => start octet
      | some partly => partly.continue octet
    match state, verdict with
    | _, .complete c => decodeLossyFrom none (c :: read) rest
    | _, .unfinished next => decodeLossyFrom (some next) read rest
    | none, .refused => decodeLossyFrom none (replacement :: read) rest
    | some _, .refused => match start octet with
      | .complete c => decodeLossyFrom none (c :: replacement :: read) rest
      | .unfinished next => decodeLossyFrom (some next) (replacement :: read) rest
      | .refused => decodeLossyFrom none (replacement :: replacement :: read) rest

/-- The characters of any octets, each longest faulty part read as one replacement. -/
def decodeLossy (octets : List UInt8) : List Char := decodeLossyFrom none [] octets

/-- The number of octets of a text. -/
def size (text : List Char) : Nat := text.foldl (fun total c => total + c.utf8Size) 0

/-- The octets of a text. -/
def encode (text : String) : List UInt8 := text.toUTF8.toList

/-- Drops characters, `offset` octets being dropped already, until at least `least` octets are
gone; gives the octets dropped and what is left. -/
def dropFrom (least offset : Nat) : List Char → Nat × List Char
  | [] => (offset, [])
  | c :: rest => if least ≤ offset then (offset, c :: rest) else dropFrom least (offset + c.utf8Size) rest

/-- The least character boundary at or after octet `least`, and the text from there on. -/
def dropOctets (least : Nat) (text : List Char) : Nat × List Char := dropFrom least 0 text

/-! ### Laws -/

theorem foldl_size (text : List Char) (total : Nat) :
    text.foldl (fun total c => total + c.utf8Size) total = total + size text := by
  induction text generalizing total with
  | nil => rfl
  | cons c rest hypothesis =>
    unfold size
    rw [List.foldl_cons, List.foldl_cons, hypothesis, hypothesis]
    omega

@[simp] theorem size_nil : size [] = 0 := rfl

@[simp] theorem size_cons (c : Char) (text : List Char) :
    size (c :: text) = c.utf8Size + size text := by
  unfold size
  rw [List.foldl_cons, foldl_size, Nat.zero_add]
  rfl

@[simp] theorem size_append (first second : List Char) :
    size (first ++ second) = size first + size second := by
  induction first with
  | nil => simp
  | cons c rest hypothesis => rw [List.cons_append, size_cons, size_cons, hypothesis]; omega

end Workyard.Text.Utf8
