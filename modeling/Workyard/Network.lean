/-
**A machine without a network.**

This is one network, for runs. A machine whose loopback interface is down reaches nobody, but can listen:
on any address of four octets, on the unspecified address of eight groups, and on those of the four octets
among them. A host is an address or a name, and names have to be looked up; a name that cannot be one is
told from one that nobody knows. No theorem is about it; what holds of clients and of the programs holds
with every dialer and every network.

* `resolve`: the addresses that a host stands for;
* `isolated`: the network.
-/

import Workyard.CommandLine.Machine
import Workyard.Host

namespace Workyard

/-- An address of a machine. -/
inductive Address where
  | four (octets : List Nat)
  /-- Eight groups, and the number of the interface that they are of. -/
  | eight (groups : List Nat) (interface : Nat)
deriving DecidableEq, Repr

namespace Network

/-- What is wrong with every connection. -/
def unreachable : IoFault := .os .networkUnreachable

/-- A name cannot be looked up. -/
def lookupFault (words : String) : IoFault := .other s!"failed to lookup address information: {words}"

/-! ### Names -/

/-- A character of a label, which may be escaped by a backslash, in decimal digits or not; none if the
text ends too early. -/
def labelChar? : List Char → Option (Char × Bool × List Char)
  | '\\' :: a :: b :: c :: rest =>
    match Text.digit? a, Text.digit? b, Text.digit? c with
    | some x, some y, some z =>
      let value := x * 100 + y * 10 + z
      if value < 256 then some (Char.ofNat value, true, rest) else none
    | some _, _, _ => none
    | none, _, _ => some (a, true, b :: c :: rest)
  | '\\' :: a :: rest => if (Text.digit? a).isSome then none else some (a, true, rest)
  | ['\\'] => none
  | c :: rest => some (c, false, rest)
  | [] => none

/-- The labels of a name between dots. -/
def labels? (label : List Char) (fuel : Nat) (text : List Char) : Option (List (List Char)) :=
  match fuel, text with
  | 0, _ => none
  | _, [] => some [label.reverse]
  | fuel + 1, text => do
    let (c, escaped, rest) ← labelChar? text
    if c = '.' && !escaped then return label.reverse :: (← labels? [] fuel rest)
    else labels? (c :: label) fuel rest

/-- Whether a character can stand in the name of a host. -/
def isHostChar (c : Char) : Bool := c.isAlphanum || c = '-' || c = '_'

/-- The greatest length of a label. -/
def maxLabel : Nat := 63

/-- The greatest number of octets of a name in which each label has its length in front. -/
def maxWire : Nat := 255

/-- Whether a text can be the name of a host. -/
def isHostName (text : List Char) : Bool :=
  text = ['.'] || match labels? [] (text.length + 1) text with
  | none => false
  | some labels =>
    let labels := if labels.getLast? = some [] then labels.dropLast else labels
    !labels.isEmpty && labels.head?.bind List.head? ≠ some '-' &&
      labels.all (fun label => !label.isEmpty && label.length ≤ maxLabel && label.all isHostChar) &&
      labels.foldl (fun size label => size + label.length + 1) 1 ≤ maxWire

/-! ### Addresses -/

/-- The address of the machine itself. -/
def itself : Address := .four [127, 0, 0, 1]

/-- The interfaces by name. -/
def interfaces : List (List Char × Nat) := [("lo".toList, 1)]

/-- Whether groups make an address that is of one interface only. -/
def isLinkLocal (groups : List Nat) : Bool :=
  (groups.headD 0) / 64 = 0xfe80 / 64 || (groups.headD 0) % 16 = 2 && (groups.headD 0) / 256 = 0xff ||
    (groups.headD 0) % 16 = 1 && (groups.headD 0) / 256 = 0xff

/-- The number of an interface that is named or given by number. -/
def interface? (groups : List Nat) (text : List Char) : Option Nat :=
  match if isLinkLocal groups then interfaces.lookup text else none with
  | some number => some number
  | none =>
    if text.isEmpty || !text.all Char.isDigit then none
    else (Host.readBase 10 text).filter (· < Nat.pow 2 32)

/-- The address of eight groups that a text writes, perhaps with its interface. -/
def eight? (text : List Char) : Option Address :=
  match Text.splitFirst? ['%'] text with
  | none => (Host.eightGroups? text).map (.eight · 0)
  | some (text, interface) => do
    let groups ← Host.eightGroups? text
    return .eight groups (← interface? groups interface)

/-- The address that is written out in full in front of a port; eight groups stand in brackets and
have their interface by number. -/
def written? (host : List Char) : Option Address :=
  match Host.fourOctets? host with
  | some octets => some (.four octets)
  | none =>
    if host.head? = some '[' && host.getLast? = some ']' then
      let inside := (host.drop 1).dropLast
      match Text.splitFirst? ['%'] inside with
      | none => (Host.eightGroups? inside).map (.eight · 0)
      | some (text, interface) => do
        let groups ← Host.eightGroups? text
        if interface.isEmpty || !interface.all Char.isDigit then none
        else
          let number ← (Host.readBase 10 interface).filter (· < Nat.pow 2 32)
          return .eight groups number
    else none

/-- The addresses that a host stands for. -/
def resolve (host : List Char) : Except IoFault (List Address) :=
  match written? host with
  | some address => .ok [address]
  | none =>
    if host.contains '\x00' then .error .nulInName
    else match Host.loose? host, eight? host with
      | some octets, _ => .ok [.four octets]
      | none, some address => .ok [address]
      | none, none =>
        if host = ['*'] || host.map Char.toLower = "localhost".toList then .ok [itself]
        else if isHostName host then
          .error (lookupFault "Temporary failure in name resolution")
        else .error (lookupFault "Name or service not known")

/-- The octets that an address of eight groups stands for, if it does. -/
def mapped? (groups : List Nat) : Option (List Nat) :=
  if groups.take 6 = [0, 0, 0, 0, 0, 0xffff] then
    some ((groups.drop 6).flatMap fun group => [group / 256, group % 256])
  else none

/-- Why an address cannot be listened on, if it cannot. -/
def refusal (address : Address) : Option OsFault :=
  match address with
  | .four _ => none
  | .eight groups interface =>
    if groups.all (· = 0) || (mapped? groups).isSome then none
    else if (groups.headD 0) / 256 = 0xff then some .invalid
    else if (groups.headD 0) / 64 = 0xfe80 / 64 then
      if interface = 0 then some .invalid
      else if interface ≠ 1 then some .notADevice
      else some .addressNotAvailable
    else some .addressNotAvailable

/-- Whether an address takes a port away from the machine itself. -/
def meetsItself (address : Address) : Bool :=
  match address with
  | .four octets => octets = [127, 0, 0, 1] || octets.all (· = 0)
  | .eight groups _ => groups.all (· = 0) ||
      (mapped? groups).any fun octets => octets = [127, 0, 0, 1] || octets.all (· = 0)

/-- The port that is taken for any. -/
def anyPort : Nat := 32768

/-- Listens on an address of a machine on which others listen at some ports. -/
def listenOn (taken : List Nat) (port : Nat) (address : Address) : Except IoFault Nat :=
  match refusal address with
  | some fault => .error (.os fault)
  | none =>
    if taken.contains port && meetsItself address then .error (.os .addressInUse)
    else .ok (if port = 0 then anyPort else port)

/-- Listens at a place. -/
def listen (taken : List Nat) (place : Listen) : Except IoFault Nat := do
  match ← resolve place.host with
  | [] => .error (.other "could not resolve to any address")
  | address :: _ => listenOn taken place.port address

/-- Makes links on which every call is lost, for all addresses that are well formed. -/
def dialer (σ : Type) : Client.Dialer σ where
  dial url := if Endpoint.isDialable url.toList then .ok (.severed unreachable) else .error "Invalid address"

/-- The network of a machine that reaches nobody, on which others listen at some ports. -/
def isolated (taken : List Nat) : CommandLine.Network := ⟨dialer Unit, listen taken⟩

end Network

end Workyard
