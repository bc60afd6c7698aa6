/-
**Looking into JSON values.**

A value is looked into by the names of its members and by what it should be; what is not as it should
be is said in words. A member that is null counts as missing.

* `Json.get`: a member that must be there;
* `Json.sorted`: a value with its members in ascending order, which says when two objects are the
  same.
-/

import Workyard.Json.Value

namespace Workyard.Json

/-- A look into a value, with words for what is amiss. -/
abbrev Look := Except String

/-- The member of a name, if it is there and not null. -/
def get? (value : Json) (name : String) : Option Json :=
  match value with
  | .object members => match members.lookup name with
    | some .null => none
    | found => found
  | _ => none

/-- The member of a name. -/
def get (value : Json) (name : String) : Look Json :=
  match value.get? name with
  | some found => .ok found
  | none => .error s!"missing {name}"

/-- A natural number. -/
def asNat : Json → Look Nat
  | .number (.whole value) => if 0 ≤ value then .ok value.toNat else .error "a negative number"
  | _ => .error "not a number"

/-- An integer. -/
def asInt : Json → Look Int
  | .number (.whole value) => .ok value
  | _ => .error "not a number"

/-- True or false. -/
def asFlag : Json → Look Bool
  | .bool value => .ok value
  | _ => .error "not a flag"

/-- The elements of a list. -/
def asList : Json → Look (List Json)
  | .list elements => .ok elements
  | _ => .error "not a list"

/-- The members of an object, of which the last of a name comes first. -/
def asMembers : Json → Look (List (String × Json))
  | .object members => .ok members.reverse
  | _ => .error "not an object"

/-- A member looked into, if it is there. -/
def optional {α : Type} (look : Json → Look α) (value : Json) (name : String) : Look (Option α) :=
  match value.get? name with
  | some found => (look found).map some
  | none => .ok none

/-- A member looked into, or what stands for a missing one. -/
def getOr {α : Type} (look : Json → Look α) (value : Json) (name : String) (missing : α) : Look α :=
  match value.get? name with
  | some found => look found
  | none => .ok missing

/-- A member looked into. -/
def need {α : Type} (look : Json → Look α) (value : Json) (name : String) : Look α := do
  look (← value.get name)

mutual

/-- The value with its members in ascending order of their names. -/
def sorted : Json → Json
  | .list elements => .list (sortedElements elements)
  | .object members => .object ((sortedMembers members).mergeSort fun a b => !(b.1 < a.1))
  | scalar => scalar

/-- The elements, each sorted. -/
def sortedElements : List Json → List Json
  | [] => []
  | first :: rest => sorted first :: sortedElements rest

/-- The members, each value sorted. -/
def sortedMembers : List (String × Json) → List (String × Json)
  | [] => []
  | (name, first) :: rest => (name, sorted first) :: sortedMembers rest

end

end Workyard.Json
