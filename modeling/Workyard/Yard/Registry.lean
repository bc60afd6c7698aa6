/-
**The addresses that have a proxy.**

A registry is a set of addresses, kept in ascending order so that listing it needs no sorting.

* `Registry.mem_add`, `Registry.mem_remove`: what it holds after a change;
* `Registry.add_snd_eq_true_iff`, `Registry.remove_snd_eq_true_iff`: a change says whether it changed
  anything.
-/

namespace Workyard.Yard

/-- A set of addresses. -/
structure Registry where
  /-- The addresses in ascending order. -/
  addresses : List String := []
deriving DecidableEq, Repr

/-- Puts an address in its place among ascending ones, once. -/
def insertAddress (address : String) : List String → List String
  | [] => [address]
  | first :: rest =>
    if address = first then first :: rest
    else if address < first then address :: first :: rest
    else first :: insertAddress address rest

namespace Registry

/-- Whether an address is in the registry. -/
def contains (registry : Registry) (address : String) : Bool := registry.addresses.contains address

/-- Adds an address; says whether it was new. -/
def add (registry : Registry) (address : String) : Registry × Bool :=
  (⟨insertAddress address registry.addresses⟩, !registry.contains address)

/-- Removes an address; says whether it was there. -/
def remove (registry : Registry) (address : String) : Registry × Bool :=
  (⟨registry.addresses.filter (· ≠ address)⟩, registry.contains address)

end Registry

theorem mem_insertAddress (address other : String) (addresses : List String) :
    other ∈ insertAddress address addresses ↔ other = address ∨ other ∈ addresses := by
  induction addresses with
  | nil => simp [insertAddress]
  | cons first rest hypothesis =>
    unfold insertAddress
    split
    · next equal => subst equal; simp
    · split
      · simp
      · simp only [List.mem_cons, hypothesis]
        constructor
        · rintro (rfl | rfl | inside) <;> simp [*]
        · rintro (rfl | rfl | inside) <;> simp [*]

namespace Registry

theorem mem_add (registry : Registry) (address other : String) :
    other ∈ (registry.add address).1.addresses ↔ other = address ∨ other ∈ registry.addresses :=
  mem_insertAddress address other registry.addresses

theorem mem_remove (registry : Registry) (address other : String) :
    other ∈ (registry.remove address).1.addresses ↔
      other ∈ registry.addresses ∧ other ≠ address := by
  simp [remove]

theorem add_snd_eq_true_iff (registry : Registry) (address : String) :
    (registry.add address).2 = true ↔ address ∉ registry.addresses := by
  simp [add, contains]

theorem remove_snd_eq_true_iff (registry : Registry) (address : String) :
    (registry.remove address).2 = true ↔ address ∈ registry.addresses := by
  simp [remove, contains]

end Registry

end Workyard.Yard
