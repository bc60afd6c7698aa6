/-
**Cutting a text.**

A text is cut in two at the first or the last occurrence of a mark, or at all of them; no part keeps it.

* `splitLast?_eq_some_iff`: the parts of a cut at the last mark.
-/

namespace Workyard.Text

/-- The text before and behind the last `mark`. -/
def splitLast? (mark : Char) : List Char → Option (List Char × List Char)
  | [] => none
  | c :: rest => match splitLast? mark rest with
    | some (before, behind) => some (c :: before, behind)
    | none => if c = mark then some ([], rest) else none

/-- The text before and behind the first occurrence of the text `mark`. -/
def splitFirst? (mark : List Char) : List Char → Option (List Char × List Char)
  | [] => if mark = [] then some ([], []) else none
  | c :: rest =>
    if mark.isPrefixOf (c :: rest) then some ([], (c :: rest).drop mark.length)
    else (splitFirst? mark rest).map fun (before, behind) => (c :: before, behind)

/-- The parts of a text between the marks. -/
def split (mark : Char) : List Char → List (List Char)
  | [] => [[]]
  | c :: rest =>
    if c = mark then [] :: split mark rest
    else match split mark rest with
      | [] => [[c]]
      | first :: more => (c :: first) :: more

/-- There is nothing to cut at exactly when the mark does not occur. -/
theorem splitLast?_eq_none_iff (mark : Char) (text : List Char) :
    splitLast? mark text = none ↔ mark ∉ text := by
  induction text with
  | nil => simp [splitLast?]
  | cons c rest hypothesis =>
    unfold splitLast?
    cases found : splitLast? mark rest with
    | some parts =>
      simp only [reduceCtorEq, List.mem_cons, not_or, false_iff, not_and]
      intro _ absent
      rw [hypothesis.mpr absent] at found
      cases found
    | none =>
      have absent := hypothesis.mp found
      by_cases equal : c = mark
      · simp [equal]
      · simp [equal, absent, Ne.symm equal]

/-- A cut at the last mark gives the parts around it, the second without the mark. -/
theorem splitLast?_eq_some_iff (mark : Char) (text before behind : List Char) :
    splitLast? mark text = some (before, behind) ↔
      text = before ++ mark :: behind ∧ mark ∉ behind := by
  induction text generalizing before with
  | nil => simp [splitLast?]
  | cons c rest hypothesis =>
    unfold splitLast?
    cases found : splitLast? mark rest with
    | some parts =>
      obtain ⟨first, second⟩ := parts
      simp only [Option.some.injEq, Prod.mk.injEq]
      constructor
      · rintro ⟨rfl, rfl⟩
        obtain ⟨equal, absent⟩ := (hypothesis first).mp (by rw [found])
        exact ⟨by rw [equal]; rfl, absent⟩
      · rintro ⟨equal, absent⟩
        cases before with
        | nil =>
          simp only [List.nil_append, List.cons.injEq] at equal
          have := (splitLast?_eq_none_iff mark rest).mpr (equal.2 ▸ absent)
          rw [this] at found
          cases found
        | cons d before =>
          simp only [List.cons_append, List.cons.injEq] at equal
          have := (hypothesis before).mpr ⟨equal.2, absent⟩
          rw [found] at this
          simp only [Option.some.injEq, Prod.mk.injEq] at this
          exact ⟨by rw [this.1, equal.1], this.2⟩
    | none =>
      have absent := (splitLast?_eq_none_iff mark rest).mp found
      by_cases equal : c = mark
      · subst equal
        simp only [↓reduceIte, Option.some.injEq, Prod.mk.injEq]
        constructor
        · rintro ⟨rfl, rfl⟩
          exact ⟨rfl, absent⟩
        · rintro ⟨same, _⟩
          cases before with
          | nil =>
            simp only [List.nil_append, List.cons.injEq, true_and] at same
            exact ⟨rfl, same⟩
          | cons d before =>
            simp only [List.cons_append, List.cons.injEq] at same
            exact absurd (by rw [same.2]; simp) absent
      · simp only [equal, ↓reduceIte, reduceCtorEq, false_iff, not_and]
        intro same
        exfalso
        cases before with
        | nil =>
          simp only [List.nil_append, List.cons.injEq] at same
          exact absurd same.1 equal
        | cons d before =>
          simp only [List.cons_append, List.cons.injEq] at same
          exact absurd (by rw [same.2]; simp) absent

end Workyard.Text
