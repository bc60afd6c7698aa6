/-
**White space and trimming.**

Blank characters are those of Unicode's `White_Space` property. A text is trimmed by dropping its
blank characters at one end or at both; inner ones stay.

* `trimEnd_append_blank`: blank characters at the end do not change the trimmed text;
* `allBlank_iff_trim_eq_nil`: a text is blank exactly when trimming leaves nothing.
-/

namespace Workyard.Text

/-- The code points of the property `White_Space`, as inclusive ranges in ascending order. -/
def blankRanges : List (Nat × Nat) :=
  [(0x09, 0x0d), (0x20, 0x20), (0x85, 0x85), (0xa0, 0xa0), (0x1680, 0x1680), (0x2000, 0x200a),
    (0x2028, 0x2029), (0x202f, 0x202f), (0x205f, 0x205f), (0x3000, 0x3000)]

/-- A blank character is one of the property `White_Space`. -/
def isBlank (c : Char) : Bool :=
  blankRanges.any fun range => range.1 ≤ c.toNat && c.toNat ≤ range.2

/-- The text without the blank characters it starts with. -/
def trimStart (text : List Char) : List Char := text.dropWhile isBlank

/-- The text without the blank characters it ends in. -/
def trimEnd (text : List Char) : List Char := (text.reverse.dropWhile isBlank).reverse

/-- The text without the blank characters at both ends. -/
def trim (text : List Char) : List Char := trimEnd (trimStart text)

/-- A text is blank if all its characters are. -/
def allBlank (text : List Char) : Bool := text.all isBlank

theorem trimEnd_append_blank (text tail : List Char) (blank : allBlank tail = true) :
    trimEnd (text ++ tail) = trimEnd text := by
  unfold trimEnd
  rw [List.reverse_append, List.dropWhile_append_of_pos]
  intro c member
  exact List.all_eq_true.mp blank c (List.mem_reverse.mp member)

/-- Dropping leaves nothing exactly when every character can be dropped. -/
theorem dropWhile_isBlank_eq_nil (text : List Char) :
    text.dropWhile isBlank = [] ↔ ∀ c ∈ text, isBlank c = true := by
  induction text with
  | nil => simp
  | cons c rest hypothesis =>
    by_cases blank : isBlank c = true
    · simp [blank, hypothesis]
    · simp [blank]

/-- A text is blank exactly when trimming leaves nothing of it. -/
theorem allBlank_iff_trim_eq_nil (text : List Char) : allBlank text = true ↔ trim text = [] := by
  unfold allBlank trim trimEnd
  rw [List.all_eq_true, List.reverse_eq_nil_iff, dropWhile_isBlank_eq_nil]
  constructor
  · intro blank c member
    exact blank c ((List.dropWhile_sublist _).subset (List.mem_reverse.mp member))
  · intro blank c member
    by_cases dropped : c ∈ trimStart text
    · exact blank c (List.mem_reverse.mpr dropped)
    · have split : c ∈ text.takeWhile isBlank ++ trimStart text := by
        rw [trimStart, List.takeWhile_append_dropWhile]
        exact member
      rcases List.mem_append.mp split with taken | left
      · exact List.all_eq_true.mp (List.all_takeWhile) c taken
      · exact absurd left dropped

end Workyard.Text
