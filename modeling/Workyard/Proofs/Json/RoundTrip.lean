/-
**Reading back what was written.**

A scanner reads a value from a text whatever is behind it, or whatever is behind it that ends the text.
What a scanner reads is put together from what its parts read, in the order of the text.

* `Reads`: a scanner reads a value from a text;
* `string_reads`: a quoted string is read back;
* `fields_reads`: a record is read back if each of its values is.
-/

import Mathlib.Data.List.Forall2
import Workyard.Json.Record

namespace Workyard.Json

namespace Scan

variable {α β : Type}

/-! ### Reading a text -/

/-- The scanner reads this value from a text, whatever is behind it that `stops` admits. -/
def Reads (scan : Scan α) (text : List Char) (value : α) (stops : List Char → Prop) : Prop :=
  ∀ rest, stops rest → ∀ cursor : Cursor, cursor.rest = text ++ rest →
    ∃ after : Cursor, scan.run cursor = .ok (value, after) ∧ after.rest = rest

/-- Whatever is behind. -/
def anything (_ : List Char) : Prop := True

/-- What is behind a value in an object. -/
def delimited (rest : List Char) : Prop := rest.head? = some ',' ∨ rest.head? = some '\x7d'

/-- Where an object ends. -/
def closing (rest : List Char) : Prop := rest.head? = some '\x7d'

namespace Reads

variable {scan : Scan α} {next : α → Scan β} {text later : List Char} {value : α} {result : β}
  {stops ends : List Char → Prop}

theorem mono (reads : scan.Reads text value stops) (admits : ∀ rest, ends rest → stops rest) :
    scan.Reads text value ends :=
  fun rest ended => reads rest (admits rest ended)

theorem pure (value : α) (stops : List Char → Prop) : (pure value : Scan α).Reads [] value stops :=
  fun _ _ cursor here => ⟨cursor, rfl, here⟩

/-- One scanner after another reads one text after the other. -/
theorem bind (first : scan.Reads text value stops) (second : (next value).Reads later result ends)
    (admits : ∀ rest, ends rest → stops (later ++ rest)) :
    (scan >>= next).Reads (text ++ later) result ends := by
  intro rest ended cursor here
  obtain ⟨middle, read, there⟩ := first (later ++ rest) (admits rest ended) cursor
    (by rw [here, List.append_assoc])
  obtain ⟨after, readToo, behind⟩ := second rest ended middle there
  refine ⟨after, ?_, behind⟩
  rw [StateT.run_bind, read]
  exact readToo

theorem of_advance {next : Unit → Scan β} {c : Char} (reads : (next ()).Reads text result stops) :
    (advance >>= next).Reads (c :: text) result stops := by
  intro rest ended cursor here
  have moved : cursor.next.rest = text ++ rest := by
    rw [Cursor.next, here]
    by_cases newline : c = '\n'
    · subst newline
      rfl
    · simp
  exact reads rest ended cursor.next moved

/-- A scanner that reads nothing more comes last. -/
theorem bind_last (first : scan.Reads text value stops) (last : (next value).Reads [] result stops) :
    (scan >>= next).Reads text result stops := by
  have both := first.bind last fun rest ended => ended
  rwa [List.append_nil] at both

/-- A scanner that stays where it is gives its value to the next. -/
theorem of_still {first : Scan α}
    (still : ∀ rest, stops rest → ∀ cursor : Cursor, cursor.rest = text ++ rest →
      first.run cursor = .ok (value, cursor))
    (reads : (next value).Reads text result stops) : (first >>= next).Reads text result stops := by
  intro rest ended cursor here
  obtain ⟨after, read, behind⟩ := reads rest ended cursor here
  refine ⟨after, ?_, behind⟩
  rw [StateT.run_bind, still rest ended cursor here]
  exact read

theorem of_peek {next : Option Char → Scan β} {ahead : Option Char}
    (starts : ∀ rest, stops rest → (text ++ rest).head? = ahead)
    (reads : (next ahead).Reads text result stops) : (peek >>= next).Reads text result stops := by
  refine of_still (fun rest ended cursor here => ?_) reads
  show Except.ok (cursor.rest.head?, cursor) = _
  rw [here, starts rest ended]

theorem of_peekToken {next : Option Char → Scan β} {c : Char} (dark : isBlank c = false)
    (starts : ∀ rest, stops rest → (text ++ rest).head? = some c)
    (reads : (next (some c)).Reads text result stops) :
    (peekToken >>= next).Reads text result stops := by
  refine of_still (fun rest ended cursor here => ?_) reads
  obtain ⟨left, line, column⟩ := cursor
  obtain ⟨more, ahead⟩ := List.head?_eq_some_iff.mp (starts rest ended)
  obtain rfl : left = c :: more := Eq.trans here ahead
  simp [peekToken, skipBlanksFrom, dark, peek]
  rfl

theorem of_needToken {next : Char → Scan β} {c : Char} {missing : FaultKind}
    (dark : isBlank c = false) (starts : ∀ rest, stops rest → (text ++ rest).head? = some c)
    (reads : (next c).Reads text result stops) :
    (needToken missing >>= next).Reads text result stops := by
  unfold needToken
  rw [bind_assoc]
  exact of_peekToken dark starts reads

theorem of_fuel {next : Nat → Scan β}
    (reads : ∀ enough, text.length < enough → (next enough).Reads text result stops) :
    (fuel >>= next).Reads text result stops := by
  intro rest ended cursor here
  refine reads (cursor.rest.length + 1) ?_ rest ended cursor here
  rw [here, List.length_append]
  omega

end Reads

/-- Stepping over one character reads it. -/
theorem advance_reads (c : Char) (stops : List Char → Prop) : advance.Reads [c] () stops := by
  rw [← bind_pure advance]
  exact .of_advance (.pure () stops)

/-! ### Strings -/

/-- The digits with which a control character is written. -/
def controlDigits (code : Nat) : List Char :=
  ['0', '0', Text.hexDigit (code / 16), Text.hexDigit (code % 16)]

theorem controlDigits_spell : ∀ code < 0x20,
    Text.Utf8.size (controlDigits code) = 4 ∧ hexNumber? (controlDigits code) = some code := by
  decide

theorem hexEscape_reads {code : Nat} (control : code < 0x20) :
    hexEscape.Reads (controlDigits code) code anything := by
  obtain ⟨four, spelled⟩ := controlDigits_spell code control
  intro rest _ cursor here
  have taken : cursor.rest.take 4 = controlDigits code := by
    rw [here]
    rfl
  have steps : (do advance; advance; advance; advance; return code : Scan Nat).Reads
      (controlDigits code) code anything :=
    .of_advance (.of_advance (.of_advance (.of_advance (.pure _ _))))
  obtain ⟨after, read, behind⟩ := steps rest trivial cursor here
  refine ⟨after, ?_, behind⟩
  rw [← read]
  simp [hexEscape, taken, four, spelled]

/-- A character is written as it is, or escaped so that reading the escape gives it back. -/
theorem quoteChar_reads (c : Char) :
    (quoteChar c = [c] ∧ c ≠ '"' ∧ c ≠ '\\' ∧ ¬ c.toNat < 0x20) ∨
      ∃ escaped, quoteChar c = '\\' :: escaped ∧ (escape false).Reads escaped c anything := by
  by_cases named : c ∈ ['"', '\\', '\n', '\r', '\t', '\x08', '\x0c']
  · simp only [List.mem_cons, List.not_mem_nil, or_false] at named
    rcases named with rfl | rfl | rfl | rfl | rfl | rfl | rfl <;>
      exact .inr ⟨_, rfl, .of_peek (fun _ _ => rfl) (.of_advance (.pure _ _))⟩
  · simp only [List.mem_cons, List.not_mem_nil, or_false, not_or] at named
    obtain ⟨quotes, backslash, newline, carriage, tab, back, form⟩ := named
    by_cases control : c.toNat < 0x20
    · have written : quoteChar c = '\\' :: 'u' :: controlDigits c.toNat := by
        simp [quoteChar, controlDigits, quotes, backslash, newline, carriage, tab, back, form,
          control]
      have unit : unicodeEscape.Reads (controlDigits c.toNat) c anything := by
        refine .bind_last (hexEscape_reads control) ?_
        have low : ¬ 0xdc00 ≤ c.toNat := by omega
        have lower : c.toNat < 0xd800 := by omega
        simpa [low, lower] using Reads.pure c anything
      exact .inr ⟨_, written, .of_peek (fun _ _ => rfl) (.of_advance unit)⟩
    · refine .inl ⟨?_, quotes, backslash, control⟩
      simp [quoteChar, quotes, backslash, newline, carriage, tab, back, form, control]

/-- The rest of a string is read up to its closing quote. -/
theorem stringBody_reads (text : List Char) {enough : Nat} (fuelled : text.length < enough)
    (read : List Char) : (stringBody false enough read).Reads (text.flatMap quoteChar ++ ['"'])
      (read.reverse ++ text) anything := by
  induction text generalizing enough read with
  | nil =>
    cases enough with
    | zero => cases fuelled
    | succ enough =>
      rw [List.append_nil]
      exact .of_peek (fun _ _ => rfl) (.of_advance (.pure _ _))
  | cons c text hypothesis =>
    cases enough with
    | zero => cases fuelled
    | succ enough =>
      have rest := hypothesis (Nat.lt_of_succ_lt_succ fuelled) (c :: read)
      rw [List.reverse_cons, List.append_assoc] at rest
      rw [List.flatMap_cons, List.append_assoc]
      rcases quoteChar_reads c with ⟨written, quotes, backslash, printed⟩ | ⟨escaped, written, reads⟩
      · rw [written]
        refine .of_peek (fun _ _ => rfl) ?_
        split
        · next nothing => cases nothing
        · next quote => exact absurd (Option.some.inj quote) quotes
        · next slash => exact absurd (Option.some.inj slash) backslash
        · next same =>
          cases same
          rw [if_neg printed]
          exact .of_advance rest
      · rw [written]
        exact .of_peek (fun _ _ => rfl) (.of_advance (reads.bind rest fun _ _ => trivial))

theorem length_le_flatMap_quoteChar (text : List Char) :
    text.length ≤ (text.flatMap quoteChar).length := by
  induction text with
  | nil => exact Nat.le_refl 0
  | cons c text hypothesis =>
    have written : 0 < (quoteChar c).length := by
      rcases quoteChar_reads c with ⟨same, -⟩ | ⟨escaped, same, -⟩ <;> simp [same]
    rw [List.flatMap_cons, List.length_append, List.length_cons]
    omega

/-- A string is read back whose opening quote has been read. -/
theorem string_reads (text : String) :
    string.Reads (text.toList.flatMap quoteChar ++ ['"']) text anything := by
  refine .of_fuel fun enough fuelled => .bind_last (stringBody_reads text.toList ?_ []) ?_
  · have shorter := length_le_flatMap_quoteChar text.toList
    rw [List.length_append] at fuelled
    omega
  · simpa using Reads.pure text anything

theorem quote_toList (text : String) :
    (quote text).toList = '"' :: (text.toList.flatMap quoteChar ++ ['"']) := by
  simp [quote]

/-- **A quoted string is read back.** -/
theorem textField_reads (text : String) : textField.Reads (quote text).toList text anything := by
  rw [quote_toList]
  exact .of_needToken rfl (fun _ _ => rfl) (.of_advance (string_reads text))

/-! ### Records -/

/-- A value is read back as a field of this kind. -/
def Readable (kind : FieldKind) (value : Scalar) : Prop :=
  (scalar kind).Reads value.toJson.compact.toList value delimited

theorem readable_text (text : String) : Readable .text (.text text) := by
  have written : (Scalar.text text).toJson.compact = quote text := by
    rw [Scalar.toJson, compact]
  rw [Readable, written]
  refine Reads.mono (.bind_last (textField_reads text) ?_) fun _ _ => trivial
  exact .pure (Scalar.text text) anything

/-- A member as it is written. -/
def memberText (name : String) (value : Json) : List Char :=
  (quote name).toList ++ ':' :: value.compact.toList

/-- Members as they are written, the first of all without a comma in front. -/
def membersText : Bool → List (String × Json) → List Char
  | _, [] => []
  | first, (name, value) :: rest =>
    (if first then [] else [',']) ++ (memberText name value ++ membersText false rest)

theorem compactMembers_toList (members : List (String × Json)) :
    (compactMembers members).toList = membersText true members := by
  have onwards : ∀ (rest : List (String × Json)) (name : String) (value : Json),
      (compactMembers ((name, value) :: rest)).toList =
        memberText name value ++ membersText false rest := by
    intro rest
    induction rest with
    | nil => simp [compactMembers, memberText, membersText]
    | cons next rest hypothesis =>
      intro name value
      have later := hypothesis next.1 next.2
      simp [compactMembers, memberText, membersText, later]
  cases members with
  | nil => simp [compactMembers, membersText]
  | cons member rest =>
    obtain ⟨name, value⟩ := member
    rw [onwards, membersText]
    rfl

/-- One more member follows where one is written. -/
theorem moreMembers_reads (first : Bool) (text : List Char) {next : Bool → Scan β} {result : β}
    {stops : List Char → Prop} (reads : (next true).Reads ('"' :: text) result stops) :
    (moreMembers first >>= next).Reads ((if first then [] else [',']) ++ '"' :: text) result
      stops := by
  unfold moreMembers
  rw [bind_assoc]
  cases first with
  | true => exact .of_needToken rfl (fun _ _ => rfl) reads
  | false =>
    refine .of_needToken rfl (fun _ _ => rfl) ?_
    simp only [Bool.false_eq_true, if_false, bind_assoc]
    exact .of_advance (.of_needToken rfl (fun _ _ => rfl) reads)

/-- No member follows where the object ends. -/
theorem noMoreMembers_reads (first : Bool) {next : Bool → Scan β} {result : β}
    (reads : (next false).Reads [] result closing) :
    (moreMembers first >>= next).Reads [] result closing := by
  unfold moreMembers
  rw [bind_assoc]
  exact .of_needToken rfl (fun _ closes => closes) reads

theorem lookup_of_mem {α : Type} {pairs : List (String × α)} (distinct : (pairs.map Prod.fst).Nodup)
    {name : String} {value : α} (member : (name, value) ∈ pairs) :
    pairs.lookup name = some value := by
  induction pairs with
  | nil => cases member
  | cons pair pairs hypothesis =>
    obtain ⟨here, other⟩ := List.nodup_cons.mp distinct
    rcases List.mem_cons.mp member with rfl | member
    · exact List.lookup_cons_self
    · have differs : name ≠ pair.1 := by
        rintro rfl
        exact here (List.mem_map.mpr ⟨_, member, rfl⟩)
      rw [List.lookup_cons, beq_false_of_ne differs]
      exact hypothesis other member

theorem colon_reads : colon.Reads [':'] () anything :=
  .of_needToken rfl (fun _ _ => rfl) (advance_reads ':' anything)

theorem endObject_reads : endObject.Reads ['\x7d'] () anything :=
  .of_needToken rfl (fun _ _ => rfl) (advance_reads '\x7d' anything)

theorem length_le_membersText (first : Bool) (members : List (String × Json)) :
    members.length ≤ (membersText first members).length := by
  induction members generalizing first with
  | nil => exact Nat.zero_le _
  | cons member members hypothesis =>
    have rest := hypothesis false
    simp only [membersText, memberText, quote_toList, List.length_append, List.length_cons]
    omega

theorem membersText_delimits (members : List (String × Json)) (rest : List Char)
    (closes : closing rest) : delimited (membersText false members ++ rest) := by
  cases members with
  | nil => exact .inr closes
  | cons member members => exact .inl rfl

/-- A member is read into the fields found so far. -/
theorem memberFields_member {schema : Schema} {name : String} {kind : FieldKind} {value : Scalar}
    {found fields : List (String × Scalar)} {enough : Nat} {members : List (String × Json)}
    (listed : schema.lookup name = some kind) (missing : found.lookup name = none)
    (readable : Readable kind value)
    (rest : (memberFields schema enough false ((name, value) :: found)).Reads
      (membersText false members) fields closing) (first : Bool) :
    (memberFields schema (enough + 1) first found).Reads
      (membersText first ((name, value.toJson) :: members)) fields closing := by
  rw [membersText, memberText, quote_toList, memberFields, List.cons_append, List.cons_append,
    List.append_assoc]
  refine moreMembers_reads first _ (.of_advance ((string_reads name).bind ?_ fun _ _ => trivial))
  simp only [listed, missing, Option.isSome_none, Bool.false_eq_true, if_false]
  exact colon_reads.bind (readable.bind rest (membersText_delimits members)) fun _ _ => trivial

/-- Members are read into the fields found so far, the last one first. -/
theorem memberFields_reads {schema remaining : Schema} {values : List Scalar} {enough : Nat}
    (readable : List.Forall₂ (fun field value => Readable field.2 value) remaining values)
    (known : ∀ field ∈ remaining, schema.lookup field.1 = some field.2)
    (distinct : (remaining.map Prod.fst).Nodup) (found : List (String × Scalar))
    (fresh : ∀ field ∈ remaining, found.lookup field.1 = none) (first : Bool)
    (fuelled : remaining.length < enough) :
    (memberFields schema enough first found).Reads
      (membersText first ((remaining.map Prod.fst).zip (values.map Scalar.toJson)))
      (((remaining.map Prod.fst).zip values).reverse ++ found) closing := by
  induction readable generalizing enough found first with
  | nil =>
    cases enough with
    | zero => cases fuelled
    | succ enough => exact noMoreMembers_reads first (.pure _ _)
  | @cons field value remaining values reads others hypothesis =>
    cases enough with
    | zero => cases fuelled
    | succ enough =>
      obtain ⟨here, distinct⟩ := List.nodup_cons.mp distinct
      have rest := hypothesis (fun other member => known other (List.mem_cons_of_mem _ member))
        distinct ((field.1, value) :: found) (fun other member => ?_) false
        (Nat.lt_of_succ_lt_succ fuelled)
      · rw [List.map_cons, List.map_cons, List.zip_cons_cons, List.zip_cons_cons, List.reverse_cons,
          List.append_assoc]
        exact memberFields_member (known field List.mem_cons_self) (fresh field List.mem_cons_self)
          reads rest first
      · have differs : other.1 ≠ field.1 := fun same =>
          here (same ▸ List.mem_map.mpr ⟨other, member, rfl⟩)
        rw [List.lookup_cons, beq_false_of_ne differs]
        exact fresh other (List.mem_cons_of_mem _ member)

/-- Fields that are all there are put into the declared order. -/
theorem inOrder_of_found {found : List (String × Scalar)} {schema : Schema} {values : List Scalar}
    (present : List.Forall₂ (fun field value => found.lookup field.1 = some value) schema values) :
    inOrder found schema = pure values := by
  induction present with
  | nil => rfl
  | @cons field value schema values here _ hypothesis =>
    unfold inOrder
    simp only [here, hypothesis, pure_bind]

/-- **A record is read back** if its names differ and each value is read back as a field of its
kind. -/
theorem fields_reads {schema : Schema} {values : List Scalar}
    (distinct : (schema.map Prod.fst).Nodup)
    (readable : List.Forall₂ (fun field value => Readable field.2 value) schema values) :
    (fields schema).Reads (record (schema.map Prod.fst) values).compact.toList values anything := by
  have written : (record (schema.map Prod.fst) values).compact.toList =
      '\x7b' :: (membersText true ((schema.map Prod.fst).zip (values.map Scalar.toJson)) ++
        ['\x7d']) := by
    rw [record, compact, String.toList_append, String.toList_append, compactMembers_toList]
    rfl
  have found : ((schema.map Prod.fst).zip values).map Prod.fst = schema.map Prod.fst :=
    List.map_fst_zip (Nat.le_of_eq ((List.length_map _).trans readable.length_eq))
  rw [written]
  refine .of_needToken rfl (fun _ _ => rfl) (.of_advance (.of_fuel fun enough fuelled => ?_))
  have shorter : schema.length < enough := by
    have least := length_le_membersText true
      ((schema.map Prod.fst).zip (values.map Scalar.toJson))
    have same := readable.length_eq
    rw [List.length_zip, List.length_map, List.length_map, same, Nat.min_self] at least
    rw [List.length_append] at fuelled
    omega
  refine (memberFields_reads readable (fun field member => lookup_of_mem distinct member) distinct []
    (fun _ _ => rfl) true shorter).bind ?_ fun _ _ => rfl
  have present : List.Forall₂ (fun field value =>
      (((schema.map Prod.fst).zip values).reverse ++ []).lookup field.1 = some value)
      schema values := by
    refine List.forall₂_iff_zip.mpr ⟨readable.length_eq, fun {field value} member => ?_⟩
    rw [List.append_nil]
    refine lookup_of_mem ?_ (List.mem_reverse.mpr ?_)
    · rw [List.map_reverse, found]
      exact (List.reverse_perm _).nodup_iff.mpr distinct
    · rw [List.zip_map_left]
      exact List.mem_map.mpr ⟨(field, value), member, rfl⟩
  rw [inOrder_of_found present, pure_bind]
  exact .bind_last endObject_reads (.pure values anything)

end Scan

open Scan in
/-- A text is scanned to the value that is read from it. -/
theorem scanText_of_reads {α : Type} {scan : Scan α} {text : String} {value : α}
    (reads : scan.Reads text.toList value anything) : scanText scan text = .ok value := by
  obtain ⟨after, read, behind⟩ := reads [] trivial (Cursor.ofText text) (List.append_nil _).symm
  obtain ⟨rest, line, column⟩ := after
  obtain rfl : rest = [] := behind
  have ends : (do let value ← scan; finish; return value : Scan α).run (Cursor.ofText text) =
      .ok (value, ⟨[], line, column⟩) := by
    rw [StateT.run_bind, read]
    rfl
  rw [scanText, StateT.run'_eq, ends]
  rfl

end Workyard.Json
