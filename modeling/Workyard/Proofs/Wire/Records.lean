/-
**What one side writes the other reads.**

A record is written by one side and read by the other, each by its own list of names. A record that
its kinds of fields can hold is read back whole, in the order of its fields; parameters are read
back by the method, which takes one string or nothing.

* `read_record`: a record is read back into the values it was written from;
* `written_is_read`: every answer, call, job and counter is read as it was written.
-/

import Workyard.Proofs.Json.Numbers
import Workyard.Proofs.Wire.Calls

namespace Workyard

open Json

/-! ### Values of the wanted size -/

/-- The counts have 64 bits. -/
def Tally.Fits (tally : Tally) : Prop := tally.ok ≤ Text.maxU64 ∧ tally.failed ≤ Text.maxU64

/-- The numbers of a snapshot. -/
def Stats.counts (stats : Stats) : List Nat :=
  [stats.outstanding, stats.queued, stats.inFlight, stats.ok, stats.failed, stats.reposted]

@[inherit_doc Tally.Fits]
def Stats.Fits (stats : Stats) : Prop := ∀ count ∈ stats.counts, count ≤ Text.maxU64

@[inherit_doc Tally.Fits]
def Wire.Summary.Fits (summary : Wire.Summary) : Prop :=
  summary.succeeded ≤ Text.maxU64 ∧ summary.failed ≤ Text.maxU64 ∧ summary.completed ≤ Text.maxU64

/-- The exit status, if there is one, has 32 bits with its sign. -/
def Wire.FailureDetail.Fits (detail : Wire.FailureDetail) : Prop :=
  (Scalar.status detail.exitCode).Fits

/-! ### Records -/

theorem readable_of_kinds {schema : Schema} {values : List Scalar}
    (kinds : schema.map Prod.snd = values.map Scalar.kind) (fit : ∀ value ∈ values, value.Fits) :
    List.Forall₂ (fun field value => Scan.Readable field.2 value) schema values := by
  induction schema generalizing values with
  | nil =>
    obtain rfl : values = [] := List.map_eq_nil_iff.mp kinds.symm
    exact .nil
  | cons field schema hypothesis =>
    cases values with
    | nil => cases kinds
    | cons value values =>
      obtain ⟨kind, kinds⟩ := List.cons.inj kinds
      refine .cons ?_ (hypothesis kinds fun other member =>
        fit other (List.mem_cons_of_mem _ member))
      rw [kind]
      exact Scalar.readable_of_fits (fit value List.mem_cons_self)

/-- **A record is read back** that is made again from the values it was written with. -/
theorem read_record {α : Type} {schema : Schema} {values : List Scalar}
    {make : List Scalar → Scan α} {result : α} (distinct : (schema.map Prod.fst).Nodup)
    (kinds : schema.map Prod.snd = values.map Scalar.kind) (fit : ∀ value ∈ values, value.Fits)
    (made : make values = pure result) :
    scanText (Scan.fields schema >>= make) (record (schema.map Prod.fst) values).compact =
      .ok result := by
  refine scanText_of_reads ?_
  refine (Scan.fields_reads distinct (readable_of_kinds kinds fit)).bind_last ?_
  rw [made]
  exact .pure result Scan.anything

/-- What is written for a value is read as the same value. -/
def ReadBack {α : Type} (toJson : α → Json) (scan : Scan α) (value : α) : Prop :=
  scanText scan (toJson value).compact = .ok value

theorem Job.read_back (job : Job) : ReadBack Job.toJson Job.scan job :=
  read_record (by decide) rfl (by simp [Scalar.Fits]) rfl

theorem Tally.read_back {tally : Tally} (fits : tally.Fits) :
    ReadBack Tally.toJson Tally.scan tally :=
  read_record (by decide) rfl (by simpa [Scalar.Fits, Tally.Fits] using fits) rfl

theorem Stats.read_back {stats : Stats} (fits : stats.Fits) :
    ReadBack Stats.toJson Stats.scan stats :=
  read_record (by decide) rfl
    (by simpa [Scalar.Fits, Stats.Fits, Stats.counts] using fits) rfl

theorem command_read_back (command : String) : ReadBack Json.string Scan.command command := by
  refine scanText_of_reads ?_
  rw [compact]
  exact Scan.textField_reads command

namespace Wire

theorem Pong.read_back (pong : Pong) : ReadBack Pong.toJson Pong.scan pong :=
  read_record (by decide) rfl (by simp [Scalar.Fits]) rfl

theorem Registered.read_back (registered : Registered) :
    ReadBack Registered.toJson Registered.scan registered :=
  read_record (by decide) rfl (by simp [Scalar.Fits]) rfl

theorem Summary.read_back {summary : Summary} (fits : summary.Fits) :
    ReadBack Summary.toJson Summary.scan summary :=
  read_record (by decide) rfl (by simpa [Scalar.Fits, Summary.Fits] using fits) rfl

theorem FailureDetail.read_back {detail : FailureDetail} (fits : detail.Fits) :
    ReadBack FailureDetail.toJson FailureDetail.scan detail := by
  have fit : ∀ value ∈ [Scalar.status detail.exitCode, Scalar.text detail.output], value.Fits := by
    intro value member
    rcases List.mem_pair.mp member with rfl | rfl
    · exact fits
    · trivial
  exact read_record (by decide) rfl fit rfl

/-! ### Calls -/

/-- The string that a service finds in a call: the one that was put in, or none if the method takes
none. -/
def Method.received (method : Method) (argument : String) : String :=
  if method.argument?.isSome then argument else ""

theorem parameters_read_back (method : Method) (argument : String) :
    scanText method.scan (Call.parameters ⟨method, argument⟩).compact =
      .ok ⟨method, method.received argument⟩ := by
  cases takes : method.argument? with
  | some name =>
    have read := scan_parameters ⟨method, argument⟩ (by simp [takes])
    simpa [Method.received, takes] using read
  | none =>
    have same : Call.parameters ⟨method, argument⟩ = Call.parameters ⟨method, ""⟩ := by
      simp [Call.parameters, takes]
    have read := scan_parameters ⟨method, ""⟩ (fun _ => rfl)
    simpa [Method.received, takes, same] using read

/-- The forms that no parameters can have: null, an empty list, an empty object. -/
def noParameters : List Json := [.null, .list [], .object []]

theorem noParameters_reads {parameters : Json} (blank : parameters ∈ noParameters) :
    ∃ found, (Scan.optionalFields []).Reads parameters.compact.toList found Scan.anything := by
  simp only [noParameters, List.mem_cons, List.not_mem_nil, or_false] at blank
  rcases blank with rfl | rfl | rfl
  · refine ⟨none, .of_peekToken rfl (fun _ _ => rfl) (.of_advance ?_)⟩
    exact (Scan.word_reads ['u', 'l', 'l'] Scan.anything).bind_last (.pure none Scan.anything)
  · exact ⟨some [], nothing_reads⟩
  · have empty : (Scan.fields []).Reads ['\x7b', '\x7d'] [] Scan.anything :=
      @Scan.fields_reads [] [] List.nodup_nil .nil
    refine ⟨some [], ?_⟩
    exact .of_peekToken rfl (fun _ _ => rfl) (empty.bind_last (.pure (some []) Scan.anything))

theorem noParameters_read_back {method : Method} (takesNothing : method.argument? = none)
    {parameters : Json} (blank : parameters ∈ noParameters) :
    scanText method.scan parameters.compact = .ok ⟨method, ""⟩ := by
  obtain ⟨found, reads⟩ := noParameters_reads blank
  refine scanText_of_reads ?_
  simp only [Method.scan, field_eq_argument, takesNothing]
  exact reads.bind_last (.pure _ Scan.anything)

/-! ### All of them -/

/-- **What one side writes the other reads.** Every answer is read as it was written, every call
brings its string or none, and commands, jobs and counters survive being written and read. -/
theorem written_is_read :
    (∀ pong, ReadBack Pong.toJson Pong.scan pong) ∧
    (∀ registered, ReadBack Registered.toJson Registered.scan registered) ∧
    (∀ submitted, ReadBack Submitted.toJson Submitted.scan submitted) ∧
    (∀ summary : Summary, summary.Fits → ReadBack Summary.toJson Summary.scan summary) ∧
    (∀ stats : Stats, stats.Fits → ReadBack Stats.toJson Stats.scan stats) ∧
    (∀ detail : FailureDetail, detail.Fits →
      ReadBack FailureDetail.toJson FailureDetail.scan detail) ∧
    (∀ method argument, scanText method.scan (Call.parameters ⟨method, argument⟩).compact =
      .ok ⟨method, method.received argument⟩) ∧
    (∀ method : Method, method.argument? = none → ∀ parameters ∈ noParameters,
      scanText method.scan parameters.compact = .ok ⟨method, ""⟩) ∧
    (∀ command, ReadBack Json.string Scan.command command) ∧
    (∀ job, ReadBack Job.toJson Job.scan job) ∧
    (∀ tally : Tally, tally.Fits → ReadBack Tally.toJson Tally.scan tally) :=
  ⟨Pong.read_back, Registered.read_back, scan_submitted, fun _ => Summary.read_back,
    fun _ => Stats.read_back, fun _ => FailureDetail.read_back, parameters_read_back,
    fun _ takesNothing _ => noParameters_read_back takesNothing, command_read_back, Job.read_back,
    fun _ => Tally.read_back⟩

/-- Characters that are escaped, and one beyond sixteen bits. -/
def trickyText : String := String.ofList ['"', '\\', '\x00', '\n', 'é', Char.ofNat 0x1f600]

/-- Numbers at the ends of their ranges are read as they were written, and so are tricky texts. -/
theorem written_is_read_at_the_ends :
    ReadBack Summary.toJson Summary.scan ⟨Text.maxU64, 0, Text.maxU64⟩ ∧
    ReadBack Stats.toJson Stats.scan
      { outstanding := Text.maxU64, queued := Text.maxU64, inFlight := 0, ok := Text.maxU64
        failed := 10, reposted := 1, gotEof := true } ∧
    ReadBack FailureDetail.toJson FailureDetail.scan ⟨some (-(Int.pow 2 31)), trickyText⟩ ∧
    ReadBack FailureDetail.toJson FailureDetail.scan ⟨none, ""⟩ ∧
    scanText Method.stats.scan Json.null.compact = .ok ⟨.stats, ""⟩ ∧
    ReadBack Tally.toJson Tally.scan ⟨Text.maxU64, 0⟩ := by
  obtain ⟨-, -, -, summaries, snapshots, details, -, blanks, -, -, tallies⟩ := written_is_read
  refine ⟨summaries _ ?_, snapshots _ ?_, details _ ?_, details _ trivial,
    blanks .stats rfl .null List.mem_cons_self, tallies _ ?_⟩
  · simp [Summary.Fits]
  · simp [Stats.Fits, Stats.counts, Text.maxU64]
  · exact ⟨by decide, by decide⟩
  · simp [Tally.Fits]

end Wire

end Workyard
