/-
**Calls and their answers are read back.**

A service reads from the parameters of a call what the client has put into them, whatever the one
string that a method takes; a client reads the identifier that a submission was given.

* `scan_parameters`: the call that a service reads;
* `scan_submitted`: the identifier that a client reads.
-/

import Workyard.Proofs.Json.RoundTrip
import Workyard.Wire.Call
import Workyard.Wire.Reply

namespace Workyard.Wire

open Json Json.Scan

/-- A service looks for the string of a method where a client has put it. -/
theorem field_eq_argument (method : Method) : method.field? = method.argument? := by
  cases method <;> rfl

/-- The one string of a method is read by its name. -/
theorem argument_reads (name argument : String) :
    (Scan.argument name).Reads (record [name] [.text argument]).compact.toList argument
      anything := by
  have found : (fields [(name, .text)]).Reads (record [name] [.text argument]).compact.toList
      [.text argument] anything :=
    fields_reads (List.pairwise_singleton _ name) (.cons (readable_text argument) .nil)
  exact found.bind_last (.pure argument anything)

/-- A method that takes nothing reads an empty list. -/
theorem nothing_reads :
    (optionalFields []).Reads (Json.list []).compact.toList (some []) anything := by
  have written : (Json.list []).compact.toList = ['[', ']'] := by
    rw [compact, compactElements]
    rfl
  have ends : endList.Reads [']'] () anything :=
    .of_needToken rfl (fun _ _ => rfl) (advance_reads ']' anything)
  have empty : (fields []).Reads ['[', ']'] [] anything := by
    refine .of_needToken rfl (fun _ _ => rfl) (.of_advance ?_)
    rw [listFields, pure_bind]
    exact ends.bind_last (.pure [] anything)
  rw [written]
  exact .of_peekToken rfl (fun _ _ => rfl) (empty.bind_last (.pure (some []) anything))

/-- **A call is read as it was made**, if it brings a string only where the method takes one. -/
theorem scan_parameters (call : Call)
    (plain : call.method.argument? = none → call.argument = "") :
    scanText call.method.scan call.parameters.compact = .ok call := by
  obtain ⟨method, argument⟩ := call
  refine scanText_of_reads ?_
  cases method with
  | execute | register | submit =>
    exact (argument_reads _ argument).bind_last (.pure _ anything)
  | ping | endOfInput | stats =>
    obtain rfl : argument = "" := plain rfl
    exact nothing_reads.bind_last (.pure _ anything)

/-- **The identifier of a submission is read as it was given.** -/
theorem scan_submitted (submitted : Submitted) :
    scanText Submitted.scan submitted.toJson.compact = .ok submitted := by
  have found : (fields [("job_id", .text)]).Reads submitted.toJson.compact.toList
      [.text submitted.jobId] anything :=
    fields_reads (List.pairwise_singleton _ "job_id") (.cons (readable_text submitted.jobId) .nil)
  exact scanText_of_reads (found.bind_last (.pure submitted anything))

end Workyard.Wire
