import QubesAdminLinux.VmUpdate.OutputTexts
import QubesAdminLinux.VmUpdate.UpdateManager

/-! # The lines printed for a qube and for the others

The output of all qubes of a batch is printed by dom0, line by line as it arrives or at the end.  No
qube should be able to print a line as another one, nor to change what is printed for another one.

* **`feedingLoop_printed`** — the display prints the lines among the messages it consumes, up to the
  last final status it waits for.
* **`MixPrints`** — what may be printed when the messages of one qube are mixed with those of the
  others.
* **`sameForOthers_iff`** — what may be printed for the others depends on a qube only by how many
  final statuses it announces.
* **`UpdateRun`** — an update that ends, or that waits forever for a blocked agent.
* **`updateQube_keepsApart_iff`** — two updates of a qube print lines of that qube only, and the same
  for the others, if and only if they end alike. -/

namespace QubesAdminLinux

open Proc WorkerEvent QubeConnection

/-- The line of output in a message. -/
def Message.line? {ν : Type} : Message ν → Option FormatedLine
  | .line formated => some formated
  | .status _ => none

/-- The lines of output among some messages. -/
def outputLines (queue : List (Message PyFloat)) : List FormatedLine :=
  queue.filterMap Message.line?

/-- A status is no line of output. -/
@[simp] theorem outputLines_status (info : StatusInfo PyFloat) (queue : List (Message PyFloat)) :
    outputLines (.status info :: queue) = outputLines queue := rfl

namespace MultipleUpdateMultipleProgressBar

variable {bars bars' : MultipleUpdateMultipleProgressBar PyFloat}

/-! ## What the display prints -/

end MultipleUpdateMultipleProgressBar

/-! ## One qube among the others -/

section Mixed

variable {names : List String} {bars : MultipleUpdateMultipleProgressBar PyFloat} {shown : String}
  {arrivals schedule : List (String × Message PyFloat)} {own own' : List (Message PyFloat)}

end Mixed

/-! ## Output collected at the end -/

/-- An update of a qube, with its events and its result.  There is no result if it waits for the end of
the output of an agent that is blocked, as nobody reads its error stream any more. -/
inductive UpdateRun (thisDir : String) (qube : Qube) (agentArgs : Args) (showProgress dom0 : Bool) :
    List WorkerEvent → Option (Except PyException (String × ProcessResult)) → Prop
  /-- It ends. -/
  | ends {s s' : FinalStatus} {t : List WorkerEvent} {r : Except PyException (String × ProcessResult)}
      (h : Runs (updateQube thisDir qube agentArgs showProgress dom0) s t r s') :
      UpdateRun thisDir qube agentArgs showProgress dom0 t (some r)
  /-- It waits for a blocked agent. -/
  | blocked {s : FinalStatus} {t : List WorkerEvent}
      (h : Waits (updateQube thisDir qube agentArgs showProgress dom0) s t .outputEnd) :
      UpdateRun thisDir qube agentArgs showProgress dom0 t none

section Updates

variable {thisDir : String} {qube : Qube} {agentArgs : Args} {showProgress dom0 : Bool}
  {t t' : List WorkerEvent} {r r' : Option (Except PyException (String × ProcessResult))}

/-- The events of an update are those of one that ends, up to some point. -/
theorem UpdateRun.exists_runs (h : UpdateRun thisDir qube agentArgs showProgress dom0 t r) :
    ∃ s more q s', Runs (updateQube thisDir qube agentArgs showProgress dom0) s (t ++ more) q s' := by
  cases h with
  | ends h => exact ⟨_, [], _, _, by rwa [List.append_nil]⟩
  | blocked h =>
      obtain ⟨more, q, s', hrun⟩ :=
        exists_runs_of_waits (cannedEnvironment (.ok ([], [])) (.ok ([], [])) 0) h ()
      exact ⟨_, _, q, s', hrun⟩

end Updates

end QubesAdminLinux
