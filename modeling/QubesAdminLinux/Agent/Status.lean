import Mathlib.Tactic.Common

/-! # Status messages

What a worker tells the progress display about its qube.  A `StatusInfo` can only be built in its
three legal forms (pending, updating with a number, done with a final status), so the assertions of
the display about the payload of a message hold by construction.

The type `ν` of percentages is a parameter: workers send floating-point numbers, statements about
exact arithmetic use any commutative group. -/

namespace QubesAdminLinux

/-- Phase of the update of a qube. -/
inductive Status
  | pending
  | updating
  | done
  deriving DecidableEq, Repr

/-- The text shown for a phase. -/
def Status.value : Status → String
  | .pending => "pending"
  | .updating => "updating"
  | .done => "done"

/-- Outcome of the update of a qube. -/
inductive FinalStatus
  | success
  | error
  | cancelled
  | noUpdates
  | unknown
  deriving DecidableEq, Repr

namespace FinalStatus

/-- The text shown for an outcome. -/
def value : FinalStatus → String
  | .success => "success"
  | .error => "error"
  | .cancelled => "cancelled"
  | .noUpdates => "no updates"
  | .unknown => "unknown"

/-- `FinalStatus(text)`: the outcome with the given text, `none` where the lookup raises. -/
def ofValue? (text : String) : Option FinalStatus :=
  if text = "success" then some .success
  else if text = "error" then some .error
  else if text = "cancelled" then some .cancelled
  else if text = "no updates" then some .noUpdates
  else if text = "unknown" then some .unknown
  else none

/-- Truth value of an outcome: only a success is truthy. -/
def toBool (status : FinalStatus) : Bool := status = .success

/-- Looking up the text of an outcome gives the outcome back. -/
@[simp] theorem ofValue?_value (status : FinalStatus) : ofValue? status.value = some status := by
  cases status <;> decide

/-- The truthy outcome is the success. -/
@[simp] theorem toBool_iff (status : FinalStatus) : status.toBool = true ↔ status = .success := by
  rw [toBool, decide_eq_true_iff]

end FinalStatus

variable {ν : Type}

/-- A status message about the qube `qname`. -/
inductive StatusInfo (ν : Type)
  /-- The update has not started. -/
  | pending (qname : String)
  /-- The update has reached `percent`. -/
  | updating (qname : String) (percent : ν)
  /-- The update has ended. -/
  | done (qname : String) (status : FinalStatus)
  deriving DecidableEq

namespace StatusInfo

/-- The qube a message is about. -/
def qname : StatusInfo ν → String
  | .pending q => q
  | .updating q _ => q
  | .done q _ => q

/-- The phase a message announces. -/
def status : StatusInfo ν → Status
  | .pending _ => .pending
  | .updating _ _ => .updating
  | .done _ _ => .done

/-- The same message about another qube. -/
def withQname (name : String) : StatusInfo ν → StatusInfo ν
  | .pending _ => .pending name
  | .updating _ percent => .updating name percent
  | .done _ status => .done name status

end StatusInfo

/-- A line of output of a qube. -/
structure FormatedLine where
  /-- The qube. -/
  qname : String
  /-- `out` or `err`. -/
  stream : String
  /-- The text. -/
  message : String
  deriving DecidableEq, Repr

/-- The text printed for a line of output. -/
def FormatedLine.str (line : FormatedLine) : String :=
  line.qname ++ ":" ++ line.stream ++ ": " ++ line.message

/-- What can be put on a status notifier. -/
inductive Message (ν : Type)
  /-- A status message. -/
  | status (info : StatusInfo ν)
  /-- A line of output. -/
  | line (formated : FormatedLine)
  deriving DecidableEq

namespace Message

/-- The qube a message is about. -/
def qname : Message ν → String
  | .status info => info.qname
  | .line formated => formated.qname

/-- `StatusNotifierWrapper.put` masks the name of the qube before passing a message on. -/
def withQname (name : String) : Message ν → Message ν
  | .status info => .status (info.withQname name)
  | .line formated => .line { formated with qname := name }

/-- The final status announced by a message, if it is a DONE message. -/
def doneStatus? : Message ν → Option FinalStatus
  | .status (.done _ final) => some final
  | _ => none

/-- A line of output is no final status. -/
@[simp] theorem doneStatus?_line (formated : FormatedLine) :
    (line formated : Message ν).doneStatus? = none := rfl

/-- A qube that waits has no final status. -/
@[simp] theorem doneStatus?_pending (q : String) :
    (status (.pending q) : Message ν).doneStatus? = none := rfl

/-- Nor has one that is being updated. -/
@[simp] theorem doneStatus?_updating (q : String) (percent : ν) :
    (status (.updating q percent)).doneStatus? = none := rfl

/-- The final status of a qube that is done. -/
@[simp] theorem doneStatus?_done (q : String) (final : FinalStatus) :
    (status (.done q final) : Message ν).doneStatus? = some final := rfl

/-- Whether a message announces the end of an update. -/
def isDone (message : Message ν) : Bool := message.doneStatus?.isSome

/-- Masking the name of the qube does not change what is announced. -/
@[simp] theorem doneStatus?_withQname (name : String) (message : Message ν) :
    (message.withQname name).doneStatus? = message.doneStatus? := by
  cases message with
  | status info => cases info <;> rfl
  | line formated => rfl

/-- A masked message is about the masking name. -/
@[simp] theorem qname_withQname (name : String) (message : Message ν) :
    (message.withQname name).qname = name := by
  cases message with
  | status info => cases info <;> rfl
  | line formated => rfl

end Message

end QubesAdminLinux
