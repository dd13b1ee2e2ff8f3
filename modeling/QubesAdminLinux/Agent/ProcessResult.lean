import QubesAdminLinux.Lib.Text
import Mathlib.Tactic.Common

/-! # Exit codes and process results

The exit codes shared by the updater in dom0 and the agent inside a qube, and `ProcessResult`, the
triple (exit code, stdout, stderr) that both of them accumulate over the commands they run.

* **`Exit`** — the documented exit codes; `100` is reserved for "no updates" and is numerically larger
  than every error code of the agent.
* **`sanitizeOutput`** — decoding of untrusted bytes to printable ASCII.
* **`ProcessResult.iadd`** — merging of two results: the maximum of the codes, the concatenation of
  the texts; `iaddPrints` is what the merge prints when the left operand is in real-time mode.
* **`ProcessResult.accumulate`** — a whole sequence of merges; `accumulate_code_le_iff` characterises
  the resulting code. -/

namespace QubesAdminLinux

namespace Exit

/-- Success. -/
@[simp] def ok : Int := 0

/-- Success without any update installed. -/
@[simp] def okNoUpdates : Int := 100

/-- General error. -/
@[simp] def err : Int := 1

/-- Some TemplateVMs could not be shut down. -/
@[simp] def errShutdownTmpl : Int := 11

/-- Some AppVMs could not be shut down. -/
@[simp] def errShutdownApp : Int := 12

/-- Some AppVMs could not be started. -/
@[simp] def errStartApp : Int := 13

/-- The codes an agent may report to dom0. -/
@[simp] def vmHandled : List Int := [0, 100, 21, 22, 23, 24, 25]

/-- General error inside the updated qube. -/
@[simp] def errVm : Int := 21

/-- Installing requirements failed. -/
@[simp] def errVmPre : Int := 22

/-- Refreshing the package lists failed. -/
@[simp] def errVmRefresh : Int := 23

/-- Installing the updates failed. -/
@[simp] def errVmUpdate : Int := 24

/-- Cleaning up failed. -/
@[simp] def errVmCleanup : Int := 25

/-- Any other error inside the updated qube. -/
@[simp] def errVmUnhandled : Int := 26

/-- Communication with the qube was interrupted. -/
@[simp] def errQrexex : Int := 40

/-- Wrong value of an option. -/
@[simp] def errUsage : Int := 64

/-- Interrupted by the user. -/
@[simp] def sigint : Int := 130

end Exit

/-- Keep the printable ASCII characters of untrusted bytes; newlines survive unless `single`. -/
def sanitizeOutput (untrusted : Bytes) (single : Bool) : String :=
  String.ofList <|
    ((untrusted.filter fun b => b.toNat < 0x80).map fun b => Char.ofNat b.toNat).filter fun c =>
      (0x20 ≤ c.toNat && c.toNat ≤ 0x7e) || (c = '\n' && !single)

/-- Texts written to the standard streams, oldest first, each with the line end of `print`. -/
structure Console where
  /-- Written to the standard output. -/
  stdout : List String := []
  /-- Written to the standard error output. -/
  stderr : List String := []
  deriving DecidableEq, Repr

/-- The output of two consecutive pieces of code. -/
def Console.append (first second : Console) : Console :=
  ⟨first.stdout ++ second.stdout, first.stderr ++ second.stderr⟩

/-- `if text: print(text)`. -/
def printNonempty (text : String) : List String := if text = "" then [] else [text]

/-- Representation of a system process output: exit code, output, error output. -/
structure ProcessResult where
  /-- The exit code. -/
  code : Int := Exit.ok
  /-- The sanitised standard output. -/
  out : String := ""
  /-- The sanitised error output. -/
  err : String := ""
  /-- Whether merged results are printed as they come. -/
  realtime : Bool := false
  /-- Whether the texts have been printed already. -/
  posted : Bool := false
  deriving DecidableEq, Repr

namespace ProcessResult

/-- `ProcessResult(realtime=True)`: empty, printing what is merged into it. -/
def realtimeEmpty : ProcessResult := { realtime := true, posted := true }

/-- Build a result from the untrusted outputs of a process; a missing output counts as empty. -/
def fromUntrustedOutErr (untrustedOut untrustedErr : Option Bytes) : ProcessResult where
  code := Exit.ok
  out := sanitizeOutput (untrustedOut.getD []) false
  err := sanitizeOutput (untrustedErr.getD []) false

/-- `self += other`, as far as `self` is concerned. -/
def iadd (self other : ProcessResult) : ProcessResult :=
  { self with
    code := max self.code other.code
    out := self.out ++ other.out
    err := self.err ++ other.err }

/-- What `self += other` prints. -/
def iaddPrints (self other : ProcessResult) : Console :=
  if self.realtime && !other.posted then ⟨printNonempty other.out, printNonempty other.err⟩ else {}

/-- `self + other`: the same merge on a copy. -/
def add (self other : ProcessResult) : ProcessResult := self.iadd other

/-- Truth value of a result: an error is truthy. -/
def toBool (self : ProcessResult) : Bool := self.code != 0

/-- A line of the output that starts with `err`, in any case, makes the result an error. -/
def errorFromMessages (self : ProcessResult) : ProcessResult :=
  if (splitLines (self.out ++ "\n" ++ self.err)).any
      (fun line => startsWith (String.ofList (line.toList.map Char.toLower)) "err") then
    { self with code := Exit.err }
  else self

/-- The code of two results is the larger one. -/
@[simp] theorem iadd_code (self other : ProcessResult) :
    (self.iadd other).code = max self.code other.code := rfl

/-- A result is truthy exactly when its code is not zero. -/
theorem toBool_iff (self : ProcessResult) : self.toBool = true ↔ self.code ≠ 0 := by
  rw [toBool, bne_iff_ne]

/-- A result is falsy exactly when its code is zero. -/
theorem toBool_eq_false (self : ProcessResult) : self.toBool = false ↔ self.code = 0 := by
  rw [toBool, bne_eq_false_iff_eq]

/-! ## Sequences of merges -/

/-- The two ways to merge a result into an accumulator. -/
inductive MergeOp
  /-- `acc += other`. -/
  | iadd
  /-- `acc = acc + other`. -/
  | add
  deriving DecidableEq, Repr

/-- One merge. -/
def merge : MergeOp → ProcessResult → ProcessResult → ProcessResult
  | .iadd, self, other => self.iadd other
  | .add, self, other => self.add other

/-- Merge a sequence of results into an accumulator, each by its own operator. -/
def accumulate (self : ProcessResult) (operands : List (MergeOp × ProcessResult)) : ProcessResult :=
  operands.foldl (fun acc operand => merge operand.1 acc operand.2) self

/-- Both operators take the maximum of the codes. -/
theorem merge_code (op : MergeOp) (self other : ProcessResult) :
    (merge op self other).code = max self.code other.code := by
  cases op with
  | iadd => rfl
  | add => rfl

/-- The accumulated code is the least upper bound of the codes merged. -/
theorem accumulate_code_le_iff (self : ProcessResult) (operands : List (MergeOp × ProcessResult))
    (bound : Int) :
    (accumulate self operands).code ≤ bound
      ↔ self.code ≤ bound ∧ ∀ operand ∈ operands, operand.2.code ≤ bound := by
  induction operands generalizing self with
  | nil => simp [accumulate]
  | cons operand rest ih =>
      have h := ih (merge operand.1 self operand.2)
      rw [accumulate] at h ⊢
      rw [List.foldl_cons, h, merge_code, max_le_iff, List.forall_mem_cons, and_assoc]

/-- An accumulation started from the empty result has a non-negative code. -/
theorem accumulate_code_nonneg (operands : List (MergeOp × ProcessResult)) :
    0 ≤ (accumulate {} operands).code := by
  have h := (accumulate_code_le_iff {} operands (accumulate {} operands).code).mp le_rfl
  exact h.1

/-- Started from the empty result, exactly the positive codes make the accumulation truthy: the
start value `0` absorbs the negative ones. -/
theorem accumulate_toBool_iff (operands : List (MergeOp × ProcessResult)) :
    (accumulate {} operands).toBool = true ↔ ∃ operand ∈ operands, 0 < operand.2.code := by
  have h := accumulate_code_le_iff {} operands 0
  have h₀ := accumulate_code_nonneg operands
  rw [toBool_iff]
  constructor
  · intro hne
    by_contra hall
    push Not at hall
    exact hne (le_antisymm (h.mpr ⟨le_rfl, hall⟩) h₀)
  · rintro ⟨operand, hmem, hpos⟩ hzero
    exact absurd ((h.mp hzero.le).2 operand hmem) (not_le.mpr hpos)

end ProcessResult

end QubesAdminLinux
