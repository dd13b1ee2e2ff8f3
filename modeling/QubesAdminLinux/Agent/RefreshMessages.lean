import QubesAdminLinux.Agent.Backends

/-! # Errors in the messages of a refresh

A refresh runs a command whose exit code does not tell all errors; the rest is to be found in its
messages.  The command is run in real time, so there is nothing to search.

* **`MessageError`** — a line of the output of a command says that there was an error.
* **`refresh_detects_iff`** — a refresh tells whether there was an error if and only if the exit code
  does, and is not a negative one with `dnf`. -/

namespace QubesAdminLinux

open StateExcept

/-- A line that starts with `err`, in any case. -/
def ErrorLine (line : String) : Prop :=
  startsWith (String.ofList (line.toList.map Char.toLower)) "err" = true

/-- The messages of a command tell an error. -/
def MessageError (child : ChildOutput) : Prop :=
  ∃ line, (line ∈ splitLines (sanitizeOutput child.out false) ∨
    line ∈ splitLines (sanitizeOutput child.err false)) ∧ ErrorLine line

/-- A result is an error exactly if the exit code or a message of the command says so. -/
def DetectsErrors (exitError : Prop) (child : ChildOutput) (result : ProcessResult) : Prop :=
  result.toBool = true ↔ exitError ∨ MessageError child

/-- Without output there is nothing to be found. -/
theorem errorFromMessages_silent {result : ProcessResult} (hout : result.out = "")
    (herr : result.err = "") : result.errorFromMessages = result := by
  rw [ProcessResult.errorFromMessages, hout, herr, if_neg (by decide)]

variable {σ : Type}

/-- A command that is run in real time leaves no output to the agent. -/
theorem exec_runCmd_realtime {host : Host σ} {command : List String} {s : AgentState σ}
    {child : ChildOutput} {system : σ}
    (h : exec (host.communicate command) s.system = (.ok child, system)) :
    exec (runCmd host command true) s
      = (.ok { code := child.returncode, posted := true }, s.withSystem system) := by
  unfold runCmd
  rw [exec_bind (exec_callLibrary h)]
  rfl

/-- The command of a refresh by `apt-get`. -/
def AptCli.updateCommand : List String :=
  [packageManager, "-o", "Debug::NoLocking=true", "-q", "update"]

/-- A refresh by `apt-get` returns the exit code, with 1 for 100. -/
theorem AptCli.exec_refresh {host : Host σ} {s : AgentState σ} {child : ChildOutput} {system : σ}
    (h : exec (host.communicate updateCommand) s.system = (.ok child, system)) :
    ∃ result s', exec (refresh host) s = (.ok result, s') ∧
      result.code = if child.returncode = 100 then 1 else child.returncode := by
  have hrun := exec_runCmd_realtime h
  rw [updateCommand] at hrun
  rw [refresh, exec_bind hrun]
  refine ⟨_, _, rfl, ?_⟩
  dsimp only
  rw [errorFromMessages_silent]
  · rw [apply_ite ProcessResult.code]
  · rw [apply_ite ProcessResult.out]
    exact ite_self ""
  · rw [apply_ite ProcessResult.err]
    exact ite_self ""

/-- The commands of a refresh by `dnf`. -/
def DnfCli.expireCommand (packageManager : String) : List String :=
  [packageManager, "-q", "clean", "expire-cache"]

@[inherit_doc DnfCli.expireCommand]
def DnfCli.checkCommand (packageManager : String) (hardFail : Bool) : List String :=
  [packageManager, "-q", "check-update", "--assumeyes",
    "--setopt=skip_if_unavailable=" ++ if hardFail then "0" else "1"]

/-- A refresh by `dnf` whose cache is expired returns the exit code if this is positive and not 100,
else 0. -/
theorem DnfCli.exec_refresh {host : Host σ} {type : AgentType} {packageManager : String}
    {hardFail : Bool} {s : AgentState σ} {expired child : ChildOutput} {system system' : σ}
    (htype : type ≠ .updateVm)
    (hexpire : exec (host.communicate (expireCommand packageManager)) s.system
      = (.ok expired, system)) (hexpired : expired.returncode = 0)
    (hcheck : exec (host.communicate (checkCommand packageManager hardFail)) system
      = (.ok child, system')) :
    ∃ result s', exec (refresh host type packageManager hardFail) s = (.ok result, s') ∧
      result.code = max 0 (if child.returncode ≠ 100 then child.returncode else 0) := by
  have hexpireRun := exec_runCmd_realtime hexpire
  have hcheckRun := exec_runCmd_realtime (s := s.withSystem system) hcheck
  rw [expireCommand] at hexpireRun
  rw [checkCommand] at hcheckRun
  rw [refresh, expireCache, if_pos htype, exec_bind hexpireRun, if_pos htype, exec_bind hcheckRun,
    exec_bind (exec_mergeResult _ _ _)]
  refine ⟨_, _, rfl, ?_⟩
  rw [errorFromMessages_silent]
  · rw [ProcessResult.iadd_code, hexpired, apply_ite ProcessResult.code]
  · rw [ProcessResult.iadd, apply_ite ProcessResult.out, ite_self]
    rfl
  · rw [ProcessResult.iadd, apply_ite ProcessResult.err, ite_self]
    rfl

/-- A refresh detects errors if and only if the exit code of its command does: for `apt-get`, any
code but 0, for `dnf`, a positive code other than 100; where it does not, no message tells an error. -/
theorem refresh_detects_iff (host : Host σ) (s : AgentState σ) (child : ChildOutput) :
    (∀ system, exec (host.communicate AptCli.updateCommand) s.system = (.ok child, system) →
      ∃ result s', exec (AptCli.refresh host) s = (.ok result, s') ∧
        (DetectsErrors (child.returncode ≠ 0) child result ↔
          child.returncode ≠ 0 ∨ ¬ MessageError child)) ∧
    (∀ (type : AgentType) (packageManager : String) (hardFail : Bool) (expired : ChildOutput)
      (system system' : σ), type ≠ .updateVm →
      exec (host.communicate (DnfCli.expireCommand packageManager)) s.system
        = (.ok expired, system) → expired.returncode = 0 →
      exec (host.communicate (DnfCli.checkCommand packageManager hardFail)) system
        = (.ok child, system') →
      ∃ result s', exec (DnfCli.refresh host type packageManager hardFail) s = (.ok result, s') ∧
        (DetectsErrors (child.returncode ≠ 0 ∧ child.returncode ≠ 100) child result ↔
          (0 < child.returncode ∧ child.returncode ≠ 100) ∨
            ((child.returncode = 0 ∨ child.returncode = 100) ∧ ¬ MessageError child))) := by
  constructor
  · intro system h
    obtain ⟨result, s', hrun, hcode⟩ := AptCli.exec_refresh h
    refine ⟨result, s', hrun, ?_⟩
    rw [DetectsErrors, ProcessResult.toBool_iff, hcode]
    have hzero : (if child.returncode = 100 then 1 else child.returncode) ≠ 0
        ↔ child.returncode ≠ 0 := by
      split <;> omega
    rw [hzero]
    tauto
  · intro type packageManager hardFail expired system system' htype hexpire hexpired hcheck
    obtain ⟨result, s', hrun, hcode⟩ := DnfCli.exec_refresh htype hexpire hexpired hcheck
    refine ⟨result, s', hrun, ?_⟩
    rw [DetectsErrors, ProcessResult.toBool_iff, hcode]
    have hpositive : max 0 (if child.returncode ≠ 100 then child.returncode else 0) ≠ 0
        ↔ 0 < child.returncode ∧ child.returncode ≠ 100 := by
      split <;> omega
    rw [hpositive]
    rcases lt_trichotomy child.returncode 0 with hneg | hzero | hpos
    · -- a negative code is an error that the maximum of the codes loses
      have herror : child.returncode ≠ 0 ∧ child.returncode ≠ 100 := by omega
      simp [herror]
    · simp [hzero]
    · by_cases hhundred : child.returncode = 100
      · simp [hhundred]
      · have hne : child.returncode ≠ 0 := hpos.ne'
        simp [hpos, hhundred, hne]

/-- A host on which the cache expires and any other command leaves `child` behind. -/
def refreshingHost (child : ChildOutput) : Host Unit :=
  ⟨fun command => pure (if "expire-cache" ∈ command then { returncode := 0 } else child)⟩

/-- A command that exits with 100. -/
theorem refresh_detects_iff_hundred :
    (∃ result s', exec (AptCli.refresh (refreshingHost { returncode := 100 })) { system := () }
        = (.ok result, s') ∧
      (DetectsErrors ((100 : Int) ≠ 0) { returncode := 100 } result ↔
        (100 : Int) ≠ 0 ∨ ¬ MessageError { returncode := 100 })) ∧
    (∃ result s', exec (DnfCli.refresh (refreshingHost { returncode := 100 }) .vm "dnf" true)
        { system := () } = (.ok result, s') ∧
      (DetectsErrors ((100 : Int) ≠ 0 ∧ (100 : Int) ≠ 100) { returncode := 100 } result ↔
        ((0 : Int) < 100 ∧ (100 : Int) ≠ 100) ∨
          (((100 : Int) = 0 ∨ (100 : Int) = 100) ∧ ¬ MessageError { returncode := 100 }))) := by
  have h := refresh_detects_iff (refreshingHost { returncode := 100 }) { system := () }
    { returncode := 100 }
  exact ⟨h.1 () rfl, h.2 .vm "dnf" true { returncode := 0 } () () (by decide) rfl rfl rfl⟩

/-- What `apt-get update` leaves behind if a repository cannot be reached. -/
def unreachableRepository : ChildOutput where
  returncode := 0
  out := encodeAscii "Hit:1 http://security.debian.org stable\nErr:2 http://deb.debian.org stable\n"

/-- An error that is only told by a message is not detected. -/
theorem refresh_hides_message :
    (¬ ∀ (σ : Type) (host : Host σ) (s : AgentState σ) (child : ChildOutput) (system : σ),
      exec (host.communicate AptCli.updateCommand) s.system = (.ok child, system) →
      ∃ result s', exec (AptCli.refresh host) s = (.ok result, s') ∧
        DetectsErrors (child.returncode ≠ 0) child result) ∧
    MessageError unreachableRepository ∧
    exec (AptCli.refresh (refreshingHost unreachableRepository)) { system := () }
      = (.ok { posted := true }, { system := () }) := by
  have herror : MessageError unreachableRepository :=
    ⟨"Err:2 http://deb.debian.org stable", Or.inl (by decide +kernel), by
      rw [ErrorLine]
      decide +kernel⟩
  have hrun : exec (AptCli.refresh (refreshingHost unreachableRepository)) { system := () }
      = (.ok { posted := true }, { system := () }) := rfl
  refine ⟨fun h => ?_, herror, hrun⟩
  obtain ⟨result, s', hresult, hdetects⟩ := h Unit (refreshingHost unreachableRepository)
    { system := () } unreachableRepository () rfl
  rw [hrun] at hresult
  cases hresult
  exact absurd (hdetects.mpr (Or.inr herror)) (by decide)

end QubesAdminLinux
