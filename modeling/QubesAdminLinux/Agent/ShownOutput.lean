import QubesAdminLinux.Agent.Backends
import QubesAdminLinux.Lib.Interleaving

/-! # Which output is shown

An upgrade collects the texts of its commands in one result.  Whether such a text is printed is
decided at each merge, by the left operand, which may print what is merged into it, and by the right
one, which may have been printed already; what the agent announces itself is printed between.

* **`Shown`** — what was printed between two states of the console: the agent's own lines, and the
  texts of a result once each.
* **`ProcessResult.Settled`** — a result that counts as printed has no texts; exactly such a result
  can be merged without losing a text.
* **`PackageManager.untilUpgrade`** — `_upgrade` up to `upgrade_internal`;
  `PackageManager.upgrade'_eq` is the rest.
* **`PackageManager.Discreet.shownOnce_iff_settled`** — all output is shown once exactly if the result
  of `upgrade_internal` is settled.
* **`Backend.shownOnce_iff`** — this is so for each back end, but for what `apt-get` says when it removes
  kernels: exactly that is lost. -/

namespace QubesAdminLinux

open StateExcept

/-! ## Texts on the console -/

/-- Whose a printed line is. -/
inductive Origin
  /-- A line of the agent itself. -/
  | agent
  /-- A text of a result. -/
  | result
  deriving DecidableEq, Repr

/-- Between `before` and `after` exactly the lines `own` and the texts `out` and `err` were printed:
the text `out` in pieces between the lines, the text `err` in pieces to the error output. -/
def Shown (own : List String) (out err : String) (before after : Console) : Prop :=
  ∃ (printed : List (Origin × String)) (errors : List String),
    after.stdout = before.stdout ++ printed.map Prod.snd ∧
      project .agent printed = own ∧ String.join (project .result printed) = out ∧
      after.stderr = before.stderr ++ errors ∧ String.join errors = err

/-- Where nothing is printed, nothing is shown. -/
theorem shown_refl (c : Console) : Shown [] "" "" c c :=
  ⟨[], [], (List.append_nil _).symm, rfl, rfl, (List.append_nil _).symm, rfl⟩

variable {own : List String} {out err : String} {before after : Console}

/-- The agent prints lines of its own. -/
theorem Shown.announce (h : Shown own out err before after) (lines : List String) :
    Shown (own ++ lines) out err before (after.append ⟨lines, []⟩) := by
  obtain ⟨printed, errors, hstdout, hown, hout, hstderr, herr⟩ := h
  have hagent : project Origin.agent (lines.map fun line => (Origin.agent, line)) = lines :=
    project_map_self _ _
  have hresult : project Origin.result (lines.map fun line => (Origin.agent, line)) = [] := by
    induction lines with
    | nil => rfl
    | cons line rest ih =>
        rw [List.map_cons, project_cons_ne (by decide)]
        exact ih (project_map_self _ _)
  refine ⟨printed ++ lines.map fun line => (Origin.agent, line), errors, ?_, ?_, ?_, ?_, herr⟩
  · simp [Console.append, hstdout, Function.comp_def]
  · rw [project_append, hown, hagent]
  · rw [project_append, hresult, List.append_nil, hout]
  · simp [Console.append, hstderr]

/-- Texts of a result are printed. -/
theorem Shown.write (h : Shown own out err before after) (outs errs : List String) :
    Shown own (out ++ String.join outs) (err ++ String.join errs) before
      (after.append ⟨outs, errs⟩) := by
  obtain ⟨printed, errors, hstdout, hown, hout, hstderr, herr⟩ := h
  have hresult : project Origin.result (outs.map fun text => (Origin.result, text)) = outs :=
    project_map_self _ _
  have hagent : project Origin.agent (outs.map fun text => (Origin.result, text)) = [] := by
    induction outs with
    | nil => rfl
    | cons text rest ih =>
        rw [List.map_cons, project_cons_ne (by decide)]
        exact ih (project_map_self _ _)
  refine ⟨printed ++ outs.map fun text => (Origin.result, text), errors ++ errs, ?_, ?_, ?_, ?_, ?_⟩
  · simp [Console.append, hstdout, Function.comp_def]
  · rw [project_append, hagent, List.append_nil, hown]
  · rw [project_append, hresult, String.join_append, hout]
  · simp [Console.append, hstderr]
  · rw [String.join_append, herr]

/-- How much was printed to the standard output. -/
theorem Shown.length_stdout (h : Shown own out err before after) :
    (String.join after.stdout).length
      = (String.join before.stdout).length + (String.join own).length + out.length := by
  obtain ⟨printed, errors, hstdout, rfl, rfl, -, -⟩ := h
  -- every printed line is one of the agent or one of the result
  have hparts : (String.join (printed.map Prod.snd)).length
      = (String.join (project Origin.agent printed)).length
        + (String.join (project Origin.result printed)).length := by
    clear hstdout
    induction printed with
    | nil => rfl
    | cons line rest ih =>
        obtain ⟨origin, text⟩ := line
        cases origin with
        | agent =>
            rw [project_cons_self, project_cons_ne (by decide)]
            simp only [List.map_cons, String.join_cons, String.length_append, ih]
            omega
        | result =>
            rw [project_cons_self, project_cons_ne (by decide)]
            simp only [List.map_cons, String.join_cons, String.length_append, ih]
            omega
  rw [hstdout, String.join_append, String.length_append, hparts]
  omega

/-- How much was printed to the standard error output. -/
theorem Shown.length_stderr (h : Shown own out err before after) :
    (String.join after.stderr).length = (String.join before.stderr).length + err.length := by
  obtain ⟨printed, errors, -, -, -, hstderr, rfl⟩ := h
  rw [hstderr, String.join_append, String.length_append]

/-! ## Results that can be merged -/

namespace ProcessResult

/-- A text of a result, unless it counts as printed. -/
def unposted (self : ProcessResult) (text : String) : String := if self.posted then "" else text

/-- A result that counts as printed has no texts. -/
def Settled (self : ProcessResult) : Prop := self.posted = true → self.out = "" ∧ self.err = ""

/-- A result that has not been posted is settled. -/
theorem settled_of_not_posted {self : ProcessResult} (h : self.posted = false) : self.Settled := by
  intro hposted
  rw [h] at hposted
  cases hposted

/-- So is one without texts. -/
theorem settled_of_empty {self : ProcessResult} (hout : self.out = "") (herr : self.err = "") :
    self.Settled := fun _ => ⟨hout, herr⟩

/-- Nothing of a settled result is left out. -/
theorem Settled.unposted_eq {self : ProcessResult} (h : self.Settled) :
    self.unposted self.out = self.out ∧ self.unposted self.err = self.err := by
  unfold unposted
  split
  · rename_i hposted
    rw [(h hposted).1, (h hposted).2]
    exact ⟨rfl, rfl⟩
  · exact ⟨rfl, rfl⟩

/-- A result of which nothing is left out is settled. -/
theorem settled_of_length {self : ProcessResult}
    (hout : (self.unposted self.out).length = self.out.length)
    (herr : (self.unposted self.err).length = self.err.length) : self.Settled := by
  intro hposted
  rw [unposted, if_pos hposted] at hout herr
  exact ⟨String.length_eq_zero_iff.mp hout.symm, String.length_eq_zero_iff.mp herr.symm⟩

/-- A change of the code does not matter. -/
theorem settled_markFailure {self : ProcessResult} (h : self.Settled) (code : Int) :
    (self.markFailure code).Settled := by
  unfold markFailure
  split
  · exact h
  · exact h

/-- Marking a failure does not touch the output. -/
@[simp] theorem markUpgradeFailure_out (self : ProcessResult) (code : Int) :
    (self.markUpgradeFailure code).out = self.out := by
  unfold markUpgradeFailure
  split <;> rfl

/-- Nor does it touch the errors. -/
@[simp] theorem markUpgradeFailure_err (self : ProcessResult) (code : Int) :
    (self.markUpgradeFailure code).err = self.err := by
  unfold markUpgradeFailure
  split <;> rfl

/-- Nor does it post anything. -/
@[simp] theorem markUpgradeFailure_posted (self : ProcessResult) (code : Int) :
    (self.markUpgradeFailure code).posted = self.posted := by
  unfold markUpgradeFailure
  split <;> rfl

/-- So the result is settled as before. -/
@[simp] theorem settled_markUpgradeFailure {self : ProcessResult} (code : Int) :
    (self.markUpgradeFailure code).Settled ↔ self.Settled := by
  simp [Settled]

end ProcessResult

/-- The line that is printed for a text is the text. -/
theorem join_printNonempty (text : String) : String.join (printNonempty text) = text := by
  unfold printNonempty
  split
  · rename_i h
    rw [h]
    rfl
  · simp

/-- A merge into a result in real time prints the texts of the other result, unless they count as
printed. -/
theorem Shown.merge (h : Shown own out err before after) {result : ProcessResult}
    (hrealtime : result.realtime = true) (other : ProcessResult) :
    Shown own (out ++ other.unposted other.out) (err ++ other.unposted other.err) before
      (after.append (result.iaddPrints other)) := by
  unfold ProcessResult.iaddPrints ProcessResult.unposted
  rw [hrealtime, Bool.true_and]
  cases hposted : other.posted with
  | true =>
      have hwrite := h.write [] []
      simpa using hwrite
  | false =>
      have hwrite := h.write (printNonempty other.out) (printNonempty other.err)
      simpa [join_printNonempty] using hwrite

/-- Without real time, nothing is printed. -/
theorem iaddPrints_of_not_realtime {result : ProcessResult} (h : result.realtime = false)
    (other : ProcessResult) : result.iaddPrints other = {} := by
  rw [ProcessResult.iaddPrints, h]
  rfl

/-- Without new texts, a console stays as it is. -/
@[simp] theorem Console.append_empty (c : Console) : c.append {} = c := by
  simp [Console.append]

/-! ## The phases -/

variable {σ : Type}

/-- How far `_upgrade` gets. -/
inductive Reached
  /-- It stops after the installation of the requirements. -/
  | requirements
  /-- It stops after the refresh. -/
  | refresh
  /-- It calls `upgrade_internal`. -/
  | upgrade
  deriving DecidableEq, Repr

/-- What `_upgrade` knows before the upgrade. -/
structure Stage where
  /-- The packages that were installed. -/
  packages : Packages
  /-- The result so far. -/
  result : ProcessResult
  /-- How far it has got. -/
  reached : Reached

/-- The lines that the agent prints itself. -/
def agentLines : List String :=
  ["Install requirements", "Refreshing package info", "Updating packages.", "Updated"]

/-- What `_upgrade` announces before the upgrade. -/
def announcedLines (requirements : Option (Dict String String)) (refresh : Bool) (reached : Reached) :
    List String :=
  (if (requirements.getD Dict.empty).isEmpty then [] else ["Install requirements"])
    ++ if refresh = true ∧ reached ≠ .requirements then ["Refreshing package info"] else []

/-- The lines that announce a phase are lines of the agent. -/
theorem mem_agentLines_of_announced {requirements : Option (Dict String String)} {refresh : Bool}
    {reached : Reached} {line : String} (h : line ∈ announcedLines requirements refresh reached) :
    line ∈ agentLines := by
  unfold announcedLines at h
  rcases List.mem_append.mp h with h | h
  · split at h
    · cases h
    · rw [List.mem_singleton.mp h]
      decide
  · split at h
    · rw [List.mem_singleton.mp h]
      decide
    · cases h

/-- The lines that some code prints. -/
def printedLines {α : Type} (x : Agent σ α) (s : AgentState σ) : List String :=
  (exec x s).2.console.stdout.drop s.console.stdout.length

namespace PackageManager

variable (self : PackageManager σ)

/-- `_upgrade`, up to the call of `upgrade_internal`. -/
def untilUpgrade (refresh hardFail : Bool) (requirements : Option (Dict String String)) :
    Agent σ Stage := do
  let currPkg ← self.getPackages
  let result ← self.requirementsPhase requirements currPkg ProcessResult.realtimeEmpty
  if result.toBool && hardFail then pure ⟨currPkg, result, .requirements⟩
  else do
    let result ← self.refreshPhase refresh hardFail result
    if result.toBool && hardFail then pure ⟨currPkg, result, .refresh⟩
    else pure ⟨currPkg, result, .upgrade⟩

/-- `_upgrade`, from the call of `upgrade_internal` on. -/
def fromUpgrade (removeObsolete : Bool) (stage : Stage) : Agent σ ProcessResult :=
  if stage.reached = .upgrade then self.upgradePhase removeObsolete stage.packages stage.result
  else pure stage.result

/-- The two parts of `_upgrade`. -/
theorem upgrade'_eq (refresh hardFail removeObsolete : Bool)
    (requirements : Option (Dict String String)) :
    self.upgrade' refresh hardFail removeObsolete requirements
      = self.untilUpgrade refresh hardFail requirements >>= self.fromUpgrade removeObsolete := by
  unfold upgrade' untilUpgrade
  rw [bind_assoc]
  apply bind_congr
  intro currPkg
  rw [bind_assoc]
  apply bind_congr
  intro result
  split
  · rfl
  · rw [bind_assoc]
    apply bind_congr
    intro refreshed
    split
    · rfl
    · rfl

/-- The lines that the agent prints itself in an upgrade: what `_upgrade` announces, and what
`upgrade_internal` prints. -/
def ownLines (refresh hardFail removeObsolete : Bool) (s : AgentState σ) : List String :=
  match exec (self.untilUpgrade refresh hardFail self.requirements) s with
  | (.ok stage, s₁) =>
      announcedLines self.requirements refresh stage.reached
        ++ if stage.reached = .upgrade then printedLines (self.upgradeInternal removeObsolete) s₁
          else []
  | (.error _, _) => []

/-- In an upgrade from the state `s`, the texts of `result` are printed exactly once, between lines of
the agent. -/
def ShownOnce (refresh hardFail removeObsolete printStreams : Bool) (s : AgentState σ)
    (result : ProcessResult) : Prop :=
  (∀ line ∈ self.ownLines refresh hardFail removeObsolete s, line ∈ agentLines) ∧
    Shown (self.ownLines refresh hardFail removeObsolete s) result.out result.err s.console
      (exec (self.upgrade refresh hardFail removeObsolete printStreams) s).2.console

end PackageManager

/-- Before the upgrade, nothing is printed but by `_upgrade` itself, and all results are settled;
`upgrade_internal` prints lines of the agent only. -/
structure PackageManager.Discreet (manager : PackageManager σ) : Prop where
  listing : Keeps AgentState.console manager.getPackages
  requirements : ∀ requirements currPkg,
    Keeps AgentState.console (manager.installRequirements requirements currPkg) ∧
      Returns ProcessResult.Settled (manager.installRequirements requirements currPkg)
  refresh : ∀ hardFail, Keeps AgentState.console (manager.refresh hardFail) ∧
    Returns ProcessResult.Settled (manager.refresh hardFail)
  upgradeLines : ∀ removeObsolete s,
    LogsFrom (fun s => s.console.stdout) (· ∈ agentLines) (manager.upgradeInternal removeObsolete) s
  upgradeErrors : ∀ removeObsolete,
    Keeps (fun s => s.console.stderr) (manager.upgradeInternal removeObsolete)

/-! ## A run -/

/-- The result so far is in real time, and its texts were printed between the lines `own`. -/
structure Told (own : List String) (result : ProcessResult) (before after : Console) : Prop where
  realtime : result.realtime = true
  posted : result.posted = true
  shown : Shown own result.out result.err before after

/-- A phase announces itself, prints nothing, and has its result merged. -/
theorem Told.phase {x : Agent σ ProcessResult} (hx : Keeps AgentState.console x)
    (hsettled : Returns ProcessResult.Settled x) {result result' : ProcessResult}
    {s s' : AgentState σ} (h : Told own result before s.console) {line : String} {code : Int}
    (hexec : exec (do
      printTexts ⟨[line], []⟩
      let other ← x
      mergeResult result (other.markFailure code)) s = (.ok result', s')) :
    Told (own ++ [line]) result' before s'.console := by
  rw [exec_bind (exec_printTexts _ _)] at hexec
  obtain ⟨other, s₁, hrun, hmerge⟩ := exec_bind_ok hexec
  have hother := ProcessResult.settled_markFailure (hsettled _ _ _ hrun) code
  have hkeep := hx (s.print ⟨[line], []⟩)
  rw [hrun] at hkeep
  rw [exec_mergeResult] at hmerge
  cases hmerge
  have hmerged := (h.shown.announce [line]).merge h.realtime (other.markFailure code)
  rw [hother.unposted_eq.1, hother.unposted_eq.2] at hmerged
  refine ⟨h.realtime, h.posted, ?_⟩
  show Shown _ _ _ before (s₁.console.append _)
  rw [hkeep]
  exact hmerged

namespace PackageManager

variable {self : PackageManager σ}

/-- The texts of the result so far were printed, when `upgrade_internal` is called or the run ends. -/
theorem Discreet.told_untilUpgrade (hself : self.Discreet) {refresh hardFail : Bool}
    {requirements : Option (Dict String String)} {s s' : AgentState σ} {stage : Stage}
    (h : exec (self.untilUpgrade refresh hardFail requirements) s = (.ok stage, s')) :
    Told (announcedLines requirements refresh stage.reached) stage.result s.console s'.console := by
  unfold untilUpgrade at h
  obtain ⟨currPkg, s₁, hlist, h⟩ := exec_bind_ok h
  obtain ⟨result, s₂, hinstall, h⟩ := exec_bind_ok h
  have hstart : Told [] ProcessResult.realtimeEmpty s.console s₁.console := by
    have hkeep := hself.listing s
    rw [hlist] at hkeep
    rw [hkeep]
    exact ⟨rfl, rfl, shown_refl s.console⟩
  -- the installation of the requirements
  have hinstalled : Told
      (if (requirements.getD Dict.empty).isEmpty then [] else ["Install requirements"]) result
      s.console s₂.console := by
    unfold requirementsPhase at hinstall
    split at hinstall
    · rename_i hempty
      rw [exec_pure] at hinstall
      cases hinstall
      rw [if_pos hempty]
      exact hstart
    · rename_i hempty
      obtain ⟨hkeep, hsettled⟩ := hself.requirements requirements currPkg
      rw [if_neg hempty]
      exact hstart.phase hkeep hsettled hinstall
  split at h
  · rw [exec_pure] at h
    cases h
    simpa [announcedLines] using hinstalled
  · -- the refresh
    obtain ⟨result', s₃, hrefresh, h⟩ := exec_bind_ok h
    have hrefreshed : ∀ reached, reached ≠ Reached.requirements →
        Told (announcedLines requirements refresh reached) result' s.console s₃.console := by
      intro reached hne
      unfold refreshPhase at hrefresh
      cases refresh with
      | true =>
          obtain ⟨hkeep, hsettled⟩ := hself.refresh hardFail
          unfold announcedLines
          rw [if_pos (show true = true ∧ reached ≠ .requirements from ⟨rfl, hne⟩)]
          exact hinstalled.phase hkeep hsettled hrefresh
      | false =>
          rw [if_neg Bool.false_ne_true, exec_pure] at hrefresh
          cases hrefresh
          simpa [announcedLines] using hinstalled
    split at h
    · rw [exec_pure] at h
      cases h
      exact hrefreshed .refresh (by decide)
    · rw [exec_pure] at h
      cases h
      exact hrefreshed .upgrade (by decide)

/-- The lines that `upgrade_internal` prints are lines of the agent. -/
theorem Discreet.printedLines_upgradeInternal (hself : self.Discreet) (removeObsolete : Bool)
    (s : AgentState σ) :
    (exec (self.upgradeInternal removeObsolete) s).2.console.stdout
        = s.console.stdout ++ printedLines (self.upgradeInternal removeObsolete) s ∧
      ∀ line ∈ printedLines (self.upgradeInternal removeObsolete) s, line ∈ agentLines := by
  obtain ⟨lines, hlines, hmem⟩ := hself.upgradeLines removeObsolete s
  dsimp only at hlines
  have hprinted : printedLines (self.upgradeInternal removeObsolete) s = lines := by
    rw [printedLines, hlines, List.drop_left]
  rw [hprinted]
  exact ⟨hlines, hmem⟩

/-- What `upgrade_internal` prints. -/
theorem Discreet.console_upgradeInternal (hself : self.Discreet) (removeObsolete : Bool)
    (s : AgentState σ) :
    (exec (self.upgradeInternal removeObsolete) s).2.console
      = s.console.append ⟨printedLines (self.upgradeInternal removeObsolete) s, []⟩ := by
  obtain ⟨hlines, -⟩ := hself.printedLines_upgradeInternal removeObsolete s
  have herrors := hself.upgradeErrors removeObsolete s
  dsimp only at herrors
  rw [Console.append, List.append_nil, ← hlines, ← herrors]

/-- The changes are merged into the result, and printed. -/
theorem Discreet.changesPhase_ok (hself : self.Discreet) {currPkg : Packages}
    {result final : ProcessResult} {s s' : AgentState σ}
    (h : exec (self.changesPhase currPkg result) s = (.ok final, s')) :
    ∃ summary : ProcessResult, summary.Settled ∧ final.out = result.out ++ summary.out ∧
      final.err = result.err ++ summary.err ∧ final.posted = result.posted ∧
      s'.console = s.console.append (result.iaddPrints summary) := by
  unfold changesPhase at h
  obtain ⟨newPkg, s₁, hlist, h⟩ := exec_bind_ok h
  have hkeep := hself.listing s
  rw [hlist] at hkeep
  rw [exec_bind (exec_mergeResult _ _ _), exec_pure] at h
  obtain ⟨hfinal, rfl⟩ := Prod.mk.inj h
  have hsummary : (printChanges (comparePackages currPkg newPkg)).Settled :=
    ProcessResult.settled_of_not_posted rfl
  refine ⟨_, ProcessResult.settled_markFailure hsummary Exit.errVm, ?_, ?_, ?_, ?_⟩
  · rw [← Except.ok.inj hfinal]
    split <;> rfl
  · rw [← Except.ok.inj hfinal]
    split <;> rfl
  · rw [← Except.ok.inj hfinal]
    split <;> rfl
  · show s₁.console.append _ = _
    rw [hkeep]

/-- The end of `_upgrade`: the result of `upgrade_internal` is merged, then possibly a summary. -/
theorem Discreet.told_upgradePhase (hself : self.Discreet) {removeObsolete : Bool}
    {currPkg : Packages} {result final : ProcessResult} {s s' : AgentState σ}
    (h : Told own result before s.console)
    (hexec : exec (self.upgradePhase removeObsolete currPkg result) s = (.ok final, s')) :
    ∃ upgraded s₁ out err, exec (self.upgradeInternal removeObsolete) s = (.ok upgraded, s₁) ∧
      final.posted = true ∧ final.out = result.out ++ upgraded.out ++ out ∧
      final.err = result.err ++ upgraded.err ++ err ∧
      Shown (own ++ printedLines (self.upgradeInternal removeObsolete) s)
        (result.out ++ upgraded.unposted upgraded.out ++ out)
        (result.err ++ upgraded.unposted upgraded.err ++ err) before s'.console := by
  unfold upgradePhase at hexec
  obtain ⟨upgraded, s₁, hrun, hexec⟩ := exec_bind_ok hexec
  rw [exec_bind (exec_mergeResult _ _ _), ← ite_or] at hexec
  have hconsole := hself.console_upgradeInternal removeObsolete s
  rw [hrun] at hconsole
  -- what was printed when the result is merged
  have hmerged : Shown (own ++ printedLines (self.upgradeInternal removeObsolete) s)
      (result.out ++ upgraded.unposted upgraded.out) (result.err ++ upgraded.unposted upgraded.err)
      before
      (s₁.console.append (result.iaddPrints (upgraded.markUpgradeFailure Exit.errVmUpdate))) := by
    have hlines := h.shown.announce (printedLines (self.upgradeInternal removeObsolete) s)
    rw [← hconsole] at hlines
    have hmerge := hlines.merge h.realtime (upgraded.markUpgradeFailure Exit.errVmUpdate)
    simpa [ProcessResult.unposted] using hmerge
  split at hexec
  · rw [exec_pure] at hexec
    cases hexec
    refine ⟨upgraded, s₁, "", "", hrun, h.posted, ?_, ?_, ?_⟩
    · simp [ProcessResult.iadd]
    · simp [ProcessResult.iadd]
    · rw [String.append_empty, String.append_empty]
      exact hmerged
  · obtain ⟨summary, hsummary, hout, herr, hposted, hprinted⟩ := hself.changesPhase_ok hexec
    refine ⟨upgraded, s₁, summary.out, summary.err, hrun, hposted.trans h.posted, ?_, ?_, ?_⟩
    · rw [hout, ProcessResult.iadd, ProcessResult.markUpgradeFailure_out]
    · rw [herr, ProcessResult.iadd, ProcessResult.markUpgradeFailure_err]
    · rw [hprinted]
      have hrealtime : (result.iadd (upgraded.markUpgradeFailure Exit.errVmUpdate)).realtime = true :=
        h.realtime
      have hsummarized := hmerged.merge hrealtime summary
      rw [hsummary.unposted_eq.1, hsummary.unposted_eq.2] at hsummarized
      exact hsummarized

/-- A result that counts as printed is not printed at the end. -/
theorem console_upgrade {refresh hardFail removeObsolete printStreams : Bool} {s s' : AgentState σ}
    {result : ProcessResult}
    (h : exec (self.upgrade' refresh hardFail removeObsolete self.requirements) s = (.ok result, s'))
    (hposted : result.posted = true) :
    (exec (self.upgrade refresh hardFail removeObsolete printStreams) s).2.console = s'.console := by
  unfold upgrade
  rw [exec_bind h, hposted, Bool.not_true, Bool.and_false, if_neg Bool.false_ne_true]
  rfl

/-- Where `_upgrade` returns, `upgrade_internal` has returned if it was called. -/
theorem upgradeInternal_returns {refresh hardFail removeObsolete : Bool}
    {requirements : Option (Dict String String)} {s s₁ s' : AgentState σ} {stage : Stage}
    {result : ProcessResult}
    (h : exec (self.upgrade' refresh hardFail removeObsolete requirements) s = (.ok result, s'))
    (huntil : exec (self.untilUpgrade refresh hardFail requirements) s = (.ok stage, s₁))
    (hreached : stage.reached = .upgrade) :
    ∃ upgraded s₂, exec (self.upgradeInternal removeObsolete) s₁ = (.ok upgraded, s₂) := by
  rw [upgrade'_eq, exec_bind huntil, fromUpgrade, if_pos hreached, upgradePhase] at h
  obtain ⟨upgraded, s₂, hrun, -⟩ := exec_bind_ok h
  exact ⟨upgraded, s₂, hrun⟩

/-- All output is printed exactly once if and only if the result of `upgrade_internal`, if it is
called, is settled. -/
theorem Discreet.shownOnce_iff_settled (hself : self.Discreet)
    {refresh hardFail removeObsolete printStreams : Bool} {s s' : AgentState σ}
    {result : ProcessResult}
    (h : exec (self.upgrade' refresh hardFail removeObsolete self.requirements) s = (.ok result, s')) :
    self.ShownOnce refresh hardFail removeObsolete printStreams s result ↔
      ∀ stage s₁, exec (self.untilUpgrade refresh hardFail self.requirements) s = (.ok stage, s₁) →
        stage.reached = .upgrade →
        ∃ upgraded s₂, exec (self.upgradeInternal removeObsolete) s₁ = (.ok upgraded, s₂) ∧
          upgraded.Settled := by
  have hfull := h
  rw [upgrade'_eq] at h
  obtain ⟨stage, s₁, huntil, h⟩ := exec_bind_ok h
  have htold := hself.told_untilUpgrade huntil
  unfold fromUpgrade at h
  split at h
  · rename_i hreached
    obtain ⟨upgraded, s₂, out, err, hrun, hposted, hout, herr, hshown⟩ :=
      hself.told_upgradePhase htold h
    have hown : self.ownLines refresh hardFail removeObsolete s
        = announcedLines self.requirements refresh stage.reached
          ++ printedLines (self.upgradeInternal removeObsolete) s₁ := by
      simp only [ownLines, huntil, if_pos hreached]
    rw [ShownOnce, console_upgrade hfull hposted, hown, hout, herr]
    constructor
    · rintro ⟨-, honce⟩ stage' s₁' huntil' -
      rw [huntil] at huntil'
      cases huntil'
      refine ⟨upgraded, s₂, hrun, ?_⟩
      -- as much was printed as there is text
      have hlenOut := honce.length_stdout
      have hlenErr := honce.length_stderr
      rw [hshown.length_stdout] at hlenOut
      rw [hshown.length_stderr] at hlenErr
      simp only [String.length_append] at hlenOut hlenErr
      apply ProcessResult.settled_of_length
      · omega
      · omega
    · intro hall
      obtain ⟨upgraded', s₂', hrun', hsettled⟩ := hall stage s₁ huntil hreached
      rw [hrun] at hrun'
      cases hrun'
      rw [hsettled.unposted_eq.1, hsettled.unposted_eq.2] at hshown
      refine ⟨fun line hline => ?_, hshown⟩
      rcases List.mem_append.mp hline with hline | hline
      · exact mem_agentLines_of_announced hline
      · exact (hself.printedLines_upgradeInternal removeObsolete s₁).2 line hline
  · rename_i hreached
    rw [exec_pure] at h
    cases h
    have hown : self.ownLines refresh hardFail removeObsolete s
        = announcedLines self.requirements refresh stage.reached := by
      simp only [ownLines, huntil, if_neg hreached, List.append_nil]
    rw [ShownOnce, console_upgrade hfull htold.posted, hown]
    apply iff_of_true
    · exact ⟨fun line => mem_agentLines_of_announced, htold.shown⟩
    · intro stage' s₁' huntil' hreached'
      rw [huntil] at huntil'
      cases huntil'
      exact absurd hreached' hreached

end PackageManager

/-! ## The back ends -/

/-- A result without texts. -/
def ProcessResult.Empty (self : ProcessResult) : Prop := self.out = "" ∧ self.err = ""

/-- An empty result is settled. -/
theorem ProcessResult.Empty.settled {self : ProcessResult} (h : self.Empty) : self.Settled :=
  settled_of_empty h.1 h.2

/-- Two empty results are empty together. -/
theorem ProcessResult.Empty.iadd {self other : ProcessResult} (h : self.Empty) (h' : other.Empty) :
    (self.iadd other).Empty := by
  refine ⟨?_, ?_⟩
  · rw [ProcessResult.iadd, h.1, h'.1, String.append_empty]
  · rw [ProcessResult.iadd, h.2, h'.2, String.append_empty]

/-- No messages are no error, and no text either. -/
theorem ProcessResult.Empty.errorFromMessages {self : ProcessResult} (h : self.Empty) :
    self.errorFromMessages.Empty := by
  unfold ProcessResult.errorFromMessages
  split
  · exact h
  · exact h

/-- The result that phases start from is empty. -/
theorem ProcessResult.realtimeEmpty_empty : realtimeEmpty.Empty := ⟨rfl, rfl⟩

/-- Merging a result without texts prints nothing. -/
theorem keeps_mergeResult_of_empty (result : ProcessResult) {other : ProcessResult}
    (h : other.Empty) :
    Keeps AgentState.console (mergeResult result other : Agent σ ProcessResult) := by
  intro s
  have hnone : result.iaddPrints other = {} := by
    rw [ProcessResult.iaddPrints, h.1, h.2]
    split <;> rfl
  rw [exec_mergeResult, hnone]
  exact Console.append_empty _

/-- Merging into a result that is not in real time prints nothing. -/
theorem keeps_mergeResult_of_not_realtime {result : ProcessResult} (h : result.realtime = false)
    (other : ProcessResult) :
    Keeps AgentState.console (mergeResult result other : Agent σ ProcessResult) := by
  intro s
  rw [exec_mergeResult, iaddPrints_of_not_realtime h]
  exact Console.append_empty _

/-- Merging two results returns both of them together. -/
theorem returns_mergeResult {P : ProcessResult → Prop} {result other : ProcessResult}
    (h : P (result.iadd other)) :
    Returns P (mergeResult result other : Agent σ ProcessResult) := by
  intro s merged s' hexec
  rw [exec_mergeResult] at hexec
  cases hexec
  exact h

variable {host : Host σ}

/-- A command prints nothing itself. -/
theorem keeps_runCmd (command : List String) (realtime : Bool) :
    Keeps AgentState.console (runCmd host command realtime) := by
  unfold runCmd callLibrary
  apply keeps_bind
  · apply keeps_zoom
    intro system s
    rfl
  · intro child
    exact keeps_pure _

/-- A command in real time has no texts. -/
theorem returns_runCmd_empty (command : List String) :
    Returns ProcessResult.Empty (runCmd host command true) := by
  intro s result s' hexec
  obtain ⟨child, system, -, -, rfl⟩ := runCmd_ok hexec
  exact ⟨rfl, rfl⟩

/-- The result of a command prints nothing that is merged into it. -/
theorem returns_runCmd_not_realtime (command : List String) (realtime : Bool) :
    Returns (fun result => result.realtime = false) (runCmd host command realtime) := by
  intro s result s' hexec
  obtain ⟨child, system, -, -, rfl⟩ := runCmd_ok hexec
  rfl

/-- A call of the library prints nothing itself. -/
theorem keeps_tryLibrary_console {α : Type} (x : LibraryCall σ α) :
    Keeps AgentState.console (tryLibrary x) := by
  unfold tryLibrary
  apply keeps_attempt
  intro system s
  rfl

/-- A value that a library returns under `try` is one of the library. -/
theorem returns_tryLibrary {α : Type} {P : α → Prop} {x : LibraryCall σ α} (hx : Returns P x) :
    Returns (fun outcome => ∀ a, outcome = .ok a → P a) (tryLibrary x) := by
  unfold tryLibrary
  exact returns_attempt hx

/-- A change of the system prints nothing. -/
theorem keeps_changeSystem (f : σ → σ) : Keeps AgentState.console (changeSystem f) := fun _ => rfl

/-- Listing the packages prints nothing. -/
theorem keeps_listPackages (command : List String)
    (columns : List String → Except AgentError (Option (String × String))) :
    Keeps AgentState.console (listPackages host command columns) :=
  keeps_bind (keeps_runCmd _ _) fun _ _ => rfl

/-- Code that prints nothing and returns results without texts. -/
def Wordless (x : Agent σ ProcessResult) : Prop :=
  Keeps AgentState.console x ∧ Returns ProcessResult.Empty x

/-- A phase without words returns a settled result. -/
theorem Wordless.settled {x : Agent σ ProcessResult} (h : Wordless x) :
    Keeps AgentState.console x ∧ Returns ProcessResult.Settled x :=
  ⟨h.1, fun s result s' hexec => (h.2 s result s' hexec).settled⟩

/-- Returning an empty result. -/
theorem wordless_pure {result : ProcessResult} (h : result.Empty) :
    Wordless (pure result : Agent σ ProcessResult) := ⟨keeps_pure _, returns_pure h⟩

/-- A command whose output is shown while it runs. -/
theorem wordless_runCmd (command : List String) : Wordless (runCmd host command true) :=
  ⟨keeps_runCmd _ _, returns_runCmd_empty _⟩

/-- Two phases, one after the other. -/
theorem wordless_bind {x : Agent σ ProcessResult} {f : ProcessResult → Agent σ ProcessResult}
    (hx : Wordless x) (hf : ∀ result : ProcessResult, result.Empty → Wordless (f result)) :
    Wordless (x >>= f) :=
  ⟨keeps_bind_of_returns hx.1 hx.2 fun a ha => (hf a ha).1,
    returns_bind hx.2 fun a ha => (hf a ha).2⟩

/-- Merging two empty results. -/
theorem wordless_mergeResult {result other : ProcessResult} (h : result.Empty) (h' : other.Empty) :
    Wordless (mergeResult result other : Agent σ ProcessResult) :=
  ⟨keeps_mergeResult_of_empty _ h', returns_mergeResult (h.iadd h')⟩

/-- A command on packages. -/
theorem wordless_runOnPackages (command packages : List String) {result : ProcessResult}
    (h : result.Empty) : Wordless (runOnPackages host command packages result) := by
  unfold runOnPackages
  split
  · apply wordless_bind (wordless_runCmd _)
    intro child hchild
    exact wordless_mergeResult h hchild
  · exact wordless_pure h

/-- The installation of the requirements says nothing itself. -/
theorem wordless_installRequirements (packageManager : String) (action : List String)
    (requirements : Option (Dict String String)) (currPkg : Packages) :
    Wordless (installRequirements host packageManager action requirements currPkg) := by
  unfold installRequirements
  apply wordless_bind (wordless_runOnPackages _ _ ProcessResult.realtimeEmpty_empty)
  intro result hresult
  exact wordless_runOnPackages _ _ hresult

/-- The refresh of APT. -/
theorem AptCli.wordless_refresh : Wordless (AptCli.refresh host) := by
  unfold AptCli.refresh
  apply wordless_bind (wordless_runCmd _)
  intro result hresult
  apply wordless_pure
  apply ProcessResult.Empty.errorFromMessages
  split
  · exact hresult
  · exact hresult

/-- Expiring the cache of DNF. -/
theorem DnfCli.wordless_expireCache (type : AgentType) (packageManager : String) :
    Wordless (DnfCli.expireCache host type packageManager) := by
  unfold DnfCli.expireCache
  split
  · exact wordless_runCmd _
  · exact wordless_pure ⟨rfl, rfl⟩

/-- The refresh of DNF. -/
theorem DnfCli.wordless_refresh (type : AgentType) (packageManager : String) (hardFail : Bool) :
    Wordless (DnfCli.refresh host type packageManager hardFail) := by
  unfold DnfCli.refresh
  apply wordless_bind (wordless_expireCache _ _)
  intro result hresult
  split
  · apply wordless_bind (wordless_runCmd _)
    intro check hcheck
    have hcheck' : (if check.code ≠ 100 then check else { check with code := 0 }).Empty := by
      split
      · exact hcheck
      · exact hcheck
    apply wordless_bind (wordless_mergeResult hresult hcheck')
    intro merged hmerged
    exact wordless_pure hmerged.errorFromMessages
  · exact wordless_pure hresult

/-! ### Results of libraries -/

/-- A result that is not printed yet, and prints nothing that is merged into it. -/
def ProcessResult.Captured (self : ProcessResult) : Prop :=
  self.realtime = false ∧ self.posted = false

/-- A captured result is settled. -/
theorem ProcessResult.Captured.settled {self : ProcessResult} (h : self.Captured) : self.Settled :=
  settled_of_not_posted h.2

/-- The result of a refresh by the library of APT. -/
theorem Apt.captured_refreshResult (outcome : Except String Bool) :
    (refreshResult outcome).Captured := by
  unfold refreshResult
  split <;> exact ⟨rfl, rfl⟩

/-- The result of an upgrade by the library of APT. -/
theorem Apt.captured_upgradeResult {result : ProcessResult} (h : result.Captured)
    (outcome : Except String Unit) : (upgradeResult result outcome).Captured := by
  unfold upgradeResult
  split
  · exact h
  · exact h

/-- A refresh by a library prints nothing, and its result is printed when it is merged. -/
theorem Apt.captured_refresh (lib : AptLibrary σ) :
    Keeps AgentState.console (refresh lib) ∧ Returns ProcessResult.Captured (refresh lib) := by
  unfold refresh
  constructor
  · apply keeps_bind (keeps_tryLibrary_console _)
    intro outcome
    exact keeps_pure _
  · apply returns_bind'
    intro outcome
    exact returns_pure (captured_refreshResult outcome)

/-- The refresh by the library of DNF prints nothing, and its result is captured. -/
theorem Dnf.captured_refresh (lib : DnfLibrary σ) :
    Keeps AgentState.console (refresh lib) ∧ Returns ProcessResult.Captured (refresh lib) := by
  unfold refresh
  constructor
  · apply keeps_bind (keeps_changeSystem _)
    intro _
    apply keeps_bind (keeps_tryLibrary_console _)
    intro outcome
    exact keeps_pure _
  · apply returns_bind'
    intro _
    apply returns_bind'
    intro outcome
    exact returns_pure (Apt.captured_refreshResult outcome)

/-- So it is with the library of DNF5. -/
theorem Dnf5.captured_refresh (lib : Dnf5Library σ) (type : AgentType) (packageManager : String)
    (hardFail : Bool) :
    Keeps AgentState.console (refresh lib host type packageManager hardFail) ∧
      Returns ProcessResult.Captured (refresh lib host type packageManager hardFail) := by
  unfold refresh
  constructor
  · apply keeps_bind (keeps_changeSystem _)
    intro _
    have hexpire := @DnfCli.wordless_expireCache _ host type packageManager
    apply keeps_bind_of_returns _ (returns_attempt hexpire.2)
    · intro outcome houtcome
      cases outcome with
      | error exc => exact keeps_pure _
      | ok result => exact keeps_mergeResult_of_empty _ (houtcome result rfl)
    · -- the command keeps the console, also where its exception is caught
      intro s
      exact hexpire.1 s
  · apply returns_bind'
    intro _
    apply returns_bind'
    intro outcome
    cases outcome with
    | error exc => exact returns_pure ⟨rfl, rfl⟩
    | ok result => exact returns_mergeResult ⟨rfl, rfl⟩

/-- `upgrade_internal` for DNF5 prints nothing. -/
theorem Dnf5.captured_upgradeInternal (lib : Dnf5Library σ) (type : AgentType)
    (removeObsolete : Bool) :
    Keeps AgentState.console (upgradeInternal lib host type removeObsolete) ∧
      Returns ProcessResult.Captured (upgradeInternal lib host type removeObsolete) := by
  unfold upgradeInternal
  constructor
  · apply keeps_bind (keeps_changeSystem _)
    intro _
    apply keeps_bind (keeps_tryLibrary_console _)
    intro outcome
    cases outcome with
    | error text => exact keeps_pure _
    | ok transaction =>
        dsimp only
        split
        · exact keeps_pure _
        · apply keeps_bind (keeps_tryLibrary_console _)
          intro outcome
          exact keeps_pure _
  · apply returns_bind'
    intro _
    apply returns_bind'
    intro outcome
    cases outcome with
    | error text => exact returns_pure ⟨rfl, rfl⟩
    | ok transaction =>
        dsimp only
        split
        · exact returns_pure ⟨rfl, rfl⟩
        · apply returns_bind'
          intro outcome
          exact returns_pure (Apt.captured_upgradeResult ⟨rfl, rfl⟩ outcome)

/-- The checks of the signatures are not printed. -/
theorem Dnf.captured_signCheck (lib : DnfLibrary σ) (packages : List String)
    {result : ProcessResult} (h : result.Captured) :
    Returns ProcessResult.Captured (signCheck lib packages result) := by
  induction packages generalizing result with
  | nil => exact returns_pure h
  | cons package rest ih =>
      unfold signCheck
      apply returns_bind'
      intro next
      exact ih h

/-- The part of `upgrade_internal` for DNF that runs the transaction. -/
theorem Dnf.captured_commit (lib : DnfLibrary σ) (type : AgentType) {result : ProcessResult}
    (h : result.Captured) : Returns ProcessResult.Captured (commit lib host type result) := by
  unfold commit
  apply returns_bind'
  intro _
  apply returns_bind'
  intro outcome
  have hresult := Apt.captured_upgradeResult h outcome
  dsimp only
  split
  · exact returns_bind' fun _ => returns_pure hresult
  · exact returns_pure hresult

/-- The result of an installation by the library of DNF is captured. -/
theorem Dnf.captured_install (lib : DnfLibrary σ) (type : AgentType) (installSet : List String) :
    Returns ProcessResult.Captured (install lib host type installSet) := by
  unfold install
  have hcheck : Returns ProcessResult.Captured
      (lib.downloadPackages installSet >>= fun _ => signCheck lib installSet {}) :=
    returns_bind' fun _ => captured_signCheck lib installSet ⟨rfl, rfl⟩
  refine returns_bind (returns_tryLibrary hcheck) ?_
  intro outcome houtcome
  cases outcome with
  | error text => exact returns_pure ⟨rfl, rfl⟩
  | ok result =>
      have hresult := houtcome result rfl
      dsimp only
      split
      · exact captured_commit lib type hresult
      · exact returns_pure hresult

/-- The result of `upgrade_internal` for DNF is printed when it is merged. -/
theorem Dnf.captured_upgradeInternal (lib : DnfLibrary σ) (type : AgentType)
    (removeObsolete : Bool) :
    Returns ProcessResult.Captured (upgradeInternal lib host type removeObsolete) := by
  have htransaction : Returns ProcessResult.Captured (transaction lib host type) := by
    unfold transaction
    apply returns_bind'
    intro outcome
    rcases outcome with text | (none | installSet)
    · exact returns_pure ⟨rfl, rfl⟩
    · exact returns_pure ⟨rfl, rfl⟩
    · exact captured_install lib type installSet
  unfold upgradeInternal
  apply returns_bind'
  intro _
  refine returns_bind htransaction ?_
  intro result hresult
  exact returns_bind' fun _ => returns_pure hresult

/-! ### Lines of DNF -/

/-- Printing lines of the agent. -/
theorem logsFrom_printTexts {lines : List String} (h : ∀ line ∈ lines, line ∈ agentLines)
    (s : AgentState σ) :
    LogsFrom (fun s => s.console.stdout) (· ∈ agentLines) (printTexts ⟨lines, []⟩) s :=
  ⟨lines, rfl, h⟩

/-- Lines for the standard output leave the other one alone. -/
theorem keeps_stderr_printTexts (lines : List String) :
    Keeps (fun s : AgentState σ => s.console.stderr) (printTexts ⟨lines, []⟩) :=
  fun _ => List.append_nil _

/-- What keeps the console prints no lines. -/
theorem logsFrom_of_keeps {α : Type} {x : Agent σ α} (h : Keeps AgentState.console x)
    (s : AgentState σ) : LogsFrom (fun s => s.console.stdout) (· ∈ agentLines) x s :=
  logsFrom_of_eq (congrArg Console.stdout (h s))

/-- So does code that prints nothing. -/
theorem keeps_stderr_of_keeps {α : Type} {x : Agent σ α} (h : Keeps AgentState.console x) :
    Keeps (fun s => s.console.stderr) x := fun s => congrArg Console.stderr (h s)

/-- Code that prints lines of the agent only. -/
def PrintsLines {α : Type} (x : Agent σ α) : Prop :=
  (∀ s, LogsFrom (fun s => s.console.stdout) (· ∈ agentLines) x s) ∧
    Keeps (fun s => s.console.stderr) x

/-- Code that prints nothing prints no other lines. -/
theorem printsLines_of_keeps {α : Type} {x : Agent σ α} (h : Keeps AgentState.console x) :
    PrintsLines x := ⟨logsFrom_of_keeps h, keeps_stderr_of_keeps h⟩

/-- Printing lines of the agent. -/
theorem printsLines_printTexts {lines : List String} (h : ∀ line ∈ lines, line ∈ agentLines) :
    PrintsLines (printTexts ⟨lines, []⟩ : Agent σ Unit) :=
  ⟨logsFrom_printTexts h, keeps_stderr_printTexts lines⟩

/-- Two pieces of code, one after the other. -/
theorem printsLines_bind {α β : Type} {x : Agent σ α} {f : α → Agent σ β} (hx : PrintsLines x)
    (hf : ∀ a, PrintsLines (f a)) : PrintsLines (x >>= f) :=
  ⟨fun s => logsFrom_bind (hx.1 s) fun a s' _ => (hf a).1 s', keeps_bind hx.2 fun a => (hf a).2⟩

/-- The transaction of DNF prints lines of the agent. -/
theorem Dnf.printsLines_commit (lib : DnfLibrary σ) (type : AgentType) (result : ProcessResult) :
    PrintsLines (commit lib host type result) := by
  unfold commit
  apply printsLines_bind (printsLines_printTexts (by decide))
  intro _
  apply printsLines_bind (printsLines_of_keeps (keeps_tryLibrary_console _))
  intro outcome
  dsimp only
  split
  · apply printsLines_bind (printsLines_printTexts (by decide))
    intro _
    exact printsLines_of_keeps (keeps_pure _)
  · exact printsLines_of_keeps (keeps_pure _)

/-- An installation by the library of DNF. -/
theorem Dnf.printsLines_install (lib : DnfLibrary σ) (type : AgentType)
    (installSet : List String) : PrintsLines (install lib host type installSet) := by
  unfold install
  apply printsLines_bind (printsLines_of_keeps (keeps_tryLibrary_console _))
  intro outcome
  cases outcome with
  | error text => exact printsLines_of_keeps (keeps_pure _)
  | ok result =>
      dsimp only
      split
      · exact printsLines_commit lib type result
      · exact printsLines_of_keeps (keeps_pure _)

/-- An upgrade by the library of DNF. -/
theorem Dnf.printsLines_upgradeInternal (lib : DnfLibrary σ) (type : AgentType)
    (removeObsolete : Bool) : PrintsLines (upgradeInternal lib host type removeObsolete) := by
  have htransaction : PrintsLines (transaction lib host type) := by
    unfold transaction
    apply printsLines_bind (printsLines_of_keeps (keeps_tryLibrary_console _))
    intro outcome
    rcases outcome with text | (none | installSet)
    · exact printsLines_of_keeps (keeps_pure _)
    · exact printsLines_of_keeps (keeps_pure _)
    · exact printsLines_install lib type installSet
  unfold upgradeInternal
  apply printsLines_bind (printsLines_of_keeps (keeps_changeSystem _))
  intro _
  apply printsLines_bind htransaction
  intro result
  apply printsLines_bind (printsLines_of_keeps (keeps_changeSystem _))
  intro _
  exact printsLines_of_keeps (keeps_pure _)

/-! ### The removal of kernels -/

namespace AptCli

/-- The child whose output `remove_obsolete_kernels` returns: the dry run if it has failed, else the
removal of what it has found. -/
def kernelsChild (host : Host σ) (system : σ) : Option ChildOutput :=
  match exec (host.communicate autoremoveCommand) system with
  | (.ok dryRun, system') =>
      if dryRun.returncode ≠ 0 then some dryRun
      else
        let packages := obsoletes (sanitizeOutput dryRun.out false)
        if packages ≠ [] then
          (exec (host.communicate (removeCommand packages)) system').1.toOption
        else none
  | (.error _, _) => none

/-- Nothing that could be shown is returned by the removal of kernels. -/
def SilentKernels (host : Host σ) (system : σ) : Prop :=
  ∀ child, kernelsChild host system = some child →
    sanitizeOutput child.out false = "" ∧ sanitizeOutput child.err false = ""

/-- The result of the removal of kernels is what its child says. -/
theorem removeObsoleteKernels_ok {s s' : AgentState σ} {kernels : ProcessResult}
    (h : exec (removeObsoleteKernels host) s = (.ok kernels, s')) :
    kernels.Captured ∧ (kernels.Empty ↔ SilentKernels host s.system) := by
  unfold removeObsoleteKernels at h
  obtain ⟨dryRun, s₁, hdry, h⟩ := exec_bind_ok h
  obtain ⟨child, system, hcall, rfl, rfl⟩ := runCmd_ok hdry
  obtain ⟨result, s₂, hremove, h⟩ := exec_bind_ok h
  rw [exec_pure] at h
  cases h
  unfold SilentKernels kernelsChild
  rw [hcall]
  dsimp only
  unfold removeObsoletes at hremove
  simp only [Bool.false_eq_true, if_false] at hremove
  split at hremove
  · -- the dry run has failed
    rename_i hfailed
    rw [ProcessResult.toBool_iff] at hfailed
    rw [exec_pure] at hremove
    cases hremove
    rw [if_pos hfailed]
    refine ⟨⟨rfl, rfl⟩, ?_⟩
    simp [ProcessResult.Empty, cleanupCode]
  · rename_i hok
    rw [ProcessResult.toBool_iff] at hok
    rw [if_neg hok]
    split at hremove
    · rename_i hpackages
      obtain ⟨removal, system', hcall', rfl, rfl⟩ := runCmd_ok hremove
      have hremoved : exec (host.communicate
          (removeCommand (obsoletes (sanitizeOutput child.out false)))) system
          = (.ok removal, system') := hcall'
      rw [if_pos hpackages, hremoved]
      refine ⟨⟨rfl, rfl⟩, ?_⟩
      simp [ProcessResult.Empty, cleanupCode, Except.toOption]
    · rename_i hpackages
      rw [exec_pure] at hremove
      cases hremove
      rw [if_neg hpackages]
      refine ⟨⟨rfl, rfl⟩, ?_⟩
      simp [ProcessResult.Empty, cleanupCode]

/-- Removing old kernels prints nothing. -/
theorem keeps_removeObsoleteKernels : Keeps AgentState.console (removeObsoleteKernels host) := by
  unfold removeObsoleteKernels
  apply keeps_bind (keeps_runCmd _ _)
  intro dryRun
  have hremove : Keeps AgentState.console (removeObsoletes host dryRun) := by
    unfold removeObsoletes
    split
    · exact keeps_pure _
    · split
      · exact keeps_runCmd _ _
      · exact keeps_pure _
  apply keeps_bind hremove
  intro result
  exact keeps_pure _

/-- Nor does an upgrade after which they are removed. -/
theorem keeps_withKernels (removeObsolete : Bool) {result : ProcessResult}
    (h : result.realtime = false) :
    Keeps AgentState.console (withKernels host removeObsolete result) := by
  unfold withKernels
  split
  · apply keeps_bind keeps_removeObsoleteKernels
    intro kernels
    exact keeps_mergeResult_of_not_realtime h kernels
  · exact keeps_pure _

/-- So the upgrade by the command of APT prints nothing itself. -/
theorem keeps_upgradeInternal (removeObsolete : Bool) :
    Keeps AgentState.console (upgradeInternal host removeObsolete) := by
  unfold upgradeInternal upgradeCommand
  apply keeps_bind_of_returns (keeps_runCmd _ _) (returns_runCmd_not_realtime _ _)
  intro result hresult
  exact keeps_withKernels removeObsolete hresult

/-- Nothing that could be shown is returned by the removal of kernels, if it is asked for. -/
def Silent (host : Host σ) (removeObsolete : Bool) (system : σ) : Prop :=
  removeObsolete = true →
    SilentKernels host
      (exec (host.communicate (packageManager :: getAction removeObsolete)) system).2

/-- The command has printed its output itself, so that of the removal counts as printed too. -/
theorem settled_upgradeInternal_iff {removeObsolete : Bool} {s s' : AgentState σ}
    {result : ProcessResult}
    (h : exec (upgradeInternal host removeObsolete) s = (.ok result, s')) :
    result.Settled ↔ Silent host removeObsolete s.system := by
  unfold upgradeInternal upgradeCommand at h
  obtain ⟨upgraded, s₁, hrun, h⟩ := exec_bind_ok h
  obtain ⟨child, system, hcall, rfl, rfl⟩ := runCmd_ok hrun
  unfold withKernels at h
  unfold Silent
  split at h
  · rename_i hremove
    obtain ⟨kernels, s₂, hkernels, h⟩ := exec_bind_ok h
    obtain ⟨-, hempty⟩ := removeObsoleteKernels_ok hkernels
    rw [exec_mergeResult] at h
    cases h
    rw [hcall, ← show kernels.Empty ↔ SilentKernels host system from hempty]
    have htexts : sanitizeOutput [] false = "" := rfl
    simp [ProcessResult.Settled, ProcessResult.iadd, ProcessResult.Empty, hremove, htexts]
  · rename_i hremove
    rw [exec_pure] at h
    cases h
    apply iff_of_true
    · exact ProcessResult.settled_of_empty rfl rfl
    · intro htrue
      exact absurd htrue hremove

end AptCli

/-- With the library of APT, the output of the removal is merged into a result that is printed
later. -/
theorem Apt.captured_upgradeInternal (lib : AptLibrary σ) (removeObsolete : Bool) :
    Keeps AgentState.console (upgradeInternal lib host removeObsolete) ∧
      Returns ProcessResult.Captured (upgradeInternal lib host removeObsolete) := by
  have hstart : ∀ outcome, (upgradeResult {} outcome).Captured :=
    captured_upgradeResult ⟨rfl, rfl⟩
  unfold upgradeInternal
  constructor
  · apply keeps_bind (keeps_tryLibrary_console _)
    intro outcome
    exact AptCli.keeps_withKernels removeObsolete (hstart outcome).1
  · apply returns_bind'
    intro outcome
    unfold AptCli.withKernels
    split
    · exact returns_bind' fun kernels => returns_mergeResult (hstart outcome)
    · exact returns_pure (hstart outcome)

/-! ### All of them -/

/-- The same package manager with other requirements. -/
def PackageManager.requiring (self : PackageManager σ)
    (requirements : Option (Dict String String)) : PackageManager σ :=
  { self with requirements := requirements }

/-- The system is such that all output of `upgrade_internal` will be shown. -/
def Backend.Silent (host : Host σ) (removeObsolete : Bool) (system : σ) : Backend σ → Prop
  | .aptCli => AptCli.Silent host removeObsolete system
  | _ => True

/-- A back end that says nothing in `upgrade_internal` is discreet if it is so before. -/
theorem PackageManager.discreet_of_keeps {manager : PackageManager σ}
    (hlisting : Keeps AgentState.console manager.getPackages)
    (hrequirements : ∀ requirements currPkg,
      Wordless (manager.installRequirements requirements currPkg))
    (hrefresh : ∀ hardFail, Keeps AgentState.console (manager.refresh hardFail) ∧
      Returns ProcessResult.Settled (manager.refresh hardFail))
    (hupgrade : ∀ removeObsolete, PrintsLines (manager.upgradeInternal removeObsolete)) :
    manager.Discreet where
  listing := hlisting
  requirements := fun requirements currPkg => (hrequirements requirements currPkg).settled
  refresh := hrefresh
  upgradeLines := fun removeObsolete => (hupgrade removeObsolete).1
  upgradeErrors := fun removeObsolete => (hupgrade removeObsolete).2

/-- Code that prints nothing and captures the output. -/
theorem settled_of_captured {x : Agent σ ProcessResult}
    (h : Keeps AgentState.console x ∧ Returns ProcessResult.Captured x) :
    Keeps AgentState.console x ∧ Returns ProcessResult.Settled x :=
  ⟨h.1, fun s result s' hexec => (h.2 s result s' hexec).settled⟩

/-- Every back end is discreet. -/
theorem Backend.discreet (backend : Backend σ) (host : Host σ) (type : AgentType)
    (requirements : Option (Dict String String)) :
    ((backend.packageManager host type).requiring requirements).Discreet := by
  cases backend with
  | aptCli =>
      apply PackageManager.discreet_of_keeps
      · exact keeps_listPackages _ _
      · exact wordless_installRequirements _ _
      · exact fun _ => AptCli.wordless_refresh.settled
      · exact fun removeObsolete =>
          printsLines_of_keeps (AptCli.keeps_upgradeInternal removeObsolete)
  | apt lib =>
      apply PackageManager.discreet_of_keeps
      · exact keeps_listPackages _ _
      · exact wordless_installRequirements _ _
      · exact fun _ => settled_of_captured (Apt.captured_refresh lib)
      · exact fun removeObsolete =>
          printsLines_of_keeps (Apt.captured_upgradeInternal lib removeObsolete).1
  | dnfCli packageManager =>
      apply PackageManager.discreet_of_keeps
      · exact keeps_listPackages _ _
      · exact wordless_installRequirements _ _
      · exact fun hardFail => (DnfCli.wordless_refresh type packageManager hardFail).settled
      · exact fun removeObsolete => printsLines_of_keeps (keeps_runCmd _ _)
  | dnf packageManager lib =>
      apply PackageManager.discreet_of_keeps
      · exact keeps_listPackages _ _
      · exact wordless_installRequirements _ _
      · exact fun _ => settled_of_captured (Dnf.captured_refresh lib)
      · exact fun removeObsolete => Dnf.printsLines_upgradeInternal lib type removeObsolete
  | dnf5 packageManager lib =>
      apply PackageManager.discreet_of_keeps
      · exact keeps_listPackages _ _
      · exact wordless_installRequirements _ _
      · exact fun hardFail =>
          settled_of_captured (Dnf5.captured_refresh lib type packageManager hardFail)
      · exact fun removeObsolete =>
          printsLines_of_keeps (Dnf5.captured_upgradeInternal lib type removeObsolete).1
  | pacmanCli =>
      apply PackageManager.discreet_of_keeps
      · exact keeps_listPackages _ _
      · exact wordless_installRequirements _ _
      · exact fun _ => (wordless_runCmd _).settled
      · exact fun removeObsolete => printsLines_of_keeps (keeps_runCmd _ _)

/-- The result of `upgrade_internal` is settled but for what is said in the removal of kernels. -/
theorem Backend.settled_upgradeInternal_iff {backend : Backend σ} {type : AgentType}
    {removeObsolete : Bool} {s s' : AgentState σ} {result : ProcessResult}
    (h : exec ((backend.packageManager host type).upgradeInternal removeObsolete) s
      = (.ok result, s')) :
    result.Settled ↔ backend.Silent host removeObsolete s.system := by
  cases backend with
  | aptCli => exact AptCli.settled_upgradeInternal_iff h
  | apt lib =>
      exact iff_of_true ((Apt.captured_upgradeInternal lib removeObsolete).2 s result s' h).settled
        trivial
  | dnfCli packageManager =>
      exact iff_of_true (returns_runCmd_empty _ s result s' h).settled trivial
  | dnf packageManager lib =>
      exact iff_of_true (Dnf.captured_upgradeInternal lib type removeObsolete s result s' h).settled
        trivial
  | dnf5 packageManager lib =>
      exact iff_of_true
        ((Dnf5.captured_upgradeInternal lib type removeObsolete).2 s result s' h).settled trivial
  | pacmanCli => exact iff_of_true (returns_runCmd_empty _ s result s' h).settled trivial

/-- In an upgrade that returns, all output is printed exactly once if and only if the back end is not
`apt-get`, or the upgrade is not reached, or the removal of kernels is not asked for or has nothing to
say. -/
theorem Backend.shownOnce_iff (backend : Backend σ) {host : Host σ} {type : AgentType}
    {requirements : Option (Dict String String)}
    {refresh hardFail removeObsolete printStreams : Bool} {s s' : AgentState σ}
    {result : ProcessResult}
    (h : exec (((backend.packageManager host type).requiring requirements).upgrade' refresh hardFail
      removeObsolete requirements) s = (.ok result, s')) :
    ((backend.packageManager host type).requiring requirements).ShownOnce refresh hardFail
        removeObsolete printStreams s result ↔
      ∀ stage s₁, exec (((backend.packageManager host type).requiring requirements).untilUpgrade
          refresh hardFail requirements) s = (.ok stage, s₁) →
        stage.reached = .upgrade → backend.Silent host removeObsolete s₁.system := by
  refine ((backend.discreet host type requirements).shownOnce_iff_settled h).trans ?_
  constructor
  · intro hall stage s₁ huntil hreached
    obtain ⟨upgraded, s₂, hrun, hsettled⟩ := hall stage s₁ huntil hreached
    exact (settled_upgradeInternal_iff hrun).mp hsettled
  · intro hall stage s₁ huntil hreached
    -- the upgrade has returned, so `upgrade_internal` has
    obtain ⟨upgraded, s₂, hrun⟩ := PackageManager.upgradeInternal_returns h huntil hreached
    exact ⟨upgraded, s₂, hrun,
      (settled_upgradeInternal_iff hrun).mpr (hall stage s₁ huntil hreached)⟩

/-! ## Kernels that are removed -/

/-- A qube with an obsolete kernel, whose removal says `removal`. -/
def kernelRemovalHost (removal : ChildOutput) : Host Unit :=
  ⟨fun command => pure <|
    if command = AptCli.autoremoveCommand then
      { returncode := 0, out := encodeAscii "Remv linux-image-6.1 [6.1.1]\n" }
    else if command = AptCli.removeCommand ["linux-image-6.1"] then removal
    else { returncode := 0 }⟩

/-- The upgrade of such a qube. -/
def kernelRun (removal : ChildOutput) : Except AgentError ProcessResult × AgentState Unit :=
  exec ((Backend.aptCli.packageManager (kernelRemovalHost removal) .vm).requiring none |>.upgrade' true true
    true none) { system := () }

/-- A removal that fails without a word. -/
theorem Backend.shownOnce_iff_silent :
    (((Backend.aptCli.packageManager (kernelRemovalHost { returncode := 1 }) .vm).requiring none).ShownOnce
        true true true true { system := () } { code := 24, realtime := true, posted := true } ↔
      ∀ stage s₁,
        exec (((Backend.aptCli.packageManager (kernelRemovalHost { returncode := 1 }) .vm).requiring
          none).untilUpgrade true true none) { system := () } = (.ok stage, s₁) →
        stage.reached = .upgrade →
        Backend.aptCli.Silent (kernelRemovalHost { returncode := 1 }) true s₁.system) := by
  have hrun : kernelRun { returncode := 1 }
      = (.ok { code := 24, realtime := true, posted := true },
        (kernelRun { returncode := 1 }).2) := rfl
  exact Backend.shownOnce_iff Backend.aptCli hrun

/-- What `apt-get` says when it cannot remove a kernel. -/
def failedRemoval : ChildOutput := { returncode := 100, err := encodeAscii "E: dpkg was interrupted" }

/-- The error of a removal is in the result, and is not printed. -/
theorem not_shownOnce_failedRemoval :
    (¬ ∀ (σ : Type) (backend : Backend σ) (host : Host σ) (type : AgentType)
      (requirements : Option (Dict String String))
      (refresh hardFail removeObsolete printStreams : Bool) (s s' : AgentState σ)
      (result : ProcessResult),
      exec (((backend.packageManager host type).requiring requirements).upgrade' refresh hardFail
        removeObsolete requirements) s = (.ok result, s') →
      ((backend.packageManager host type).requiring requirements).ShownOnce refresh hardFail
        removeObsolete printStreams s result) ∧
    (kernelRun failedRemoval).1
      = .ok { code := 24, err := "E: dpkg was interrupted", realtime := true, posted := true } ∧
    (kernelRun failedRemoval).2.console = ⟨["Refreshing package info"], []⟩ := by
  have hrun : kernelRun failedRemoval
      = (.ok { code := 24, err := "E: dpkg was interrupted", realtime := true, posted := true },
        { system := (), console := ⟨["Refreshing package info"], []⟩ }) := rfl
  refine ⟨fun h => ?_, congrArg Prod.fst hrun, congrArg (fun r => r.2.console) hrun⟩
  obtain ⟨-, honce⟩ := h Unit Backend.aptCli (kernelRemovalHost failedRemoval) .vm none true true true true
    { system := () } _ _ hrun
  -- the text of the error has not been printed
  have hlength := honce.length_stderr
  rw [PackageManager.console_upgrade hrun rfl] at hlength
  exact absurd hlength (by decide)

end QubesAdminLinux
