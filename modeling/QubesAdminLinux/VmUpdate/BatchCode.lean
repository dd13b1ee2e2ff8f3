import QubesAdminLinux.VmUpdate.UpdateManager

/-! # The exit code of a batch that is shown

The callbacks of the pool and the final statuses of the qubes both contribute to the exit code of
`UpdateManager.run`.

* **`ExactCode`** — what the code says about the results and the statuses it stands for.
* **`finalCode_exact`** — the codes computed by `run` are exact.
* **`run_exact`** — so are the codes of whole batches, whatever the order of the callbacks. -/

namespace QubesAdminLinux

namespace UpdateManager

/-- What a code says about the results of the workers, the final statuses and a requested cancel. -/
structure ExactCode (results : List (String × ProcessResult)) (statuses : Dict String FinalStatus)
    (terminated : Bool) (code : Int) : Prop where
  /-- The code 0 is returned exactly if nothing went wrong. -/
  zero_iff : code = 0 ↔ (∀ result ∈ results, result.2.code = 0) ∧
    (∀ q status, statuses.get? q = some status → status = .success ∨ status = .noUpdates) ∧
    terminated = false
  /-- A requested cancel, or a cancelled qube, decides the code. -/
  interrupted : (terminated = true ∨ ∃ q, statuses.get? q = some .cancelled) → code = 130
  /-- The code for "no updates" is left to the caller. -/
  ne_noUpdates : code ≠ 100
  /-- The code counts at least as much as every expected error of a worker. -/
  handled_le : terminated = false → (∀ q, statuses.get? q ≠ some .cancelled) →
    ∀ result ∈ results, result.2.code ∈ [21, 22, 23, 24, 25] → result.2.code ≤ code

/-- An expected error of a worker counts as itself. -/
theorem vmCode_of_handled {code : Int} (h : code ∈ [21, 22, 23, 24, 25]) : vmCode code = code := by
  simp only [List.mem_cons, List.not_mem_nil, or_false] at h
  rcases h with rfl | rfl | rfl | rfl | rfl <;> decide

/-- The collected code is an upper bound of the codes of the workers. -/
theorem vmCode_le_collectedCode {results : List (String × ProcessResult)}
    {result : String × ProcessResult} (h : result ∈ results) :
    vmCode result.2.code ≤ collectedCode results :=
  ((collectedCode_le_iff results _).mp le_rfl).2 result h

/-- Without an interrupt, the exit code is at least the collected one. -/
theorem collected_le_finalCode (collected : Int) (stats : List FinalStatus) :
    collected ≤ finalCode false collected stats := by
  unfold finalCode
  simp only [Bool.false_eq_true, if_false]
  split <;> split <;> split <;> simp

/-- Without an interrupt, the code 0 means that the workers and the statuses are fine. -/
theorem finalCode_eq_zero {collected : Int} (hle : collected ≤ 26)
    (stats : List FinalStatus) :
    finalCode false collected stats = 0 ↔
      collected = 0 ∧ ∀ status ∈ stats, status = .success ∨ status = .noUpdates := by
  rw [finalCode_eq hle]
  constructor
  · intro hzero
    by_cases hcancelled : .cancelled ∈ stats
    · rw [if_pos hcancelled] at hzero
      cases hzero
    by_cases hunknown : .unknown ∈ stats
    · rw [if_neg hcancelled, if_pos hunknown] at hzero
      cases hzero
    by_cases herror : .error ∈ stats
    · -- the code of an error is 1, and that of the workers at most raises it
      rw [if_neg hcancelled, if_neg hunknown, if_pos herror] at hzero
      have hone : (1 : Int) ≤ 0 := hzero ▸ le_max_right collected Exit.err
      exact absurd hone (by decide)
    rw [if_neg hcancelled, if_neg hunknown, if_neg herror] at hzero
    refine ⟨hzero, fun status hmem => ?_⟩
    cases status with
    | success => exact Or.inl rfl
    | noUpdates => exact Or.inr rfl
    | error => exact absurd hmem herror
    | cancelled => exact absurd hmem hcancelled
    | unknown => exact absurd hmem hunknown
  · rintro ⟨hzero, hall⟩
    have hnot : ∀ status : FinalStatus, status ≠ .success → status ≠ .noUpdates →
        status ∉ stats := fun status hsuccess hnoUpdates hmem =>
      (hall status hmem).elim hsuccess hnoUpdates
    rw [if_neg (hnot _ (by decide) (by decide)), if_neg (hnot _ (by decide) (by decide)),
      if_neg (hnot _ (by decide) (by decide)), hzero]

/-- Neither the workers nor the statuses lead to the code for "no updates". -/
theorem finalCode_ne_noUpdates (terminated : Bool) {collected : Int} (hle : collected ≤ 26)
    (stats : List FinalStatus) : finalCode terminated collected stats ≠ 100 := by
  cases terminated with
  | true =>
      rw [finalCode_terminated]
      decide
  | false =>
      rw [finalCode_eq hle]
      split
      · decide
      · split
        · decide
        · split
          · simp only [Exit.err]
            omega
          · omega

/-- The code computed from the results and the statuses of a batch is exact. -/
theorem finalCode_exact (results : List (String × ProcessResult))
    (statuses : Dict String FinalStatus) (terminated : Bool) :
    ExactCode results statuses terminated
      (finalCode terminated (collectedCode results) statuses.values) := by
  have hle := (collectedCode_bounds results).2
  refine ⟨?_, ?_, finalCode_ne_noUpdates terminated hle _, ?_⟩
  · cases terminated with
    | true =>
        rw [finalCode_terminated]
        simp [Exit.sigint]
    | false =>
        rw [finalCode_eq_zero hle, collectedCode_eq_zero, and_iff_left rfl]
        refine and_congr_right fun _ => ⟨fun hall q status hget => ?_, fun hall status hmem => ?_⟩
        · exact hall status ((Dict.mem_values statuses status).mpr ⟨q, hget⟩)
        · obtain ⟨q, hget⟩ := (Dict.mem_values statuses status).mp hmem
          exact hall q status hget
  · intro hinterrupted
    cases terminated with
    | true => exact finalCode_terminated _ _
    | false =>
        obtain ⟨q, hget⟩ := hinterrupted.resolve_left Bool.false_ne_true
        have hmem : .cancelled ∈ statuses.values := (Dict.mem_values statuses _).mpr ⟨q, hget⟩
        rw [finalCode_eq hle, if_pos hmem]
        rfl
  · rintro rfl - result hmem hhandled
    have hworker := vmCode_le_collectedCode hmem
    rw [vmCode_of_handled hhandled] at hworker
    exact hworker.trans (collected_le_finalCode _ _)

/-- The workers of a batch report complete sequences under the displayed names, each ending with the
final status of its qube. -/
structure ReportsUnder (names : List String) (final : String → FinalStatus)
    (queue : List (Message PyFloat)) : Prop where
  /-- The messages of the qubes are interleaved on the queue. -/
  interleaved : ∃ f, Interleaving f queue ∧ (∀ q, q ∉ names → f q = []) ∧
    ∀ q ∈ names, MultipleUpdateMultipleProgressBar.Complete q (final q) (f q)

variable {manager : UpdateManager} {agentArgs : Args} {outcome : BatchOutcome}

/-- Whatever a batch returns is computed from the results and the statuses it returns. -/
theorem run_eq_ok {code : Int} {statuses : Dict String FinalStatus} (hqubes : manager.qubes ≠ [])
    (hcode : manager.retCode = Exit.ok)
    (h : manager.run agentArgs outcome = .ok (code, statuses)) :
    code = finalCode outcome.terminated (collectedCode outcome.results) statuses.values := by
  rw [run, if_neg hqubes] at h
  cases hsetUp : manager.setUp agentArgs with
  | error exc =>
      rw [hsetUp] at h
      cases h
  | ok bars =>
      rw [hsetUp] at h
      cases hfeeding : bars.feeding outcome.queue with
      | raised exc =>
          simp only [hfeeding] at h
          cases h
      | blocked bars' =>
          simp only [hfeeding] at h
          cases h
      | returned bars' rest =>
          simp only [hfeeding, retCode_foldl_collectResult, hcode, Except.ok.injEq,
            Prod.mk.injEq] at h
          obtain ⟨rfl, rfl⟩ := h
          rfl

/-- The order of the callbacks decides nothing: neither whether a batch returns, nor what. -/
theorem run_perm {queue : List (Message PyFloat)} {terminated : Bool}
    {results results' : List (String × ProcessResult)} (hcode : manager.retCode = Exit.ok)
    (hperm : results.Perm results') :
    manager.run agentArgs ⟨queue, results, terminated⟩
      = manager.run agentArgs ⟨queue, results', terminated⟩ := by
  have hcollected : (results.foldl collectResult manager).retCode
      = (results'.foldl collectResult manager).retCode := by
    rw [retCode_foldl_collectResult, retCode_foldl_collectResult, hcode]
    exact collectedCode_perm hperm
  unfold run
  simp only [hcollected]

/-- With a display and distinct displayed names, a batch returns the final status of each qube. -/
theorem run_shown_under {names : List String} {final : String → FinalStatus}
    (h : manager.showProgress = true) (hqubes : manager.qubes ≠ [])
    (hnames : manager.qubes.map (shownName · agentArgs) = names) (hnodup : names.Nodup)
    (hadmin : ∀ qube ∈ manager.qubes, qube.klass = .adminVM →
      shownName qube agentArgs = qube.name)
    (hreports : ReportsUnder names final outcome.queue) :
    ∃ code statuses, manager.run agentArgs outcome = .ok (code, statuses) ∧
      ∀ q, statuses.get? q = if q ∈ names then some (final q) else none := by
  obtain ⟨f, hqueue, hsender, hcomplete⟩ := hreports.interleaved
  have hstart : MultipleUpdateMultipleProgressBar.Fresh [] manager.progressBar := by
    refine ⟨?_, rfl, rfl, by simp, rfl, fun _ => rfl⟩
    rw [progressBar, h]
    rfl
  obtain ⟨bars, hadd, hfresh⟩ := addQubes_fresh_shown manager hstart hadmin
    (by rwa [List.nil_append, hnames])
  rw [List.nil_append, hnames] at hfresh
  obtain ⟨bars', hfeeding, hstatuses, -⟩ := hfresh.feeding hnodup hsender hcomplete hqueue
  refine ⟨finalCode outcome.terminated (outcome.results.foldl collectResult manager).retCode
    bars'.statuses.values, bars'.statuses, ?_, hstatuses⟩
  rw [run, if_neg hqubes, setUp, hadd]
  simp only [hfeeding]

/-- The code of a batch that is shown does not depend on the order in which its results are collected,
and it is exact whenever the batch returns; the batch returns, with the final status of each qube,
whenever the qubes are displayed under distinct names and each of them reports a final status. -/
theorem run_exact {qubes : List Qube} (args agentArgs : Args) (dom0 : Bool) (hqubes : qubes ≠ [])
    (hshow : args.showProgress = true) (queue : List (Message PyFloat)) (terminated : Bool)
    {results results' : List (String × ProcessResult)} (hperm : results.Perm results') :
    (init qubes args dom0).run agentArgs ⟨queue, results, terminated⟩
        = (init qubes args dom0).run agentArgs ⟨queue, results', terminated⟩ ∧
      (∀ code statuses,
        (init qubes args dom0).run agentArgs ⟨queue, results, terminated⟩ = .ok (code, statuses) →
          ExactCode results statuses terminated code) ∧
      ∀ (names : List String) (final : String → FinalStatus),
        qubes.map (shownName · agentArgs) = names → names.Nodup →
        (∀ qube ∈ qubes, qube.klass = .adminVM → shownName qube agentArgs = qube.name) →
        ReportsUnder names final queue →
        ∃ code statuses,
          (init qubes args dom0).run agentArgs ⟨queue, results, terminated⟩
            = .ok (code, statuses) ∧
          ∀ q, statuses.get? q = if q ∈ names then some (final q) else none := by
  refine ⟨run_perm rfl hperm, fun code statuses hrun => ?_,
    fun names final hnames hnodup hadmin hreports => ?_⟩
  · rw [run_eq_ok hqubes rfl hrun]
    exact finalCode_exact results statuses terminated
  · exact run_shown_under hshow hqubes hnames hnodup hadmin hreports

/-- Two qubes of a batch. -/
def twoTemplates : List Qube :=
  [⟨"fedora", .templateVM, templateVM_adminName "fedora"⟩,
    ⟨"debian", .templateVM, templateVM_adminName "debian"⟩]

/-- What they report: one is up to date, the other one fails. -/
def twoReports : List (Message PyFloat) :=
  [.status (.done "debian" .error), .status (.done "fedora" .noUpdates)]

/-- The result of a worker that returns nothing but a code. -/
def resultOf (qubeName : String) (code : Int) : String × ProcessResult := (qubeName, { code })

/-- The results of the two qubes can be collected in both orders. -/
theorem run_exact_two :
    (init twoTemplates {} false).run {}
        ⟨twoReports, [resultOf "fedora" 0, resultOf "debian" 23], false⟩
      = (init twoTemplates {} false).run {}
        ⟨twoReports, [resultOf "debian" 23, resultOf "fedora" 0], false⟩ :=
  (run_exact {} {} false (List.cons_ne_nil _ _) rfl twoReports false
    (List.Perm.swap (resultOf "debian" 23) (resultOf "fedora" 0) [])).1

end UpdateManager

end QubesAdminLinux
