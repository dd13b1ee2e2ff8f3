import QubesAdminLinux.Dom0Updates.ReceiveUpdates

/-! # Transfers that overlap

Nothing keeps two runs of `qubes-receive-updates` apart: both rewrite packages into the same directory
before they verify them there, and both make its metadata.

* **`pending`** — the packages that a run has written to the directory and not yet verified.
* **`IndexesAlone`** — no run makes the metadata while another one has such packages.
* **`metadata_confirmed`** — in every interleaving of this kind, what the metadata describes when a run
  exits with 0 has been confirmed by `rpmkeys`.
* **`overlap_unverified`** — an interleaving of another kind in which it has not. -/

namespace QubesAdminLinux

namespace ReceiveUpdates

open Proc

variable {χ : Type}

/-! ## One run -/

/-- The package that an event writes to the directory. -/
def newPackage : UpdatesEvent χ → List String
  | ⟨.rpmcanon _ f, (_, some _)⟩ => [f]
  | _ => []

/-- Whether there are no packages after an event, whatever there has been before. -/
def clearsPackages : UpdatesEvent χ → Bool
  | ⟨.rmtree .rpm, .ok ()⟩ => true
  | ⟨.mkdir, .ok ()⟩ => true
  | _ => false

/-- Whether an event confirms the package `f`. -/
def confirmsPackage (f : String) : UpdatesEvent χ → Bool
  | ⟨.rpmkeys f', result⟩ => f' = f && confirms f' result
  | _ => false

/-- What an event does to the packages that a run has written and not yet verified. -/
def pendingStep (files : List String) (e : UpdatesEvent χ) : List String :=
  newPackage e ++ files.filter fun f => !(confirmsPackage f e || clearsPackages e)

/-- The packages that a run has written to the directory and neither verified nor removed. -/
def pending (t : List (UpdatesEvent χ)) : List String := t.foldl pendingStep []

/-- A package stays pending until the run confirms it or the directory is removed. -/
theorem mem_pendingStep {files : List String} {e : UpdatesEvent χ} {f : String} (h : f ∈ files)
    (hconfirms : confirmsPackage f e = false) (hclears : clearsPackages e = false) :
    f ∈ pendingStep files e :=
  List.mem_append_right _ (List.mem_filter.mpr ⟨h, by simp [hconfirms, hclears]⟩)

/-- What is pending grows with what was pending before. -/
theorem pendingStep_subset {files files' : List String} (h : files ⊆ files') (e : UpdatesEvent χ) :
    pendingStep files e ⊆ pendingStep files' e :=
  List.append_subset.mpr ⟨List.subset_append_left _ _,
    List.subset_append_of_subset_right _ (List.filter_subset _ h)⟩

/-- What is pending after two parts of a trace. -/
theorem pending_append (t₁ t₂ : List (UpdatesEvent χ)) :
    pending (t₁ ++ t₂) = t₂.foldl pendingStep (pending t₁) := List.foldl_append

/-- Whether an event makes the metadata. -/
def makesMetadata : UpdatesEvent χ → Bool
  | ⟨.createrepo _, _⟩ => true
  | _ => false

/-- An event that neither writes a package nor makes the metadata. -/
structure Harmless (e : UpdatesEvent χ) : Prop where
  /-- Nothing is written. -/
  noPackage : newPackage e = []
  /-- No metadata. -/
  noMetadata : makesMetadata e = false

/-- Nothing is pending after harmless calls. -/
theorem pending_harmless {t : List (UpdatesEvent χ)} (h : ∀ e ∈ t, Harmless e) :
    t.foldl pendingStep [] = [] := by
  induction t with
  | nil => rfl
  | cons e rest ih =>
      rw [List.forall_mem_cons] at h
      rw [List.foldl_cons, pendingStep, h.1.noPackage]
      exact ih h.2

/-- Preparing the directories is harmless. -/
theorem harmless_prepareDirectories :
    Emits Harmless (prepareDirectories : UpdatesM χ Nat) := by
  refine emits_prepareDirectories ?_ ?_ ?_ ?_ ?_ ?_ ?_
  · exact fun _ _ => ⟨rfl, rfl⟩
  · rintro (_ | _ | _) (exc | ⟨⟩)
    all_goals exact ⟨rfl, rfl⟩
  · exact fun _ => ⟨rfl, rfl⟩
  · exact fun _ => ⟨rfl, rfl⟩
  · rintro (exc | ⟨⟩)
    · exact ⟨rfl, rfl⟩
    · exact ⟨rfl, rfl⟩
  · exact fun _ _ _ => ⟨rfl, rfl⟩
  · exact fun _ _ _ => ⟨rfl, rfl⟩

/-- Files that have passed are no longer pending. -/
theorem FilesVerified.pending {tmpDir : String} {files : List String} {t : List (UpdatesEvent χ)}
    (h : FilesVerified tmpDir files t) :
    t.foldl pendingStep [] = [] ∧ ∀ e ∈ t, makesMetadata e = false := by
  induction h with
  | nil => exact ⟨rfl, by simp⟩
  | @cons f rest t written result haccepted hconfirms hrest ih =>
      refine ⟨?_, ?_⟩
      · -- whether or not something was written, it is confirmed in the end
        have hfile : [⟨.isRegular (tmpDir ++ "/" ++ f), .ok true⟩, ⟨.rpmcanon tmpDir f,
            (.ok (), written)⟩, ⟨.unlink (tmpDir ++ "/" ++ f), .ok ()⟩,
            (⟨.rpmkeys f, result⟩ : UpdatesEvent χ)].foldl pendingStep [] = [] := by
          cases written with
          | none => simp [pendingStep, newPackage]
          | some content =>
              simp [pendingStep, newPackage, confirmsPackage, clearsPackages, hconfirms]
        change List.foldl pendingStep (List.foldl pendingStep [] [_, _, _, _]) t = []
        rw [hfile]
        exact ih.1
      · simp only [List.forall_mem_cons]
        exact ⟨rfl, rfl, rfl, rfl, ih.2⟩

/-- A complete reception leaves nothing pending, and makes no metadata. -/
theorem Received.pending {t : List (UpdatesEvent χ)} (h : Received t) :
    t.foldl pendingStep [] = [] ∧ ∀ e ∈ t, makesMetadata e = false := by
  obtain ⟨tmpDir, files, t₁, hfiles, rfl⟩ := h
  obtain ⟨hpending, hmetadata⟩ := hfiles.pending
  rw [List.foldl_append, List.foldl_append]
  refine ⟨?_, ?_⟩
  · have hstart : List.foldl pendingStep [] ([⟨.mkdtemp, .ok tmpDir⟩, ⟨.unpack tmpDir, .ok ()⟩,
        ⟨.listdir tmpDir, .ok files⟩] : List (UpdatesEvent χ)) = [] := rfl
    rw [hstart, hpending]
    rfl
  · rw [List.forall_mem_append, List.forall_mem_append]
    exact ⟨⟨by simp [makesMetadata], hmetadata⟩, by simp [makesMetadata]⟩

/-- The metadata is not made while files are received. -/
theorem emits_withTemporaryDirectory (source : String) :
    Emits (fun e => makesMetadata e = false)
      (withTemporaryDirectory (receiveFiles source) : UpdatesM χ Unit) := by
  have hfiles : ∀ (tmpDir : String) (files : List String),
      Emits (fun e => makesMetadata e = false) (verifyFiles source tmpDir files : UpdatesM χ Unit) := by
    intro tmpDir files
    induction files with
    | nil => exact emits_pure
    | cons f rest ih =>
        refine emits_bind ?_ fun _ => ih
        rw [verifyFile]
        split
        · exact emits_throw
        split
        · exact emits_throw
        refine emits_bind (emits_ask fun _ => rfl) fun regular => ?_
        split
        · exact emits_throw
        refine emits_bind (emits_tryCatch (emits_ask fun _ => rfl) fun exc => ?_) fun _ =>
          emits_bind (emits_ask fun _ => rfl) fun _ =>
            emits_bind (emits_ask fun _ => rfl) fun result => ?_
        · split
          · exact emits_throw
          · exact emits_throw
        · dsimp only
          split
          · exact emits_throw
          · split
            · exact emits_throw
            · exact emits_pure
  refine emits_bind (emits_ask fun _ => rfl) fun tmpDir => emits_bind (emits_observe
    (emits_bind (emits_ask fun _ => rfl) fun _ => emits_bind (emits_ask fun _ => rfl)
      fun files => hfiles tmpDir files)) fun outcome =>
    emits_bind (emits_ask fun _ => rfl) fun _ => ?_
  cases outcome with
  | ok a => exact emits_pure
  | error exc => exact emits_throw

/-- The handler makes no metadata, and the process does not exit with 0. -/
theorem runs_dom0updatesFatal_not_zero {msg : String} {t : List (UpdatesEvent χ)}
    {r : Except Raised Unit} (h : Runs (dom0updatesFatal msg : UpdatesM χ Unit) () t r ()) :
    (∀ e ∈ t, makesMetadata e = false) ∧ exitCode r ≠ 0 := by
  have hemits : Emits (fun e => makesMetadata e = false) (dom0updatesFatal msg : UpdatesM χ Unit) :=
    emits_bind (emits_ask fun _ => rfl) fun _ => emits_bind (emits_ask fun _ => rfl) fun _ =>
      emits_throw
  refine ⟨hemits _ _ _ _ h, ?_⟩
  rcases runs_bind.mp h with ⟨exc, rfl, happend⟩ | ⟨_, t₁, t₂, u₁, rfl, -, hrest⟩
  · obtain ⟨failure, rfl⟩ := (yields_ask_raising (.appendError (msg ++ "\n")) id _ _ _ _ happend
      fun _ _ => trivial).2 exc rfl
    exact one_ne_zero
  rcases runs_bind.mp hrest with ⟨exc, rfl, hremove⟩ | ⟨_, t₃, t₄, u₂, rfl, -, hexit⟩
  · obtain ⟨failure, rfl⟩ := (yields_ask_raising (.rmtree .rpm) id _ _ _ _ hremove
      fun _ _ => trivial).2 exc rfl
    exact one_ne_zero
  · obtain ⟨rfl, rfl, -⟩ := runs_throw.mp hexit
    exact one_ne_zero

/-- The preparation raises exceptions of the class `Exception` only. -/
theorem yields_prepareDirectories :
    Yields (fun _ => True) (fun _ => True) IsFailure (prepareDirectories : UpdatesM χ Nat) := by
  have hexists : ∀ place, Yields (fun _ => True) (fun _ => True) IsFailure
      (request (UpdatesCall.pathExists place) : UpdatesM χ Bool) :=
    fun place => yields_request (c := UpdatesCall.pathExists place) fun _ _ => trivial
  have hremove : ∀ place, Yields (fun _ => True) (fun _ => True) IsFailure
      (removeIfExists place : UpdatesM χ Unit) := by
    intro place
    refine yields_bind (hexists place) fun present _ => ?_
    split
    · exact yields_ask_raising (.rmtree place) id
    · exact yields_pure trivial
  have herrors : Yields (fun _ => True) (fun _ => True) IsFailure
      (removeErrorFile : UpdatesM χ Unit) := by
    refine yields_bind (hexists .errors) fun present _ => ?_
    split
    · exact yields_ask_raising .removeErrors id
    · exact yields_pure trivial
  exact yields_bind (hremove .rpm) fun _ _ => yields_bind (hremove .repodata) fun _ _ =>
    yields_bind herrors fun _ _ => yields_bind (yields_ask_raising .getgrnam id) fun gid _ =>
    yields_bind (yields_ask_raising .mkdir id) fun _ _ =>
    yields_bind (yields_ask_raising (.chown .rpm gid) id) fun _ _ =>
    yields_bind (yields_ask_raising (.chmod .rpm 0o0775) id) fun _ _ => yields_pure trivial

/-- The metadata is made first, and without it the process does not exit with 0. -/
theorem runs_makeMetadata_createrepo {compsFile : Option String} {qubesGid : Nat}
    {t : List (UpdatesEvent χ)} {r : Except Raised Unit}
    (h : Runs (makeMetadata compsFile qubesGid : UpdatesM χ Unit) () t r ()) :
    ∃ reply t', t = ⟨.createrepo compsFile, reply⟩ :: t' ∧ (∀ e ∈ t', makesMetadata e = false) ∧
      (exitCode r = 0 → reply = .ok ()) := by
  rcases runs_bind.mp h with ⟨exc, rfl, hcreate⟩ | ⟨_, t₁, t₂, u₁, rfl, hcreate, hrest⟩
  · obtain ⟨reply, rfl, hreply, -⟩ := runs_ask.mp hcreate
    rcases reply with failure | ⟨⟩
    · cases hreply
      exact ⟨.error failure, [], rfl, by simp, fun h => absurd h one_ne_zero⟩
    · cases hreply
  · obtain ⟨reply, rfl, hreply⟩ := runs_ask_ok hcreate
    have hemits : Emits (fun e => makesMetadata e = false) (do
        ask (.chown .repodata qubesGid) raising
        ask (.chmod .repodata 0o0775) raising
        throw (.systemExit 0) : UpdatesM χ Unit) :=
      emits_bind (emits_ask fun _ => rfl) fun _ => emits_bind (emits_ask fun _ => rfl) fun _ =>
        emits_throw
    exact ⟨reply, t₂, rfl, hemits _ _ _ _ hrest, fun _ => raising_eq_ok.mp hreply⟩

/-- A run makes the metadata only after it has made the directory, and when it has no pending
packages. -/
theorem pending_of_createrepo {compsFile comps : Option String} {updatevm : String}
    {reply : Except Failure Unit} {t₁ t₂ : List (UpdatesEvent χ)} {r : Except Raised Unit}
    (h : Runs (handleDom0updates compsFile (some updatevm) updatevm : UpdatesM χ Unit) ()
      (t₁ ++ ⟨.createrepo comps, reply⟩ :: t₂) r ()) :
    ⟨.mkdir, .ok ()⟩ ∈ t₁ ∧ pending t₁ = [] := by
  generalize ht : t₁ ++ ⟨.createrepo comps, reply⟩ :: t₂ = t at h
  have hmem : ⟨.createrepo comps, reply⟩ ∈ t := by
    rw [← ht]
    simp
  rcases runs_handleDom0updates h with
    ⟨exc, -, hprepare⟩ | ⟨qubesGid, s₀, s₁, s₂, u₀, u₁, rfl, hprepare, hrest⟩
  · cases (harmless_prepareDirectories _ _ _ _ hprepare _ hmem).noMetadata
  have hstart := harmless_prepareDirectories _ _ _ _ hprepare
  rcases hrest with ⟨exc, hraise, hfatal⟩ | ⟨hreceived, hmetadata⟩
  · -- no metadata at all
    rcases List.mem_append.mp hmem with hmem | hmem
    · rcases List.mem_append.mp hmem with hmem | hmem
      · cases (hstart _ hmem).noMetadata
      · cases emits_withTemporaryDirectory updatevm _ _ _ _ hraise _ hmem
    · cases (runs_dom0updatesFatal_not_zero hfatal.2).1 _ hmem
  · obtain ⟨reply', t', rfl, hlast, -⟩ := runs_makeMetadata_createrepo hmetadata
    have hfirst : ∀ e ∈ s₀ ++ s₁, makesMetadata e = false := by
      rw [List.forall_mem_append]
      exact ⟨fun e he => (hstart e he).noMetadata, hreceived.pending.2⟩
    -- there is only one event that makes the metadata
    have hnot : ∀ l : List (UpdatesEvent χ), (∀ e ∈ l, makesMetadata e = false) →
        (⟨.createrepo comps, reply⟩ : UpdatesEvent χ) ∉ l := by
      intro l hl hin
      cases hl _ hin
    obtain ⟨hcut, -, -⟩ :=
      (List.append_cons_inj_of_notMem (hnot _ hfirst) (hnot _ hlast)).mp ht.symm
    rw [← hcut]
    refine ⟨?_, ?_⟩
    · obtain ⟨t₀, rfl⟩ := runs_prepareDirectories_ok hprepare
      simp
    · rw [pending_append, pending, pending_harmless hstart]
      exact hreceived.pending.1

/-- A run that exits with 0 has made the metadata. -/
theorem createrepo_of_exitCode {compsFile : Option String} {updatevm : String}
    {t : List (UpdatesEvent χ)} {r : Except Raised Unit}
    (h : Runs (handleDom0updates compsFile (some updatevm) updatevm : UpdatesM χ Unit) () t r ())
    (hr : exitCode r = 0) : ⟨.createrepo compsFile, .ok ()⟩ ∈ t := by
  rcases runs_handleDom0updates h with
    ⟨exc, rfl, hprepare⟩ | ⟨qubesGid, t₀, t₁, t₂, u₀, u₁, rfl, hprepare, hrest⟩
  · obtain ⟨failure, rfl⟩ :=
      (yields_prepareDirectories _ _ _ _ hprepare fun _ _ => trivial).2 exc rfl
    exact absurd hr one_ne_zero
  rcases hrest with ⟨exc, -, hfatal⟩ | ⟨-, hmetadata⟩
  · exact absurd hr (runs_dom0updatesFatal_not_zero hfatal.2).2
  · obtain ⟨reply, t', rfl, -, hzero⟩ := runs_makeMetadata_createrepo hmetadata
    rw [hzero hr]
    simp

/-! ## One step -/

/-- A package that is there after an event has been there before, or is the one that the event
writes. -/
theorem package?_answer {repository : Repository χ} {e : UpdatesEvent χ} {f : String} {content : χ}
    (h : (repository.answer e).package? f = some content) :
    (∃ tmpDir outcome, e = ⟨.rpmcanon tmpDir f, (outcome, some content)⟩) ∨
      (repository.package? f = some content ∧ clearsPackages e = false) := by
  revert h
  fun_cases Repository.answer repository e with
  | case1 place =>
      intro h
      cases place with
      | rpm => cases h
      | repodata => exact Or.inr ⟨h, rfl⟩
      | errors => exact Or.inr ⟨h, rfl⟩
  | case2 => exact fun h => Or.inr ⟨h, rfl⟩
  | case3 =>
      intro h
      cases h
  | case4 tmpDir f' outcome written =>
      intro h
      obtain ⟨packages', hpackages', hget⟩ := Option.bind_eq_some_iff.mp h
      obtain ⟨packages, hpackages, rfl⟩ := Option.map_eq_some_iff.mp hpackages'
      rw [Dict.get?_set] at hget
      by_cases hf : f = f'
      · rw [if_pos hf] at hget
        cases hget
        subst hf
        exact Or.inl ⟨tmpDir, outcome, rfl⟩
      · rw [if_neg hf] at hget
        exact Or.inr ⟨Option.bind_eq_some_iff.mpr ⟨packages, hpackages, hget⟩, rfl⟩
  | case5 => exact fun h => Or.inr ⟨h, rfl⟩
  | case6 => exact fun h => Or.inr ⟨h, rfl⟩
  | case7 => exact fun h => Or.inr ⟨h, rfl⟩
  | case8 => exact fun h => Or.inr ⟨h, rfl⟩
  | case9 => exact fun h => Or.inr ⟨h, rfl⟩
  | case10 _ hrmtree herrors hmkdir =>
      refine fun h => Or.inr ⟨h, ?_⟩
      fun_cases clearsPackages e with
      | case1 => exact absurd rfl (hrmtree .rpm)
      | case2 => exact absurd rfl hmkdir
      | case3 => rfl

/-- Nothing takes a confirmation back. -/
theorem confirmed_answer (repository : Repository χ) (e : UpdatesEvent χ) :
    repository.confirmed ⊆ (repository.answer e).confirmed := by
  fun_cases Repository.answer repository e with
  | case1 place => cases place <;> exact List.Subset.refl _
  | case5 => exact List.subset_cons_self _ _
  | _ => exact List.Subset.refl _

/-- A confirmed package is recorded. -/
theorem mem_confirmed_answer {repository : Repository χ} {e : UpdatesEvent χ} {f : String}
    {content : χ} (hget : repository.package? f = some content)
    (hconfirms : confirmsPackage f e = true) :
    (f, content) ∈ (repository.answer e).confirmed := by
  revert hconfirms
  fun_cases confirmsPackage f e with
  | case1 f' result =>
      intro hconfirms
      simp only [Bool.and_eq_true, decide_eq_true_eq] at hconfirms
      obtain ⟨rfl, hconfirms⟩ := hconfirms
      have hanswer := answer_rpmkeys repository f' result
      rw [hget] at hanswer
      dsimp only at hanswer
      rw [if_pos hconfirms] at hanswer
      exact hanswer ▸ List.mem_cons_self
  | case2 =>
      intro hconfirms
      cases hconfirms

/-- The metadata after an event has been there before, or describes the packages that are there. -/
theorem repodata_answer {repository : Repository χ} {e : UpdatesEvent χ} {described : Dict String χ}
    (h : (repository.answer e).repodata = some described) :
    repository.repodata = some described ∨
      ((∃ comps, e = ⟨.createrepo comps, .ok ()⟩) ∧ described = repository.rpm.getD Dict.empty) := by
  revert h
  fun_cases Repository.answer repository e with
  | case1 place =>
      intro h
      cases place with
      | rpm => exact Or.inl h
      | repodata => cases h
      | errors => exact Or.inl h
  | case9 comps => exact fun h => Or.inr ⟨⟨comps, rfl⟩, (Option.some.inj h).symm⟩
  | _ => exact Or.inl

/-! ## Interleavings -/

variable {ι : Type} [DecidableEq ι]

/-- What is in the logs of several runs. -/
abbrev UpdatesLabel (ι χ : Type) := Label ι Empty (UpdatesCall.Reply χ)

/-- A run that the UpdateVM has started. -/
def transfer (compsFile : Option String) (updatevm : String) :
    Program UpdatesCall (UpdatesCall.Reply χ) (Except Raised Unit × Unit) :=
  (handleDom0updates compsFile (some updatevm) updatevm).run ()

/-- The repository after the entries of a log. -/
def repositoryAfter (initial : Repository χ) (log : List (UpdatesLabel ι χ)) : Repository χ :=
  log.foldl (updatesMemory χ).next initial

/-- What an entry of the log does to the packages that the run `i` has not yet verified. -/
def outstandingStep (i : ι) (files : List String) : UpdatesLabel ι χ → List String
  | .thread j e => if j = i then pendingStep files e else if clearsPackages e then [] else files
  | .signal _ => files

/-- The packages that the run `i` has written to the directory and not yet verified, and that no run
has removed. -/
def outstanding (i : ι) (log : List (UpdatesLabel ι χ)) : List String :=
  log.foldl (outstandingStep i) []

/-- If an entry that follows a log makes the metadata, no other run has such packages. -/
def MakesAlone (log : List (UpdatesLabel ι χ)) : UpdatesLabel ι χ → Prop
  | .thread i e => makesMetadata e = true → ∀ j, j ≠ i → outstanding j log = []
  | .signal _ => True

/-- No run makes the metadata while another one has such packages. -/
def IndexesAlone (log : List (UpdatesLabel ι χ)) : Prop :=
  ∀ k (h : k < log.length), MakesAlone (log.take k) log[k]

instance [Fintype ι] (log : List (UpdatesLabel ι χ)) (label : UpdatesLabel ι χ) :
    Decidable (MakesAlone log label) :=
  match label with
  | .thread i e =>
      inferInstanceAs (Decidable (makesMetadata e = true → ∀ j, j ≠ i → outstanding j log = []))
  | .signal _ => isTrue trivial

instance [Fintype ι] (log : List (UpdatesLabel ι χ)) : Decidable (IndexesAlone log) :=
  inferInstanceAs (Decidable (∀ k (h : k < log.length), MakesAlone (log.take k) log[k]))

/-- The condition holds of the earlier entries, and of the last one. -/
theorem indexesAlone_append_singleton {log : List (UpdatesLabel ι χ)} {label : UpdatesLabel ι χ}
    (h : IndexesAlone (log ++ [label])) : IndexesAlone log ∧ MakesAlone log label := by
  refine ⟨fun k hk => ?_, ?_⟩
  · have hprefix := h k (by simp; omega)
    rwa [List.take_append_of_le_length hk.le, List.getElem_append_left hk] at hprefix
  · have hlast := h log.length (by simp)
    simpa using hlast

/-- One more call of a transfer concerns what is pending of this transfer, unless it clears the packages. -/
theorem outstanding_append_thread (i j : ι) (e : UpdatesEvent χ) (log : List (UpdatesLabel ι χ)) :
    outstanding i (log ++ [.thread j e]) = if j = i then pendingStep (outstanding i log) e
      else if clearsPackages e then [] else outstanding i log := by
  rw [outstanding, List.foldl_append]
  rfl

omit [DecidableEq ι] in
/-- One more call changes the repository as it answers. -/
theorem repositoryAfter_append_thread (initial : Repository χ) (j : ι) (e : UpdatesEvent χ)
    (log : List (UpdatesLabel ι χ)) :
    repositoryAfter initial (log ++ [.thread j e]) = (repositoryAfter initial log).answer e := by
  rw [repositoryAfter, List.foldl_append]
  rfl

/-- What other runs do only takes something away. -/
theorem outstanding_subset_pending (i : ι) (log : List (UpdatesLabel ι χ)) :
    outstanding i log ⊆ pending (threadEvents i log) := by
  induction log using List.reverseRecOn with
  | nil => exact List.Subset.refl _
  | append_singleton log label ih =>
      cases label with
      | signal signal => cases signal
      | thread j e =>
          rw [outstanding_append_thread, threadEvents_append]
          by_cases hj : j = i
          · subst hj
            rw [if_pos rfl, threadEvents_thread_self, pending_append]
            exact pendingStep_subset ih e
          · rw [if_neg hj, threadEvents_thread_ne hj]
            change _ ⊆ pending (threadEvents i log ++ [])
            rw [List.append_nil]
            split
            · exact List.nil_subset _
            · exact ih

/-- What is known after the entries of a log: every package has been confirmed, or a run has still to
verify it, and the metadata describes confirmed packages only. -/
structure Sound (initial : Repository χ) (log : List (UpdatesLabel ι χ)) : Prop where
  /-- The packages, as soon as a run has made the directory. -/
  packages : (∃ i, ⟨.mkdir, .ok ()⟩ ∈ threadEvents i log) → ∀ f content,
    (repositoryAfter initial log).package? f = some content →
    (f, content) ∈ (repositoryAfter initial log).confirmed ∨ ∃ i, f ∈ outstanding i log
  /-- The metadata, as soon as a run has made it. -/
  metadata : (∃ i comps, ⟨.createrepo comps, .ok ()⟩ ∈ threadEvents i log) →
    ∀ described f content, (repositoryAfter initial log).repodata = some described →
    described.get? f = some content → (f, content) ∈ (repositoryAfter initial log).confirmed

/-- An event of a thread is one of the log before, or the last one. -/
theorem mem_threadEvents_append {i j : ι} {e e' : UpdatesEvent χ} {log : List (UpdatesLabel ι χ)}
    (h : e' ∈ threadEvents j (log ++ [.thread i e])) : e' ∈ threadEvents j log ∨ e' = e := by
  rw [mem_threadEvents, List.mem_append, List.mem_singleton] at h
  rcases h with h | h
  · exact Or.inl (mem_threadEvents.mpr h)
  · cases h
    exact Or.inr rfl

omit [DecidableEq ι] in
/-- The metadata that is made describes the packages that are there. -/
theorem package?_of_get?_getD {repository : Repository χ} {f : String} {content : χ}
    (h : (repository.rpm.getD Dict.empty).get? f = some content) :
    repository.package? f = some content := by
  cases hrpm : repository.rpm with
  | none =>
      rw [hrpm] at h
      cases h
  | some packages =>
      rw [hrpm] at h
      rw [Repository.package?, hrpm]
      exact h

/-- One step keeps this, if the metadata is made only when nothing is left to verify. -/
theorem Sound.step {initial : Repository χ} {log : List (UpdatesLabel ι χ)} {i : ι}
    {e : UpdatesEvent χ} (h : Sound initial log)
    (hcreate : ∀ comps, e = ⟨.createrepo comps, .ok ()⟩ →
      (∃ j, ⟨.mkdir, .ok ()⟩ ∈ threadEvents j log) ∧ ∀ j, outstanding j log = []) :
    Sound initial (log ++ [.thread i e]) := by
  refine ⟨?_, ?_⟩
  · rintro ⟨j, hmkdir⟩ f content hget
    rw [repositoryAfter_append_thread] at hget ⊢
    rcases package?_answer hget with ⟨tmpDir, outcome, rfl⟩ | ⟨hbefore, hclears⟩
    · -- the run that writes a package has to verify it
      refine Or.inr ⟨i, ?_⟩
      rw [outstanding_append_thread, if_pos rfl]
      exact List.mem_append_left _ (List.mem_singleton_self f)
    have hmkdir' : ⟨.mkdir, .ok ()⟩ ∈ threadEvents j log := by
      rcases mem_threadEvents_append hmkdir with hmem | rfl
      · exact hmem
      · cases hclears
    rcases h.packages ⟨j, hmkdir'⟩ f content hbefore with hconfirmed | ⟨j', hout⟩
    · exact Or.inl (confirmed_answer _ _ hconfirmed)
    · by_cases hconfirms : confirmsPackage f e = true
      · exact Or.inl (mem_confirmed_answer hbefore hconfirms)
      · refine Or.inr ⟨j', ?_⟩
        rw [outstanding_append_thread]
        split
        · exact mem_pendingStep hout (by simpa using hconfirms) hclears
        · rw [if_neg (by simp [hclears])]
          exact hout
  · rintro ⟨j, comps, hmade⟩ described f content hdescribed hget
    rw [repositoryAfter_append_thread] at hdescribed ⊢
    -- new metadata describes the packages that are there, and all of them are confirmed
    have hnew : ∀ comps, e = ⟨.createrepo comps, .ok ()⟩ →
        described = (repositoryAfter initial log).rpm.getD Dict.empty →
        (f, content) ∈ ((repositoryAfter initial log).answer e).confirmed := by
      intro comps he hrpm
      obtain ⟨hmkdir, hnone⟩ := hcreate comps he
      rw [hrpm] at hget
      rcases h.packages hmkdir f content (package?_of_get?_getD hget) with hconfirmed | ⟨j', hout⟩
      · exact confirmed_answer _ _ hconfirmed
      · rw [hnone j'] at hout
        cases hout
    rcases repodata_answer hdescribed with hbefore | ⟨⟨comps', he⟩, hrpm⟩
    · rcases mem_threadEvents_append hmade with hmem | rfl
      · exact confirmed_answer _ _ (h.metadata ⟨j, comps, hmem⟩ described f content hbefore hget)
      · exact hnew comps rfl (Option.some.inj hdescribed).symm
    · exact hnew comps' he hrpm

/-- A program can be run to its end, for instance with nothing but failures. -/
theorem exists_runs {α : Type} (p : Program UpdatesCall (UpdatesCall.Reply χ) α) :
    ∃ t a, Program.Runs p t a :=
  ⟨_, _, Program.runs_play
    (fun
      | .pathExists _ => false
      | .rpmcanon _ _ => (.error (.other ""), none)
      | .getgrnam | .mkdtemp | .listdir _ | .isRegular _ | .rpmkeys _ | .rmtree _ | .removeErrors
      | .mkdir | .chown _ _ | .chmod _ _ | .unpack _ | .unlink _ | .cleanup _ | .appendError _
      | .createrepo _ => .error (.other "")) p⟩

/-- A whole interleaving keeps it, if the runs make the metadata alone. -/
theorem sound_of_steps {pool pool' : Pool ι (Repository χ) (UpdatesCall.Reply χ)
      (Except Raised Unit × Unit)} {log : List (UpdatesLabel ι χ)} {updatevm : String}
    (h : Steps (updatesMemory χ) pool log pool')
    (hpool : ∀ i, ∃ compsFile, pool.thread i = transfer compsFile updatevm) (halone : IndexesAlone log) :
    Sound pool.state log := by
  induction log using List.reverseRecOn generalizing pool' with
  | nil =>
      refine ⟨?_, ?_⟩
      · rintro ⟨i, hmem⟩
        cases hmem
      · rintro ⟨i, comps, hmem⟩
        cases hmem
  | append_singleton log label ih =>
      obtain ⟨mid, hbefore, -⟩ := Steps.append_iff.mp h
      obtain ⟨halone', hlast⟩ := indexesAlone_append_singleton halone
      cases label with
      | signal signal => cases signal
      | thread i e =>
          refine (ih hbefore halone').step ?_
          rintro comps' rfl
          -- the run that makes the metadata goes on somehow, and then it is a run of the program
          obtain ⟨t, ⟨r, ⟨⟩⟩, hrun⟩ := exists_runs (pool'.thread i)
          have hthread := h.runs_append i hrun
          obtain ⟨compsFile, hcomps⟩ := hpool i
          rw [hcomps, threadEvents_append, threadEvents_thread_self, List.append_assoc] at hthread
          obtain ⟨hmkdir, hpending⟩ := pending_of_createrepo hthread
          refine ⟨⟨i, hmkdir⟩, fun j => ?_⟩
          by_cases hj : j = i
          · subst hj
            exact List.subset_nil.mp (hpending ▸ outstanding_subset_pending j log)
          · exact hlast rfl j hj

/-- The metadata covers a package of the directory if it describes it with its content:
`createrepo_c` records the digests. -/
def Repository.Covers (repository : Repository χ) (f : String) (content : χ) : Prop :=
  repository.package? f = some content ∧
    ∃ described, repository.repodata = some described ∧ described.get? f = some content

/-- Every package that the metadata covers has been confirmed by `rpmkeys`. -/
def Repository.CoveredConfirmed (repository : Repository χ) : Prop :=
  ∀ f content, repository.Covers f content → (f, content) ∈ repository.confirmed

/-- If the runs that the UpdateVM has started make the metadata alone, then from when one of them has
exited with 0, the metadata covers confirmed packages only. -/
theorem metadata_confirmed {pool pool' : Pool ι (Repository χ) (UpdatesCall.Reply χ)
      (Except Raised Unit × Unit)} {log : List (UpdatesLabel ι χ)} {updatevm : String}
    (h : Steps (updatesMemory χ) pool log pool')
    (hpool : ∀ i, ∃ compsFile, pool.thread i = transfer compsFile updatevm) (halone : IndexesAlone log)
    {i : ι} {r : Except Raised Unit} (hend : pool'.thread i = .pure (r, ()))
    (hr : exitCode r = 0) : pool'.state.CoveredConfirmed := by
  obtain ⟨compsFile, hcomps⟩ := hpool i
  have hrun : Program.Runs (transfer compsFile updatevm) (threadEvents i log) (r, ()) := by
    rw [← hcomps]
    exact h.runs hend
  have hmade := createrepo_of_exitCode hrun hr
  rintro f content ⟨-, described, hdescribed, hget⟩
  have hstate : pool'.state = repositoryAfter pool.state log := h.memory
  rw [hstate] at hdescribed ⊢
  exact (sound_of_steps h hpool halone).metadata ⟨i, compsFile, hmade⟩ described f content hdescribed
    hget

/-- Answers with which everything succeeds that can: the UpdateVM sends one file each time, and its
content is another one each time. -/
def orderly (repository : Repository Nat) : (c : UpdatesCall) → c.Reply Nat
  | .pathExists place => repository.isPresent place
  | .rmtree place | .chown place _ | .chmod place _ =>
      if repository.isPresent place then .ok () else .error (.other "")
  | .removeErrors => if repository.isPresent .errors then .ok () else .error (.other "")
  | .mkdir => if repository.isPresent .rpm then .error (.other "") else .ok ()
  | .getgrnam => .ok 1000
  | .mkdtemp => .ok "/var/tmp/qubes-updates-tmp.UNTRUSTED"
  | .listdir _ => .ok ["xen-4.17.rpm"]
  | .isRegular _ => .ok true
  | .rpmcanon _ _ =>
      if repository.isPresent .rpm then (.ok (), some repository.confirmed.length)
      else (.error (.other ""), none)
  | .rpmkeys f => .ok (if (repository.package? f).isSome then 0 else 1, verifiedOutput f)
  | .unpack _ | .unlink _ | .cleanup _ | .appendError _ | .createrepo _ => .ok ()

/-- The answers of the example are allowed. -/
theorem orderly_allowed (repository : Repository Nat) (c : UpdatesCall) :
    (updatesMemory Nat).allows repository ⟨c, orderly repository c⟩ := by
  change repository.allows ⟨c, orderly repository c⟩ = true
  cases c with
  | pathExists place => simp [orderly, Repository.allows]
  | rmtree place | chown place gid | chmod place mode =>
      by_cases h : repository.isPresent place = true
      · simp [orderly, Repository.allows, h]
      · simp [orderly, Repository.allows, h]
  | removeErrors =>
      by_cases h : repository.isPresent .errors = true
      · simp [orderly, Repository.allows, h]
      · simp [orderly, Repository.allows, h]
  | mkdir =>
      by_cases h : repository.isPresent .rpm = true
      · simp [orderly, Repository.allows, h]
      · simp [orderly, Repository.allows, h]
  | rpmcanon tmpDir f =>
      by_cases h : repository.isPresent .rpm = true
      · simp [orderly, Repository.allows, h]
      · simp [orderly, Repository.allows, h, Except.toBool]
  | rpmkeys f =>
      by_cases h : (repository.package? f).isSome = true
      · simp [orderly, Repository.allows, h]
      · simp [orderly, Repository.allows, h]
  | _ => rfl

/-- Two runs that the UpdateVM has started, in an empty repository. -/
def twoTransfers : Pool Bool (Repository Nat) (UpdatesCall.Reply Nat) (Except Raised Unit × Unit) :=
  ⟨fun _ => transfer none "sys-firewall", .empty⟩

/-- The runs by a schedule. -/
def twoTransfersPlayed (turns : List Bool) :
    List (UpdatesLabel Bool Nat) ×
      Pool Bool (Repository Nat) (UpdatesCall.Reply Nat) (Except Raised Unit × Unit) :=
  twoTransfers.play (updatesMemory Nat) orderly turns

/-- One run after the other. -/
theorem metadata_confirmed_sequential :
    (twoTransfersPlayed (List.replicate 18 true ++ List.replicate 20 false)).2.state.CoveredConfirmed := by
  have hpool : ∀ i, ∃ compsFile, twoTransfers.thread i = transfer compsFile "sys-firewall" :=
    fun _ => ⟨none, rfl⟩
  have hend : (twoTransfersPlayed (List.replicate 18 true ++ List.replicate 20 false)).2.thread false
      = .pure (.error (.systemExit 0), ()) := rfl
  have hsteps := Pool.steps_play orderly orderly_allowed
    (List.replicate 18 true ++ List.replicate 20 false) twoTransfers
  exact metadata_confirmed hsteps hpool (by decide) hend rfl

/-- One run ends while the other one has a package in the directory that it has not verified. -/
theorem overlap_unverified :
    ∃ (log : List (UpdatesLabel Bool Nat)) (pool' : Pool Bool (Repository Nat) (UpdatesCall.Reply Nat)
        (Except Raised Unit × Unit)) (r : Except Raised Unit),
      Steps (updatesMemory Nat) twoTransfers log pool' ∧ pool'.thread true = .pure (r, ()) ∧
        exitCode r = 0 ∧ ¬ pool'.state.CoveredConfirmed := by
  refine ⟨_, (twoTransfersPlayed
    (List.replicate 15 true ++ List.replicate 13 false ++ List.replicate 3 true)).2,
    .error (.systemExit 0), Pool.steps_play orderly orderly_allowed _ _, rfl, rfl, fun h => ?_⟩
  have hmem := h "xen-4.17.rpm" 1 ⟨by decide, _, rfl, by decide⟩
  revert hmem
  decide

end ReceiveUpdates

end QubesAdminLinux
