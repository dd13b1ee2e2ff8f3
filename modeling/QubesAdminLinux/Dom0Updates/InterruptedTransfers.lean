import QubesAdminLinux.Dom0Updates.AppliedUpdate
import QubesAdminLinux.Dom0Updates.ConcurrentTransfers
import QubesAdminLinux.Lib.Histories

/-! # Transfers that are interrupted

A transfer can be killed at any step, and so can the next one.  As long as they do not overlap, nothing that
has not been verified is in the directory while there is metadata, at any moment.

* **`InOrder`** — in what order a run of `qubes-receive-updates` removes, writes, verifies and publishes.
* **`Trusted`** — if there is metadata, all packages have been confirmed by `rpmkeys`.
* **`trusted_of_afterTransfers`** — this holds at any moment, however many transfers have been interrupted.
* **`installs_trusted`** — `qubes-dom0-update` installs only after a moment in which there was metadata of
  confirmed packages and nothing else. -/

namespace QubesAdminLinux

namespace ReceiveUpdates

open Proc

variable {χ : Type}

/-! ## The order of the calls -/

/-- Whether an event tells that there is no metadata any more. -/
def metadataGone : UpdatesEvent χ → Bool
  | ⟨.pathExists .repodata, present⟩ =>
      let present : Bool := present
      !present
  | ⟨.rmtree .repodata, .ok ()⟩ => true
  | _ => false

/-- Whether a call writes a package. -/
def UpdatesCall.writes : UpdatesCall → Bool
  | .rpmcanon _ _ => true
  | _ => false

/-- A package is written only when the metadata is gone, and before there is new metadata. -/
def WritesUnpublished (before : List (UpdatesEvent χ)) (c : UpdatesCall) : Prop :=
  c.writes = true → (∃ e ∈ before, metadataGone e = true) ∧ ∀ e ∈ before, makesMetadata e = false

/-- A call that writes nothing brings no new package. -/
theorem newPackage_of_not_writes {e : UpdatesEvent χ} (h : e.call.writes = false) : newPackage e = [] := by
  fun_cases newPackage e with
  | case1 => cases h
  | case2 => rfl

/-- Preparing the directories writes nothing. -/
theorem not_writes_prepareDirectories :
    Emits (fun e => e.call.writes = false) (prepareDirectories : UpdatesM χ Nat) :=
  emits_prepareDirectories (fun _ _ => rfl) (fun _ _ => rfl) (fun _ => rfl) (fun _ => rfl) (fun _ => rfl)
    (fun _ _ _ => rfl) fun _ _ _ => rfl

/-- What is removed if it exists is gone afterwards, or was not there. -/
theorem runs_removeIfExists_ok {place : Place} {u u' : Unit} {t : List (UpdatesEvent χ)}
    (h : Runs (removeIfExists place : UpdatesM χ Unit) u t (.ok ()) u') :
    ⟨.pathExists place, false⟩ ∈ t ∨ ⟨.rmtree place, .ok ()⟩ ∈ t := by
  obtain ⟨present, t₁, rfl, hrest⟩ := runs_request_bind.mp h
  change Bool at present
  cases present with
  | false => exact Or.inl List.mem_cons_self
  | true =>
      obtain ⟨reply, rfl, hreply⟩ := runs_ask_ok hrest
      obtain rfl := raising_eq_ok.mp hreply
      exact Or.inr (by simp)

/-- The preparation leaves no metadata. -/
theorem gone_of_prepareDirectories {gid : Nat} {u u' : Unit} {t : List (UpdatesEvent χ)}
    (h : Runs (prepareDirectories : UpdatesM χ Nat) u t (.ok gid) u') :
    ∃ e ∈ t, metadataGone e = true := by
  obtain ⟨⟨⟩, t₁, t₂, u₁, rfl, -, hrest⟩ := runs_bind_ok.mp h
  obtain ⟨⟨⟩, t₃, t₄, u₂, rfl, hremove, -⟩ := runs_bind_ok.mp hrest
  rcases runs_removeIfExists_ok hremove with hmem | hmem
  · exact ⟨⟨.pathExists .repodata, false⟩, by simp [hmem], rfl⟩
  · exact ⟨⟨.rmtree .repodata, .ok ()⟩, by simp [hmem], rfl⟩

/-- A fatal error is recorded, and the packages are removed. -/
theorem emits_dom0updatesFatal {P : UpdatesEvent χ → Prop} (msg : String)
    (hrecord : ∀ text reply, P ⟨.appendError text, reply⟩) (hremove : ∀ reply, P ⟨.rmtree .rpm, reply⟩) :
    Emits P (dom0updatesFatal msg : UpdatesM χ Unit) :=
  emits_bind (emits_ask (hrecord _)) fun _ => emits_bind (emits_ask hremove) fun _ => emits_throw

/-- No metadata is made before all files have been received. -/
theorem emits_receiveVerified (source : String) :
    Emits (fun e => makesMetadata e = false) (receiveVerified source : UpdatesM χ Unit) := by
  refine emits_tryCatch (emits_withTemporaryDirectory source) fun exc => ?_
  cases exc with
  | failure exc => exact emits_dom0updatesFatal _ (fun _ _ => rfl) fun _ => rfl
  | systemExit code => exact emits_throw

/-- Making the metadata writes no package. -/
theorem not_writes_makeMetadata (compsFile : Option String) (gid : Nat) :
    Emits (fun e => e.call.writes = false) (makeMetadata compsFile gid : UpdatesM χ Unit) :=
  emits_bind (emits_ask fun _ => rfl) fun _ => emits_bind (emits_ask fun _ => rfl) fun _ =>
    emits_bind (emits_ask fun _ => rfl) fun _ => emits_throw

/-- The order of a whole run, whoever has started it. -/
theorem heeds_handleDom0updates (compsFile source : Option String) (updatevm : String) :
    Heeds WritesUnpublished [] (handleDom0updates compsFile source updatevm : UpdatesM χ Unit) := by
  have hother : ∀ (before : List (UpdatesEvent χ)) (e : UpdatesEvent χ), e.call.writes = false →
      WritesUnpublished before e.call := by
    intro before e hnot hwrites
    rw [hnot] at hwrites
    cases hwrites
  rw [handleDom0updates]
  split
  · exact heeds_throw
  refine heeds_bind (not_writes_prepareDirectories.heeds hother) fun u t gid u' hprepare => ?_
  refine heeds_bind ?_ fun _ _ _ _ _ => (not_writes_makeMetadata _ _).heeds hother
  intro u₁ t₁ r u₂ hreceive
  rw [heeded_iff]
  rintro before e after rfl -
  obtain ⟨e', he', hgone⟩ := gone_of_prepareDirectories hprepare
  refine ⟨⟨e', List.mem_append_left _ (List.mem_append_right _ he'), hgone⟩, ?_⟩
  rw [List.nil_append, List.forall_mem_append]
  refine ⟨fun e he => (harmless_prepareDirectories _ _ _ _ hprepare e he).noMetadata, fun e he => ?_⟩
  exact emits_receiveVerified _ _ _ _ _ hreceive e (by simp [he])

/-- The order in which a run, or what has been run of it, works. -/
structure InOrder (t : List (UpdatesEvent χ)) : Prop where
  /-- Packages are written while there is no metadata. -/
  writes : ∀ before e after, t = before ++ e :: after → newPackage e ≠ [] →
    (∃ e' ∈ before, metadataGone e' = true) ∧ ∀ e' ∈ before, makesMetadata e' = false
  /-- The metadata is made when everything has been verified. -/
  publishes : ∀ before comps reply after, t = before ++ ⟨.createrepo comps, reply⟩ :: after →
    ⟨.mkdir, .ok ()⟩ ∈ before ∧ pending before = []

/-- The beginning of an orderly trace is orderly. -/
theorem InOrder.of_append {t t' : List (UpdatesEvent χ)} (h : InOrder (t ++ t')) : InOrder t := by
  constructor
  · rintro before e after rfl
    exact h.writes before e (after ++ t') (by simp)
  · rintro before comps reply after rfl
    exact h.publishes before comps reply (after ++ t') (by simp)

/-- A transfer keeps the order, wherever it is stopped. -/
theorem inOrder_of_runs {compsFile source : Option String} {updatevm : String} {t : List (UpdatesEvent χ)}
    {r : Except Raised Unit}
    (h : Runs (handleDom0updates compsFile source updatevm : UpdatesM χ Unit) () t r ()) : InOrder t := by
  constructor
  · rintro before e after ht hnew
    refine heeded_iff.mp (heeds_handleDom0updates compsFile source updatevm _ _ _ _ h) before e after ht ?_
    by_contra hnot
    exact hnew (newPackage_of_not_writes (by simpa using hnot))
  · rintro before comps reply after rfl
    by_cases hsource : source = some updatevm
    · subst hsource
      exact pending_of_createrepo h
    · -- another domain does not get to the metadata
      rw [handleDom0updates, if_pos hsource] at h
      have hnil := (runs_throw.mp h).1
      simp at hnil

/-! ## What happens to the repository -/

/-- Something else takes packages or the metadata away, as `qubes-dom0-update --clean` does. -/
structure Removes (repository repository' : Repository χ) : Prop where
  /-- No package is new. -/
  packages : ∀ f content, repository'.package? f = some content → repository.package? f = some content
  /-- The metadata is left, or it is gone. -/
  metadata : repository'.repodata = repository.repodata ∨ repository'.repodata = none
  /-- What has been verified has been verified. -/
  confirmed : repository'.confirmed = repository.confirmed

/-- A run has exchanged some events with the repository; packages may be taken away at any moment. -/
inductive Happens (initial : Repository χ) : List (UpdatesEvent χ) → Repository χ → Prop
  | start : Happens initial [] initial
  | event {t : List (UpdatesEvent χ)} {repository : Repository χ} {e : UpdatesEvent χ}
      (h : Happens initial t repository) (hallows : repository.allows e = true) :
      Happens initial (t ++ [e]) (repository.answer e)
  | removal {t : List (UpdatesEvent χ)} {repository repository' : Repository χ}
      (h : Happens initial t repository) (hremoves : Removes repository repository') :
      Happens initial t repository'

/-- The repository after transfers, one after the other, each of which has been run to its end or been
interrupted, whoever has started it. -/
inductive AfterTransfers (initial : Repository χ) : Repository χ → Prop
  | start : AfterTransfers initial initial
  | transfer {repository repository' : Repository χ} {compsFile source : Option String} {updatevm : String}
      {t rest : List (UpdatesEvent χ)} {r : Except Raised Unit} (h : AfterTransfers initial repository)
      (hrun : Runs (handleDom0updates compsFile source updatevm : UpdatesM χ Unit) () (t ++ rest) r ())
      (hhappens : Happens repository t repository') : AfterTransfers initial repository'

/-- While there is metadata, everything has been confirmed by `rpmkeys`: the packages that are there, and
those that the metadata describes. -/
structure Trusted (repository : Repository χ) : Prop where
  /-- The packages in the directory. -/
  packages : repository.repodata.isSome = true → ∀ f content, repository.package? f = some content →
    (f, content) ∈ repository.confirmed
  /-- The packages of the metadata. -/
  metadata : ∀ described f content, repository.repodata = some described →
    described.get? f = some content → (f, content) ∈ repository.confirmed

/-- What is known while a run goes on. -/
structure Progress (initial : Repository χ) (t : List (UpdatesEvent χ)) (repository : Repository χ) :
    Prop where
  /-- Nothing takes a confirmation back. -/
  confirmed : initial.confirmed ⊆ repository.confirmed
  /-- Once the directory has been made, its packages have been confirmed, or the run has still to verify
  them. -/
  packages : ⟨.mkdir, .ok ()⟩ ∈ t → ∀ f content, repository.package? f = some content →
    (f, content) ∈ repository.confirmed ∨ f ∈ pending t
  /-- As long as the run has written nothing, the packages are old. -/
  untouched : (∀ e ∈ t, newPackage e = []) → ∀ f content, repository.package? f = some content →
    initial.package? f = some content
  /-- The metadata is old and has not been removed, or the run has made it. -/
  metadata : ∀ described, repository.repodata = some described →
    (initial.repodata = some described ∧ ∀ e ∈ t, metadataGone e = false) ∨
      ((∃ e ∈ t, makesMetadata e = true) ∧ ∀ f content, described.get? f = some content →
        (f, content) ∈ repository.confirmed)

/-- At the beginning of a transfer, nothing has been done. -/
theorem progress_start (initial : Repository χ) : Progress initial [] initial := by
  refine ⟨List.Subset.refl _, ?_, fun _ _ _ => id, fun described h => Or.inl ⟨h, ?_⟩⟩
  · rintro ⟨⟩
  · rintro e ⟨⟩

/-- Taking something away does no harm. -/
theorem Progress.removal {initial repository repository' : Repository χ} {t : List (UpdatesEvent χ)}
    (h : Progress initial t repository) (hremoves : Removes repository repository') :
    Progress initial t repository' := by
  refine ⟨hremoves.confirmed ▸ h.confirmed, fun hmkdir f content hget => ?_, fun hold f content hget => ?_,
    fun described hdescribed => ?_⟩
  · rw [hremoves.confirmed]
    exact h.packages hmkdir f content (hremoves.packages f content hget)
  · exact h.untouched hold f content (hremoves.packages f content hget)
  · rw [hremoves.confirmed]
    rcases hremoves.metadata with hsame | hnone
    · exact h.metadata described (hsame ▸ hdescribed)
    · rw [hnone] at hdescribed
      cases hdescribed

/-- When the metadata is gone, there is none after the event. -/
theorem repodata_of_gone {repository : Repository χ} {e : UpdatesEvent χ}
    (hallows : repository.allows e = true) (hgone : metadataGone e = true) :
    (repository.answer e).repodata = none := by
  revert hallows hgone
  fun_cases metadataGone e with
  | case1 present =>
      intro hallows hgone
      change Bool at present
      have hpresent : present = repository.repodata.isSome := beq_iff_eq.mp hallows
      have habsent : present = false := by simpa using hgone
      rw [habsent] at hpresent
      change repository.repodata = none
      simpa using hpresent.symm
  | case2 => exact fun _ _ => rfl
  | case3 =>
      intro _ hgone
      cases hgone

/-- One event of a run. -/
theorem Progress.event {initial repository : Repository χ} {t : List (UpdatesEvent χ)} {e : UpdatesEvent χ}
    (h : Progress initial t repository) (hallows : repository.allows e = true)
    (horder : InOrder (t ++ [e])) : Progress initial (t ++ [e]) (repository.answer e) := by
  have hpending : pending (t ++ [e]) = pendingStep (pending t) e := pending_append t [e]
  refine ⟨List.Subset.trans h.confirmed (confirmed_answer _ _), ?_, ?_, ?_⟩
  · intro hmkdir f content hget
    rw [hpending]
    rcases package?_answer hget with ⟨tmpDir, outcome, rfl⟩ | ⟨hbefore, hclears⟩
    · exact Or.inr (List.mem_append_left _ (List.mem_singleton_self f))
    have hmkdir' : ⟨.mkdir, .ok ()⟩ ∈ t := by
      rcases List.mem_append.mp hmkdir with hmem | hlast
      · exact hmem
      · rw [← List.mem_singleton.mp hlast] at hclears
        cases hclears
    rcases h.packages hmkdir' f content hbefore with hconfirmed | hpend
    · exact Or.inl (confirmed_answer _ _ hconfirmed)
    · by_cases hconfirms : confirmsPackage f e = true
      · exact Or.inl (mem_confirmed_answer hbefore hconfirms)
      · exact Or.inr (mem_pendingStep hpend (by simpa using hconfirms) hclears)
  · intro hold f content hget
    rw [List.forall_mem_append] at hold
    rcases package?_answer hget with ⟨tmpDir, outcome, rfl⟩ | ⟨hbefore, -⟩
    · cases hold.2 _ (List.mem_singleton_self _)
    · exact h.untouched hold.1 f content hbefore
  · intro described hdescribed
    rcases repodata_answer hdescribed with hbefore | ⟨⟨comps, rfl⟩, rfl⟩
    · rcases h.metadata described hbefore with ⟨hinitial, hkept⟩ | ⟨⟨e', he', hmade⟩, hall⟩
      · refine Or.inl ⟨hinitial, List.forall_mem_append.mpr ⟨hkept, ?_⟩⟩
        intro e' he'
        rw [List.mem_singleton.mp he']
        by_contra hgone
        rw [repodata_of_gone hallows (by simpa using hgone)] at hdescribed
        cases hdescribed
      · exact Or.inr ⟨⟨e', List.mem_append_left _ he', hmade⟩,
          fun f content hget => confirmed_answer _ _ (hall f content hget)⟩
    · -- new metadata describes what is there, and nothing is left to verify
      obtain ⟨hmkdir, hnone⟩ := horder.publishes t comps _ [] rfl
      refine Or.inr ⟨⟨_, List.mem_append_right _ (List.mem_singleton_self _), rfl⟩, ?_⟩
      intro f content hget
      rcases h.packages hmkdir f content (package?_of_get?_getD hget) with hconfirmed | hpend
      · exact confirmed_answer _ _ hconfirmed
      · rw [hnone] at hpend
        cases hpend

/-- What an orderly transfer has made of the repository. -/
theorem progress_of_happens {initial repository : Repository χ} {t : List (UpdatesEvent χ)}
    (h : Happens initial t repository) (horder : InOrder t) : Progress initial t repository := by
  induction h with
  | start => exact progress_start initial
  | event h hallows ih => exact (ih horder.of_append).event hallows horder
  | removal h hremoves ih => exact (ih horder).removal hremoves

/-- After the metadata has been made, nothing is written, and nothing is left to verify. -/
theorem pending_of_made {t : List (UpdatesEvent χ)} (horder : InOrder t) {e : UpdatesEvent χ} (he : e ∈ t)
    (hmade : makesMetadata e = true) : ⟨.mkdir, .ok ()⟩ ∈ t ∧ pending t = [] := by
  obtain ⟨before, after, rfl⟩ := List.append_of_mem he
  obtain ⟨comps, reply, rfl⟩ : ∃ comps reply, e = ⟨.createrepo comps, reply⟩ := by
    revert hmade
    fun_cases makesMetadata e with
    | case1 comps reply => exact fun _ => ⟨comps, reply, rfl⟩
    | case2 => exact fun h => by cases h
  obtain ⟨hmkdir, hnone⟩ := horder.publishes before comps reply after rfl
  refine ⟨List.mem_append_left _ hmkdir, ?_⟩
  rw [pending_append, hnone]
  have hquiet : ∀ e' ∈ after, newPackage e' = [] := by
    intro e' he'
    by_contra hnew
    obtain ⟨l₁, l₂, rfl⟩ := List.append_of_mem he'
    have hunmade := (horder.writes (before ++ ⟨.createrepo comps, reply⟩ :: l₁) e' l₂ (by simp) hnew).2
    cases hunmade ⟨.createrepo comps, reply⟩ (by simp)
  change List.foldl pendingStep [] after = []
  clear horder he
  induction after with
  | nil => rfl
  | cons e' rest ih =>
      rw [List.forall_mem_cons] at hquiet
      rw [List.foldl_cons, pendingStep, hquiet.1]
      exact ih hquiet.2

/-- What has been run of a transfer keeps the repository so. -/
theorem trusted_of_happens {initial repository : Repository χ} {t : List (UpdatesEvent χ)}
    (htrusted : Trusted initial) (h : Happens initial t repository) (horder : InOrder t) :
    Trusted repository := by
  have hprogress := progress_of_happens h horder
  refine ⟨fun hsome f content hget => ?_, fun described f content hdescribed hget => ?_⟩
  · obtain ⟨described, hdescribed⟩ := Option.isSome_iff_exists.mp hsome
    rcases hprogress.metadata described hdescribed with ⟨hinitial, hkept⟩ | ⟨⟨e, he, hmade⟩, -⟩
    · -- the metadata is still the old one, so nothing has been written
      have hold : ∀ e ∈ t, newPackage e = [] := by
        intro e he
        by_contra hnew
        obtain ⟨before, after, rfl⟩ := List.append_of_mem he
        obtain ⟨e', he', hgone⟩ := (horder.writes before e after rfl hnew).1
        rw [hkept e' (by simp [he'])] at hgone
        cases hgone
      refine hprogress.confirmed (htrusted.packages ?_ f content (hprogress.untouched hold f content hget))
      rw [hinitial]
      rfl
    · obtain ⟨hmkdir, hnone⟩ := pending_of_made horder he hmade
      rcases hprogress.packages hmkdir f content hget with hconfirmed | hpend
      · exact hconfirmed
      · rw [hnone] at hpend
        cases hpend
  · rcases hprogress.metadata described hdescribed with ⟨hinitial, -⟩ | ⟨-, hall⟩
    · exact hprogress.confirmed (htrusted.metadata described f content hinitial hget)
    · exact hall f content hget

/-- However many transfers there were, and wherever they have been interrupted. -/
theorem trusted_of_afterTransfers {initial repository : Repository χ} (htrusted : Trusted initial)
    (h : AfterTransfers initial repository) : Trusted repository := by
  induction h with
  | start => exact htrusted
  | transfer h hrun hhappens ih => exact trusted_of_happens ih hhappens (inOrder_of_runs hrun).of_append

end ReceiveUpdates

/-! ## The installation -/

namespace Dom0Update

open Proc ReceiveUpdates

/-- Whether a call installs packages from the repository. -/
def UpdateCall.installsPackages : UpdateCall → Bool
  | .dnf _ | .updateDom0 | .guiApp _ => true
  | _ => false

/-- The file that tells whether there is metadata. -/
def repomdFile : String := "/var/lib/qubes/updates/repodata/repomd.xml"

/-- The file with the errors of a transfer. -/
def errorsFile : String := "/var/lib/qubes/updates/errors"

/-- Packages are installed after the script has found no errors, and has found metadata. -/
def AfterTests (before : List UpdateEvent) (c : UpdateCall) : Prop :=
  c.installsPackages = true →
    ⟨.pathIs "-r" errorsFile, false⟩ ∈ before ∧ ⟨.pathIs "-f" repomdFile, true⟩ ∈ before

/-- An event that installs nothing. -/
abbrev Quiet (e : UpdateEvent) : Prop := e.call.installsPackages = false

section

variable {sys : System} {o : Options} {before : List UpdateEvent}

/-- Code that does not install needs no tests. -/
theorem heeds_of_quiet {α : Type} {x : UpdateM α} (h : Emits Quiet x) : Heeds AfterTests before x := by
  refine h.heeds fun past e hquiet hinstalls => ?_
  rw [hquiet] at hinstalls
  cases hinstalls

/-- After both tests everything may be installed. -/
theorem heeds_of_tested {α : Type} (herrors : ⟨.pathIs "-r" errorsFile, false⟩ ∈ before)
    (hmetadata : ⟨.pathIs "-f" repomdFile, true⟩ ∈ before) (x : UpdateM α) :
    Heeds AfterTests before x :=
  heeds_of_past (fun _ _ _ => ⟨List.mem_append_left _ herrors, List.mem_append_left _ hmetadata⟩) x

/-- Plain calls do not install. -/
theorem quiet_of_plain {e : UpdateEvent} (h : Plain e) : Quiet e := by
  obtain ⟨call, reply⟩ := e
  cases call with
  | dnf => cases h
  | updateDom0 => cases h
  | guiApp => cases h
  | _ => rfl

/-- Nor do the closing ones. -/
theorem quiet_of_closing {e : UpdateEvent} (h : Closing e) : Quiet e := by
  obtain ⟨call, reply⟩ := e
  cases call with
  | dnf => cases h
  | updateDom0 => cases h
  | guiApp => cases h
  | _ => rfl

/-- Nor does a command whose failure ends the script. -/
theorem quiet_runOrExit (argv : List String) : Emits Quiet (runOrExit argv) :=
  (part_runOrExit fun _ => rfl).emits.mono fun _ => quiet_of_plain

/-- Nor does any other command. -/
theorem quiet_run (argv : List String) : Emits Quiet (run argv) :=
  (part_run fun _ => rfl).emits.mono fun _ => quiet_of_plain

/-- Nothing is installed by a download. -/
theorem quiet_download (old : Bool) : Emits Quiet (download sys o old) := by
  have htty : Emits Quiet areTtys := part_areTtys.emits.mono fun _ => quiet_of_plain
  rw [download]
  split
  · refine emits_bind (quiet_runOrExit _) fun _ => emits_bind (quiet_runOrExit _) fun _ =>
      emits_bind (emits_request fun _ => rfl) fun status => emits_bind (emits_setRetcode _) fun _ => ?_
    split
    · exact emits_exit _
    split
    · exact emits_exit _
    · exact emits_bind (quiet_runOrExit _) fun _ => quiet_runOrExit _
  · refine emits_bind htty fun ttys => ?_
    split
    · exact emits_bind (emits_request fun _ => rfl) fun _ => emits_setRetcode _
    · exact emits_bind (emits_request fun _ => rfl) fun _ => emits_setRetcode _

/-- The script goes on only if there are no errors. -/
theorem tested_of_checkErrors {s s' : Vars} {t : List UpdateEvent}
    (h : Runs checkErrors s t (.ok ()) s') : ⟨.pathIs "-r" errorsFile, false⟩ ∈ t := by
  obtain ⟨present, t₁, rfl, hrest⟩ := runs_request_bind.mp h
  change Bool at present
  cases present with
  | false => exact List.mem_cons_self
  | true =>
      obtain ⟨⟨⟩, _, _, _, -, -, hexit⟩ := runs_bind_ok.mp hrest
      cases (runs_throw.mp hexit).2.1

/-- The installation comes after the tests. -/
theorem heeds_install (herrors : ⟨.pathIs "-r" errorsFile, false⟩ ∈ before) (guiapp : List String) :
    Heeds AfterTests before (install sys o guiapp) := by
  refine heeds_request_bind (by rintro ⟨⟩) fun present => ?_
  change Bool at present
  cases present with
  | true => exact heeds_of_tested (List.mem_append_left _ herrors) (by simp [repomdFile]) _
  | false =>
      have hmessage : ∀ kdialog zenity, Emits Quiet (showMessage sys kdialog zenity) :=
        fun _ _ => quiet_run _
      refine heeds_of_quiet ?_
      simp only [Bool.false_eq_true, if_false]
      split
      · exact emits_pure
      · refine emits_bind (quiet_run _) fun _ => ?_
        split
        · exact hmessage _ _
        · exact emits_pure

/-- So the end of the script installs only after them. -/
theorem heeds_applyUpdates (guiapp : List String) :
    Heeds AfterTests before (applyUpdates sys o guiapp) := by
  have hfinish : Emits Quiet finish :=
    emits_bind emits_get fun v =>
      emits_bind ((part_askReboot v.rebootRequired).emits.mono fun _ => quiet_of_closing)
        fun _ => emits_exit _
  refine heeds_bind (heeds_of_quiet ((part_waitForDownload _).emits.mono fun _ => quiet_of_plain))
    fun s t a s' hwait => ?_
  refine heeds_bind (heeds_of_quiet (part_checkErrors.emits.mono fun _ => quiet_of_plain))
    fun s₁ t₁ a₁ s₂ hcheck => ?_
  refine heeds_bind (heeds_of_quiet ((part_checkXen o).emits.mono fun _ => quiet_of_plain))
    fun s₃ t₂ a₂ s₄ hxen => ?_
  refine heeds_bind (heeds_install ?_ guiapp) fun s₅ t₃ a₃ s₆ hinstall => ?_
  · exact List.mem_append_left _ (List.mem_append_right _ (tested_of_checkErrors hcheck))
  · refine heeds_of_quiet (emits_bind ?_ fun _ => hfinish)
    exact (part_switchAudio o _).emits.mono fun _ => quiet_of_closing

/-- Whatever its command line and the answers of the system, the script looks before it installs. -/
theorem heeds_tests (args : List String) : Heeds AfterTests [] (script sys args) := by
  refine heeds_script_of (fun _ => by rintro ⟨⟩)
    (fun o => heeds_of_quiet ((part_prepare sys o).emits.mono fun _ => quiet_of_plain))
    fun o old s t guiapp s' hprepare => ?_
  refine heeds_bind (heeds_of_quiet (quiet_download _)) fun _ _ _ _ _ => ?_
  exact heeds_bind (heeds_of_quiet (emits_checkDownload o _)) fun _ _ _ _ _ => heeds_applyUpdates guiapp

end

/-- What a run of the script sees of the repository: `seen k` is its state at the `k`-th call. -/
structure Observed {χ : Type} (seen : Nat → Repository χ) (t : List UpdateEvent) : Prop where
  /-- Whether there is metadata. -/
  metadata : ∀ past (reply : Bool) later, t = past ++ ⟨.pathIs "-f" repomdFile, reply⟩ :: later →
    reply = (seen past.length).repodata.isSome
  /-- Whether errors are recorded. -/
  errors : ∀ past (reply : Bool) later, t = past ++ ⟨.pathIs "-r" errorsFile, reply⟩ :: later →
    reply = (seen past.length).errors.isSome

/-- While a run of `qubes-dom0-update` looks at the repository, packages may be received, and transfers may
be interrupted, but not overlap.  At any moment everything is confirmed while there is metadata, and before
packages are installed there was a moment without errors, and one with metadata. -/
theorem installs_trusted {χ : Type} {sys : System} {args : List String} {s s' : Vars}
    {t : List UpdateEvent} {r : Except Ending Unit} (hrun : Runs (script sys args) s t r s')
    {initial : Repository χ} (htrusted : Trusted initial) {seen : Nat → Repository χ}
    (hafter : ∀ k, AfterTransfers initial (seen k)) (hobserved : Observed seen t) :
    (∀ k, Trusted (seen k)) ∧
      ∀ past e later, t = past ++ e :: later → e.call.installsPackages = true →
        (∃ k < past.length, (seen k).errors = none) ∧
        ∃ k < past.length, (seen k).repodata.isSome = true ∧
          ∀ f content, (seen k).package? f = some content → (f, content) ∈ (seen k).confirmed := by
  have hall : ∀ k, Trusted (seen k) := fun k => trusted_of_afterTransfers htrusted (hafter k)
  refine ⟨hall, ?_⟩
  rintro past e later rfl hinstalls
  obtain ⟨herrors, hmetadata⟩ := heeded_iff.mp (heeds_tests args _ _ _ _ hrun) past e later rfl hinstalls
  rw [List.nil_append] at herrors hmetadata
  constructor
  · obtain ⟨l₁, l₂, rfl⟩ := List.append_of_mem herrors
    have hnone := hobserved.errors l₁ false (l₂ ++ e :: later) (by simp)
    exact ⟨l₁.length, by simp, by simpa using hnone.symm⟩
  · obtain ⟨l₁, l₂, rfl⟩ := List.append_of_mem hmetadata
    have hsome := (hobserved.metadata l₁ true (l₂ ++ e :: later) (by simp)).symm
    exact ⟨l₁.length, by simp, hsome, (hall l₁.length).packages hsome⟩

/-- The repository after the transfer of one package. -/
def onePackage : Repository Unit := (updatesMemory Unit).after .empty (singleRun true).1

/-- What the repository answers happens to it. -/
theorem happens_of_serves {χ : Type} {initial : Repository χ} {t : List (UpdatesEvent χ)}
    (h : (updatesMemory χ).Serves initial t) : Happens initial t ((updatesMemory χ).after initial t) := by
  induction t using List.reverseRecOn with
  | nil => exact .start
  | append_singleton t e ih =>
      obtain ⟨hbefore, hlast, -⟩ := Memory.serves_append.mp h
      rw [Memory.after_append]
      exact .event (ih hbefore) hlast

/-- One package has been transferred to an empty directory. -/
theorem afterTransfers_onePackage : AfterTransfers .empty onePackage := by
  have hrun : Runs (handleDom0updates none (some "sys-firewall") "sys-firewall" : UpdatesM Unit Unit) ()
      (singleRun true).1 (singleRun true).2.1 () := runs_play _ _ _
  rw [← List.append_nil (singleRun true).1] at hrun
  exact .transfer .start hrun (happens_of_serves (by decide))

/-- What the tests find in this repository. -/
def FindsPackage : UpdateEvent → Prop
  | ⟨.pathIs kind _, reply⟩ =>
      let reply : Bool := reply
      reply = decide (kind = "-f")
  | _ => True

/-- The package is installed. -/
theorem installs_trusted_onePackage :
    ∃ past e later,
      (play (checkingSystem 100) (script usualSystem []) ⟨none, false⟩).1 = past ++ e :: later ∧
      e.call.installsPackages = true ∧ ∀ f content, onePackage.package? f = some content →
        (f, content) ∈ onePackage.confirmed := by
  have hrun := runs_play (checkingSystem 100) (script usualSystem []) ⟨none, false⟩
  have hfinds : ∀ e ∈ (play (checkingSystem 100) (script usualSystem []) ⟨none, false⟩).1,
      FindsPackage e := by
    refine forall_mem_play (fun c => ?_) _ _
    cases c with
    | pathIs kind path => exact Bool.and_true (decide (kind = "-f"))
    | _ => trivial
  have hobserved : Observed (fun _ => onePackage)
      (play (checkingSystem 100) (script usualSystem []) ⟨none, false⟩).1 := by
    constructor
    · intro past reply later ht
      exact hfinds ⟨.pathIs "-f" repomdFile, reply⟩ (by simp [ht])
    · intro past reply later ht
      exact hfinds ⟨.pathIs "-r" errorsFile, reply⟩ (by simp [ht])
  obtain ⟨e, he, hinstalls⟩ : ∃ e ∈ (play (checkingSystem 100) (script usualSystem []) ⟨none, false⟩).1,
      e.call.installsPackages = true := by decide +kernel
  obtain ⟨past, later, ht⟩ := List.append_of_mem he
  have hempty : Trusted (.empty : Repository Unit) := by
    constructor
    · rintro ⟨⟩
    · rintro described f content ⟨⟩
  obtain ⟨-, hafter⟩ := installs_trusted hrun hempty (fun _ => afterTransfers_onePackage) hobserved
  obtain ⟨-, k, -, -, hconfirmed⟩ := hafter past e later ht hinstalls
  exact ⟨past, e, later, ht, hinstalls, hconfirmed⟩

end Dom0Update

end QubesAdminLinux
