import QubesAdminLinux.Lib.Dict
import QubesAdminLinux.Lib.Text
import QubesAdminLinux.Lib.Threads

/-! # Receiving the packages of a dom0 update

The UpdateVM sends the packages for dom0 to `qubes-receive-updates`, which unpacks them into a
directory of its own, rewrites each of them into the directory of the local repository, verifies it
there, and makes the metadata of the repository at the end.

* **`handleDom0updates`** — the program, over its calls to the file system and to other programs.
* **`updatesMemory`** — the directories of the repository, as the calls see and change them.
* **`Published`** — what is known of a package before it may stay in the repository.
* **`handleDom0updates_verified`** — a single run checks all files and publishes verified packages only, or
  none. -/

namespace QubesAdminLinux

namespace ReceiveUpdates

open Proc

/-! ## The program -/

/-- The directory of the repository. -/
def updatesDir : String := "/var/lib/qubes/updates"

/-- The directory of its packages. -/
def updatesRpmDir : String := updatesDir ++ "/rpm"

/-- What the program removes and creates below the directory of the repository. -/
inductive Place
  /-- The directory of the packages. -/
  | rpm
  /-- The directory of the metadata. -/
  | repodata
  /-- The file with the error messages. -/
  | errors
  deriving DecidableEq, Repr

/-- An ASCII letter or digit. -/
def isAlphanumeric (c : Char) : Bool :=
  ('A'.toNat ≤ c.toNat && c.toNat ≤ 'Z'.toNat) || ('a'.toNat ≤ c.toNat && c.toNat ≤ 'z'.toNat)
    || ('0'.toNat ≤ c.toNat && c.toNat ≤ '9'.toNat)

/-- A character after the first one of a package name. -/
def isPackageChar (c : Char) : Bool :=
  isAlphanumeric c || c = '.' || c = '_' || c = '+' || c = '^' || c = '~' || c = '-'

/-- `package_regex.match`: one letter or digit, up to 255 package characters, and `.rpm`.  A name that
is no text has a character outside ASCII, as far as this is concerned. -/
def packageRegexMatches (name : String) : Bool :=
  match name.toList with
  | [] => false
  | first :: rest =>
      isAlphanumeric first && 4 ≤ rest.length && rest.length ≤ 259
        && rest.drop (rest.length - 4) = ['.', 'r', 'p', 'm']
        && (rest.take (rest.length - 4)).all isPackageChar

/-- What follows the path of a package in the output of `rpmkeys` if everything is in order. -/
def gpgOkSuffix : Bytes := encodeAscii ": digests signatures OK\n"

/-- An exception of the class `Exception`. -/
inductive Failure
  /-- `subprocess.CalledProcessError`. -/
  | calledProcessError (text : String)
  /-- Any other subclass. -/
  | other (text : String)
  deriving DecidableEq

/-- `str(exc)`. -/
def Failure.str : Failure → String
  | .calledProcessError text => text
  | .other text => text

/-- What the program raises. -/
inductive Raised
  /-- An exception of the class `Exception`. -/
  | failure (exc : Failure)
  /-- `SystemExit`, which is not of this class. -/
  | systemExit (code : Int)
  deriving DecidableEq

/-- The exit code of a process whose main program ends so. -/
def exitCode : Except Raised Unit → Int
  | .ok () => 0
  | .error (.systemExit code) => code
  -- a traceback
  | .error (.failure _) => 1

/-- The reply of a call as what the program returns or raises. -/
def raising {α : Type} : Except Failure α → Except Raised α
  | .ok a => .ok a
  | .error exc => .error (.failure exc)

/-- The calls of the program. -/
inductive UpdatesCall
  /-- `os.path.exists`. -/
  | pathExists (place : Place)
  /-- `shutil.rmtree`. -/
  | rmtree (place : Place)
  /-- `os.remove(updates_error_file)`. -/
  | removeErrors
  /-- `grp.getgrnam('qubes').gr_gid`. -/
  | getgrnam
  /-- `os.mkdir(updates_rpm_dir)`. -/
  | mkdir
  /-- `os.chown(path, -1, gid)`. -/
  | chown (place : Place) (gid : Nat)
  /-- `os.chmod`. -/
  | chmod (place : Place) (mode : Nat)
  /-- Enter `tempfile.TemporaryDirectory`. -/
  | mkdtemp
  /-- Run the unpacker in a directory. -/
  | unpack (tmpDir : String)
  /-- `os.listdir`. -/
  | listdir (tmpDir : String)
  /-- `stat.S_ISREG(os.lstat(path).st_mode)`. -/
  | isRegular (path : String)
  /-- Rewrite `tmpDir/f` as the package `f` of the repository. -/
  | rpmcanon (tmpDir f : String)
  /-- `os.unlink`. -/
  | unlink (path : String)
  /-- Verify the package `f` of the repository: the exit code and the output. -/
  | rpmkeys (f : String)
  /-- Leave `tempfile.TemporaryDirectory`. -/
  | cleanup (tmpDir : String)
  /-- Append a line to the file with the error messages. -/
  | appendError (text : String)
  /-- Make the metadata of the repository. -/
  | createrepo (compsFile : Option String)
  deriving DecidableEq

/-- What a call returns or raises; `χ` is the type of the contents of a package.  Next to the outcome
of `rpmcanon` stands what it has written to the repository, in full or not. -/
def UpdatesCall.Reply (χ : Type) : UpdatesCall → Type
  | .pathExists _ => Bool
  | .getgrnam => Except Failure Nat
  | .mkdtemp => Except Failure String
  | .listdir _ => Except Failure (List String)
  | .isRegular _ => Except Failure Bool
  | .rpmcanon _ _ => Except Failure Unit × Option χ
  | .rpmkeys _ => Except Failure (Int × Bytes)
  | .rmtree _ | .removeErrors | .mkdir | .chown _ _ | .chmod _ _ | .unpack _ | .unlink _ | .cleanup _
  | .appendError _ | .createrepo _ => Except Failure Unit

/-- An event of the program. -/
abbrev UpdatesEvent (χ : Type) := Event (UpdatesCall.Reply χ)

variable {χ : Type}

/-- Code with calls and exceptions, and without variables that outlive a statement. -/
abbrev UpdatesM (χ α : Type) := Proc UpdatesCall (UpdatesCall.Reply χ) Unit Raised α

/-- The full path of a package of the repository. -/
def fullPath (f : String) : String := updatesRpmDir ++ "/" ++ f

/-- The output of `rpmkeys` for a package that is in order. -/
def verifiedOutput (f : String) : Bytes := encodeAscii (fullPath f) ++ gpgOkSuffix

/-- `dom0updates_fatal`. -/
def dom0updatesFatal (msg : String) : UpdatesM χ Unit := do
  ask (.appendError (msg ++ "\n")) raising
  ask (.rmtree .rpm) raising
  throw (.systemExit 1)

/-- `if os.path.exists(place): shutil.rmtree(place)`. -/
def removeIfExists (place : Place) : UpdatesM χ Unit := do
  let present : Bool ← request (UpdatesCall.pathExists place)
  if present then ask (.rmtree place) raising else pure ()

/-- `if os.path.exists(updates_error_file): os.remove(updates_error_file)`. -/
def removeErrorFile : UpdatesM χ Unit := do
  let present : Bool ← request (UpdatesCall.pathExists .errors)
  if present then ask .removeErrors raising else pure ()

/-- The preparation of the directories. -/
def prepareDirectories : UpdatesM χ Nat := do
  removeIfExists .rpm
  removeIfExists .repodata
  removeErrorFile
  let qubesGid : Nat ← ask .getgrnam raising
  ask .mkdir raising
  ask (.chown .rpm qubesGid) raising
  ask (.chmod .rpm 0o0775) raising
  pure qubesGid

/-- `subprocess.check_call` of `rpmcanon`, with the text of its exception replaced. -/
def canonicalize (tmpDir f : String) : UpdatesM χ Unit :=
  tryCatch (ask (.rpmcanon tmpDir f) fun reply => raising reply.1) fun
    | .failure (.calledProcessError _) =>
        throw (.failure (.other ("Error canonicalizing " ++ (tmpDir ++ "/" ++ f))))
    | exc => throw exc

/-- The verification of a package that is in the repository already. -/
def verifySignature (source f : String) : UpdatesM χ Unit := do
  let (returncode, output) ← ask (.rpmkeys f) raising
  if returncode ≠ 0 then
    throw (.failure (.other ("Error while verifying " ++ f ++ " signature: " ++ reprBytes output)))
  else if output ≠ verifiedOutput f then
    throw (.failure (.other ("Domain " ++ source ++ " sent not signed rpm: " ++ f)))
  else pure ()

/-- The body of the loop over the received files. -/
def verifyFile (source tmpDir f : String) : UpdatesM χ Unit :=
  if packageRegexMatches f = false then
    throw (.failure (.other ("Domain " ++ source ++ " sent unexpected file")))
  -- the assertions, which say what the pattern has made sure of
  else if '/' ∈ f.toList ∨ '\x00' ∈ f.toList ∨ '\x1b' ∈ f.toList then throw (.failure (.other ""))
  else do
    let regular : Bool ← ask (.isRegular (tmpDir ++ "/" ++ f)) raising
    if regular = false then throw (.failure (.other ("Domain " ++ source ++ " sent not regular file")))
    else do
      canonicalize tmpDir f
      ask (.unlink (tmpDir ++ "/" ++ f)) raising
      verifySignature source f

/-- The loop over the received files. -/
def verifyFiles (source tmpDir : String) : List String → UpdatesM χ Unit
  | [] => pure ()
  | f :: rest => do
      verifyFile source tmpDir f
      verifyFiles source tmpDir rest

/-- What runs inside the `with` statement of the temporary directory. -/
def receiveFiles (source tmpDir : String) : UpdatesM χ Unit := do
  ask (.unpack tmpDir) raising
  let files : List String ← ask (.listdir tmpDir) raising
  verifyFiles source tmpDir files

/-- `with tempfile.TemporaryDirectory(...)`: the directory is removed whether or not the body
raises. -/
def withTemporaryDirectory (body : String → UpdatesM χ Unit) : UpdatesM χ Unit := do
  let tmpDir : String ← ask .mkdtemp raising
  let outcome ← observe (body tmpDir)
  ask (.cleanup tmpDir) raising
  returnOrRaise outcome

/-- The `try` statement around the reception: any exception is fatal. -/
def receiveVerified (source : String) : UpdatesM χ Unit :=
  tryCatch (withTemporaryDirectory (receiveFiles source)) fun
    | .failure exc => dom0updatesFatal exc.str
    | .systemExit code => throw (.systemExit code)

/-- The metadata of the repository. -/
def makeMetadata (compsFile : Option String) (qubesGid : Nat) : UpdatesM χ Unit := do
  ask (.createrepo compsFile) raising
  ask (.chown .repodata qubesGid) raising
  ask (.chmod .repodata 0o0775) raising
  throw (.systemExit 0)

/-- `handle_dom0updates`, where `source` is the value of `QREXEC_REMOTE_DOMAIN`. -/
def handleDom0updates (compsFile : Option String) (source : Option String) (updatevm : String) :
    UpdatesM χ Unit :=
  if source ≠ some updatevm then throw (.systemExit 1)
  else do
    let qubesGid ← prepareDirectories
    receiveVerified updatevm
    makeMetadata compsFile qubesGid

/-! ## The repository -/

/-- The repository as the calls see it. -/
structure Repository (χ : Type) where
  /-- The packages, by their names in the directory. -/
  rpm : Option (Dict String χ)
  /-- The packages that the metadata describes. -/
  repodata : Option (Dict String χ)
  /-- The recorded error messages. -/
  errors : Option (List String)
  /-- The packages that `rpmkeys` has confirmed so far: no call depends on them. -/
  confirmed : List (String × χ)

/-- Whether a place exists. -/
def Repository.isPresent (repository : Repository χ) : Place → Bool
  | .rpm => repository.rpm.isSome
  | .repodata => repository.repodata.isSome
  | .errors => repository.errors.isSome

/-- The repository without a place. -/
def Repository.remove (repository : Repository χ) : Place → Repository χ
  | .rpm => { repository with rpm := none }
  | .repodata => { repository with repodata := none }
  | .errors => { repository with errors := none }

/-- The package `f`, if there is one. -/
def Repository.package? (repository : Repository χ) (f : String) : Option χ :=
  repository.rpm.bind fun packages => packages.get? f

/-- Whether a result of `rpmkeys` confirms the package `f`. -/
def confirms (f : String) : Except Failure (Int × Bytes) → Bool
  | .ok (returncode, output) => returncode = 0 && output = verifiedOutput f
  | .error _ => false

/-- Which replies are possible: a place is removed only if it exists and made only if it does not,
`rpmcanon` leaves a package if it succeeds and needs the directory for it, and `rpmkeys` accepts no
package that is not there.  Any call but the first may fail for another reason. -/
def Repository.allows (repository : Repository χ) : UpdatesEvent χ → Bool
  | ⟨.pathExists place, reply⟩ =>
      let present : Bool := reply
      present == repository.isPresent place
  | ⟨.rmtree place, .ok ()⟩ => repository.isPresent place
  | ⟨.removeErrors, .ok ()⟩ => repository.isPresent .errors
  | ⟨.mkdir, .ok ()⟩ => !repository.isPresent .rpm
  | ⟨.chown place _, .ok ()⟩ => repository.isPresent place
  | ⟨.chmod place _, .ok ()⟩ => repository.isPresent place
  | ⟨.rpmcanon _ _, (outcome, written)⟩ =>
      (!outcome.toBool || written.isSome) && (!written.isSome || repository.isPresent .rpm)
  | ⟨.rpmkeys f, .ok (returncode, _)⟩ => returncode ≠ 0 || (repository.package? f).isSome
  | _ => true

/-- What an event does to the repository. -/
def Repository.answer (repository : Repository χ) : UpdatesEvent χ → Repository χ
  | ⟨.rmtree place, .ok ()⟩ => repository.remove place
  | ⟨.removeErrors, .ok ()⟩ => repository.remove .errors
  | ⟨.mkdir, .ok ()⟩ => { repository with rpm := some Dict.empty }
  | ⟨.rpmcanon _ f, (_, some content)⟩ =>
      { repository with rpm := repository.rpm.map fun packages => packages.set f content }
  | ⟨.rpmkeys f, result⟩ =>
      match repository.package? f with
      | some content =>
          if confirms f result then
            { repository with confirmed := (f, content) :: repository.confirmed }
          else repository
      | none => repository
  | ⟨.appendError text, .ok ()⟩ =>
      { repository with errors := some (repository.errors.getD [] ++ [text]) }
  | ⟨.createrepo _, .ok ()⟩ => { repository with repodata := some (repository.rpm.getD Dict.empty) }
  | _ => repository

/-- The repository as a memory that answers the calls; nothing else changes it. -/
def updatesMemory (χ : Type) : Memory (Repository χ) Empty (UpdatesCall.Reply χ) where
  allows repository event := repository.allows event = true
  answer := Repository.answer
  receive repository _ := repository

instance (repository : Repository χ) (e : UpdatesEvent χ) :
    Decidable ((updatesMemory χ).allows repository e) :=
  inferInstanceAs (Decidable (repository.allows e = true))

/-! ## What a run does -/

/-- A file-system operation of dom0 itself has failed.  Whether the received files can be unpacked,
rewritten and verified does not depend on dom0 alone, nor does the metadata. -/
def fileSystemFails : UpdatesEvent χ → Bool
  | ⟨.rmtree _, .error _⟩ => true
  | ⟨.removeErrors, .error _⟩ => true
  | ⟨.getgrnam, .error _⟩ => true
  | ⟨.mkdir, .error _⟩ => true
  | ⟨.chown _ _, .error _⟩ => true
  | ⟨.chmod _ _, .error _⟩ => true
  | ⟨.mkdtemp, .error _⟩ => true
  | ⟨.listdir _, .error _⟩ => true
  | ⟨.isRegular _, .error _⟩ => true
  | ⟨.unlink _, .error _⟩ => true
  | ⟨.cleanup _, .error _⟩ => true
  | ⟨.appendError _, .error _⟩ => true
  | _ => false

/-- A received file fails a check: its name, its type, its canonical form or its signature. -/
def failsCheck : UpdatesEvent χ → Bool
  | ⟨.listdir _, .ok files⟩ => files.any fun f => !packageRegexMatches f
  | ⟨.isRegular _, .ok regular⟩ => !regular
  | ⟨.rpmcanon _ _, (.error _, _)⟩ => true
  | ⟨.rpmkeys f, result⟩ => !confirms f result
  | _ => false

/-- The unpacker fails: then nothing has been received. -/
def failsUnpacking : UpdatesEvent χ → Bool
  | ⟨.unpack _, .error _⟩ => true
  | _ => false

/-- `createrepo_c` fails. -/
def failsMetadata : UpdatesEvent χ → Bool
  | ⟨.createrepo _, .error _⟩ => true
  | _ => false

/-- An event in which a file-system operation fails. -/
abbrev FileSystemFails (e : UpdatesEvent χ) : Prop := fileSystemFails e = true

/-- An event in which a file fails a check. -/
abbrev FailsCheck (e : UpdatesEvent χ) : Prop := failsCheck e = true

/-- An event in which the reception fails: it cannot be unpacked, or a file fails a check. -/
abbrev FailsReception (e : UpdatesEvent χ) : Prop := failsUnpacking e = true ∨ FailsCheck e

/-- The package `f` with content `content` was received as a regular file with an accepted name,
rewritten, and confirmed after that. -/
structure Published (t : List (UpdatesEvent χ)) (f : String) (content : χ) : Prop where
  /-- The pattern accepts the name. -/
  accepted : packageRegexMatches f = true
  /-- The checks, in their order. -/
  checked : ∃ (tmpDir : String) (result : Except Failure (Int × Bytes)),
    confirms f result = true ∧
    List.Sublist [⟨.isRegular (tmpDir ++ "/" ++ f), .ok true⟩,
      ⟨.rpmcanon tmpDir f, (.ok (), some content)⟩, ⟨.rpmkeys f, result⟩] t

/-- Later events do not matter. -/
theorem Published.append {t : List (UpdatesEvent χ)} {f : String} {content : χ}
    (h : Published t f content) (t' : List (UpdatesEvent χ)) : Published (t ++ t') f content := by
  obtain ⟨haccepted, tmpDir, result, hconfirms, hsublist⟩ := h
  exact ⟨haccepted, tmpDir, result, hconfirms, hsublist.trans (List.sublist_append_left t t')⟩

/-- Earlier events do not matter. -/
theorem Published.prepend {t : List (UpdatesEvent χ)} {f : String} {content : χ}
    (h : Published t f content) (t' : List (UpdatesEvent χ)) : Published (t' ++ t) f content := by
  obtain ⟨haccepted, tmpDir, result, hconfirms, hsublist⟩ := h
  exact ⟨haccepted, tmpDir, result, hconfirms, hsublist.trans (List.sublist_append_right t' t)⟩

/-! ### Names -/

/-- An accepted name consists of package characters. -/
theorem isPackageChar_of_matches {name : String} (h : packageRegexMatches name = true) :
    ∀ c ∈ name.toList, isPackageChar c = true := by
  rw [packageRegexMatches] at h
  split at h
  · cases h
  · rename_i first rest hname
    simp only [Bool.and_eq_true, decide_eq_true_eq, List.all_eq_true] at h
    obtain ⟨⟨⟨⟨hfirst, -⟩, -⟩, hend⟩, hmiddle⟩ := h
    rw [hname, List.forall_mem_cons]
    refine ⟨by rw [isPackageChar, hfirst]; rfl, fun c hc => ?_⟩
    -- after the first character come the middle and `.rpm`
    rw [← List.take_append_drop (rest.length - 4) rest, hend, List.mem_append] at hc
    rcases hc with hc | hc
    · exact hmiddle c hc
    · simp only [List.mem_cons, List.not_mem_nil, or_false] at hc
      rcases hc with rfl | rfl | rfl | rfl
      · decide
      · decide
      · decide
      · decide

/-- An accepted name starts with a letter or a digit. -/
theorem isAlphanumeric_of_matches {name : String} (h : packageRegexMatches name = true) :
    ∀ c, name.toList.head? = some c → isAlphanumeric c = true := by
  rw [packageRegexMatches] at h
  split at h
  · cases h
  · rename_i first rest hname
    simp only [Bool.and_eq_true] at h
    rw [hname]
    rintro c ⟨⟩
    exact h.1.1.1.1

/-- A name whose path is directly inside the directory and no option of a command. -/
structure PlainName (name : String) : Prop where
  /-- It has no directory part. -/
  noSlash : '/' ∉ name.toList
  /-- It is neither an option nor hidden, nor a name of a directory. -/
  start : ∀ c, name.toList.head? = some c → c ≠ '-' ∧ c ≠ '.'

/-- Accepted names are plain. -/
theorem plainName_of_matches {name : String} (h : packageRegexMatches name = true) :
    PlainName name := by
  refine ⟨fun hslash => ?_, fun c hc => ⟨?_, ?_⟩⟩
  · have := isPackageChar_of_matches h '/' hslash
    revert this
    decide
  · rintro rfl
    have := isAlphanumeric_of_matches h '-' hc
    revert this
    decide
  · rintro rfl
    have := isAlphanumeric_of_matches h '.' hc
    revert this
    decide

/-! ### The received files -/

/-- Files that have passed all checks, with the events of their checks. -/
inductive FilesVerified (tmpDir : String) : List String → List (UpdatesEvent χ) → Prop
  | nil : FilesVerified tmpDir [] []
  | cons {f : String} {rest : List String} {t : List (UpdatesEvent χ)} {written : Option χ}
      {result : Except Failure (Int × Bytes)} (haccepted : packageRegexMatches f = true)
      (hconfirms : confirms f result = true) (hrest : FilesVerified tmpDir rest t) :
      FilesVerified tmpDir (f :: rest) (⟨.isRegular (tmpDir ++ "/" ++ f), .ok true⟩ ::
        ⟨.rpmcanon tmpDir f, (.ok (), written)⟩ :: ⟨.unlink (tmpDir ++ "/" ++ f), .ok ()⟩ ::
        ⟨.rpmkeys f, result⟩ :: t)

variable {t : List (UpdatesEvent χ)} {u u' : Unit} {source tmpDir f : String}

/-- A call whose reply is returned. -/
theorem runs_ask_ok {α : Type} {c : UpdatesCall} {g : c.Reply χ → Except Raised α} {a : α}
    (h : Runs (ask c g : UpdatesM χ α) u t (.ok a) u') :
    ∃ reply, t = [⟨c, reply⟩] ∧ g reply = .ok a := by
  obtain ⟨reply, rfl, hr, -⟩ := runs_ask.mp h
  exact ⟨reply, rfl, hr.symm⟩

/-- A call whose reply is returned, followed by `k`. -/
theorem runs_ask_bind_ok {α β : Type} {c : UpdatesCall} {g : c.Reply χ → Except Raised α}
    {k : α → UpdatesM χ β} {b : β} (h : Runs (ask c g >>= k) u t (.ok b) u') :
    ∃ (reply : c.Reply χ) (a : α) (t₂ : List (UpdatesEvent χ)), t = ⟨c, reply⟩ :: t₂ ∧
      g reply = .ok a ∧ Runs (k a) u t₂ (.ok b) u' := by
  obtain ⟨a, t₁, t₂, u₁, rfl, hask, hrest⟩ := runs_bind_ok.mp h
  obtain ⟨reply, rfl, hreply⟩ := runs_ask_ok hask
  exact ⟨reply, a, t₂, rfl, hreply, hrest⟩

/-- A reply that is no failure is passed on. -/
theorem raising_eq_ok {α : Type} {reply : Except Failure α} {a : α} :
    raising reply = .ok a ↔ reply = .ok a := by
  cases reply with
  | ok b => simp [raising]
  | error exc => simp [raising]

/-- A file that passes has passed all checks, in this order. -/
theorem runs_verifyFile_ok (h : Runs (verifyFile source tmpDir f : UpdatesM χ Unit) u t (.ok ()) u') :
    packageRegexMatches f = true ∧ ∃ (written : Option χ) (result : Except Failure (Int × Bytes)),
      confirms f result = true ∧ t = [⟨.isRegular (tmpDir ++ "/" ++ f), .ok true⟩,
        ⟨.rpmcanon tmpDir f, (.ok (), written)⟩, ⟨.unlink (tmpDir ++ "/" ++ f), .ok ()⟩,
        ⟨.rpmkeys f, result⟩] := by
  rw [verifyFile] at h
  by_cases hmatches : packageRegexMatches f = false
  · rw [if_pos hmatches] at h
    cases (runs_throw.mp h).2.1
  rw [if_neg hmatches] at h
  refine ⟨by simpa using hmatches, ?_⟩
  split at h
  · cases (runs_throw.mp h).2.1
  obtain ⟨_, regular, t₂, rfl, hregular, hrest⟩ := runs_ask_bind_ok h
  obtain rfl := raising_eq_ok.mp hregular
  by_cases hfile : regular = false
  · rw [if_pos hfile] at hrest
    cases (runs_throw.mp hrest).2.1
  rw [if_neg hfile] at hrest
  obtain rfl : regular = true := by simpa using hfile
  obtain ⟨_, t₃, t₄, u₂, rfl, hcanon, hrest⟩ := runs_bind_ok.mp hrest
  obtain ⟨_, ⟨⟩, t₆, rfl, hunlink, hverify⟩ := runs_ask_bind_ok hrest
  obtain rfl := raising_eq_ok.mp hunlink
  -- the handler of `rpmcanon` raises in any case
  have hcanon' : ∃ written, t₃ = [⟨.rpmcanon tmpDir f, (.ok (), written)⟩] := by
    rcases runs_tryCatch.mp hcanon with ⟨_, -, hask⟩ | ⟨exc, t₇, t₈, u₄, -, -, hhandler⟩
    · obtain ⟨⟨outcome, written⟩, rfl, hr⟩ := runs_ask_ok hask
      obtain rfl := raising_eq_ok.mp hr
      exact ⟨written, rfl⟩
    · cases exc with
      | systemExit code => cases (runs_throw.mp hhandler).2.1
      | failure exc =>
          cases exc with
          | calledProcessError text => cases (runs_throw.mp hhandler).2.1
          | other text => cases (runs_throw.mp hhandler).2.1
  obtain ⟨written, rfl⟩ := hcanon'
  obtain ⟨_, ⟨returncode, output⟩, t₈, rfl, hkeys, hcompare⟩ := runs_ask_bind_ok hverify
  obtain rfl := raising_eq_ok.mp hkeys
  dsimp only at hcompare
  by_cases hcode : returncode = 0
  · rw [if_neg (not_not.mpr hcode)] at hcompare
    by_cases houtput : output = verifiedOutput f
    · rw [if_neg (not_not.mpr houtput)] at hcompare
      obtain ⟨rfl, -, -⟩ := runs_pure.mp hcompare
      exact ⟨written, .ok (returncode, output), by simp [confirms, hcode, houtput], rfl⟩
    · rw [if_pos houtput] at hcompare
      cases (runs_throw.mp hcompare).2.1
  · rw [if_pos hcode] at hcompare
    cases (runs_throw.mp hcompare).2.1

/-- If the loop ends without an exception, all files have passed. -/
theorem runs_verifyFiles_ok {files : List String}
    (h : Runs (verifyFiles source tmpDir files : UpdatesM χ Unit) u t (.ok ()) u') :
    FilesVerified tmpDir files t := by
  induction files generalizing t u with
  | nil =>
      obtain ⟨rfl, -, -⟩ := runs_pure.mp h
      exact .nil
  | cons f rest ih =>
      obtain ⟨_, t₁, t₂, u₁, rfl, hfirst, hothers⟩ := runs_bind_ok.mp h
      obtain ⟨haccepted, written, result, hconfirms, rfl⟩ := runs_verifyFile_ok hfirst
      exact .cons haccepted hconfirms (ih hothers)

/-- No check of a file has failed, and nothing else has. -/
theorem FilesVerified.not_failsReception {files : List String} (h : FilesVerified tmpDir files t) :
    (∀ f ∈ files, packageRegexMatches f = true) ∧ ∀ e ∈ t, ¬ FailsReception e := by
  induction h with
  | nil => simp
  | cons haccepted hconfirms hrest ih =>
      refine ⟨List.forall_mem_cons.mpr ⟨haccepted, ih.1⟩, ?_⟩
      simp only [List.forall_mem_cons]
      exact ⟨by simp [FailsReception, failsUnpacking, failsCheck],
        by simp [FailsReception, failsUnpacking, failsCheck],
        by simp [FailsReception, failsUnpacking, failsCheck],
        by simp [FailsReception, failsUnpacking, failsCheck, hconfirms], ih.2⟩

/-- The events of a reception whose files have all passed. -/
def Received (t : List (UpdatesEvent χ)) : Prop :=
  ∃ (tmpDir : String) (files : List String) (t₁ : List (UpdatesEvent χ)),
    FilesVerified tmpDir files t₁ ∧ t = [⟨.mkdtemp, .ok tmpDir⟩, ⟨.unpack tmpDir, .ok ()⟩,
      ⟨.listdir tmpDir, .ok files⟩] ++ t₁ ++ [⟨.cleanup tmpDir, .ok ()⟩]

/-- All packages of the repository are published by the events so far. -/
def AllPublished (t : List (UpdatesEvent χ)) (repository : Repository χ) : Prop :=
  ∃ packages, repository.rpm = some packages ∧
    ∀ f content, packages.get? f = some content → Published t f content

/-- What `rpmkeys` says about a package is recorded. -/
theorem answer_rpmkeys (repository : Repository χ) (f : String)
    (result : Except Failure (Int × Bytes)) :
    repository.answer ⟨.rpmkeys f, result⟩ = match repository.package? f with
      | some content =>
          if confirms f result then
            { repository with confirmed := (f, content) :: repository.confirmed }
          else repository
      | none => repository := by
  cases result <;> rfl

/-- Confirming a package does not change the packages. -/
theorem rpm_answer_rpmkeys (repository : Repository χ) (f : String)
    (result : Except Failure (Int × Bytes)) :
    (repository.answer ⟨.rpmkeys f, result⟩).rpm = repository.rpm := by
  rw [answer_rpmkeys]
  split
  · split
    · rfl
    · rfl
  · rfl

/-- The files that have passed are the packages that are published. -/
theorem FilesVerified.allPublished {files : List String} (h : FilesVerified tmpDir files t)
    {before : List (UpdatesEvent χ)} {repository : Repository χ}
    (hbefore : AllPublished before repository)
    (hserves : (updatesMemory χ).Serves repository t) :
    AllPublished (before ++ t) ((updatesMemory χ).after repository t) := by
  induction h generalizing before repository with
  | nil => rwa [List.append_nil]
  | @cons f rest t written result haccepted hconfirms hrest ih =>
      obtain ⟨packages, hrpm, hall⟩ := hbefore
      simp only [Memory.serves_cons] at hserves
      obtain ⟨-, hcanon, -, -, hserves⟩ := hserves
      -- a successful `rpmcanon` has written the package
      obtain ⟨content, rfl⟩ : ∃ content, written = some content := by
        refine Option.isSome_iff_exists.mp ?_
        simp only [updatesMemory, Repository.allows, Bool.and_eq_true] at hcanon
        simpa [Except.toBool] using hcanon.1
      -- the events of this file publish it, and leave the other packages as they are
      have hfile : AllPublished (before ++ [⟨.isRegular (tmpDir ++ "/" ++ f), .ok true⟩,
          ⟨.rpmcanon tmpDir f, (.ok (), some content)⟩, ⟨.unlink (tmpDir ++ "/" ++ f), .ok ()⟩,
          ⟨.rpmkeys f, result⟩]) (Repository.answer { repository with
            rpm := repository.rpm.map fun packages => packages.set f content }
          ⟨.rpmkeys f, result⟩) := by
        refine ⟨packages.set f content, ?_, fun f' content' hget => ?_⟩
        · rw [rpm_answer_rpmkeys]
          dsimp only
          rw [hrpm, Option.map_some]
        · rw [Dict.get?_set] at hget
          by_cases hf : f' = f
          · rw [if_pos hf] at hget
            cases hget
            subst hf
            refine Published.prepend ⟨haccepted, tmpDir, result, hconfirms, ?_⟩ before
            exact .cons_cons _ (.cons_cons _ (.cons _ (.cons_cons _ .slnil)))
          · rw [if_neg hf] at hget
            exact (hall f' content' hget).append _
      have hothers := ih hfile hserves
      rwa [List.append_assoc] at hothers

/-! ### The whole run -/

/-- An exception that the `try` statement catches. -/
def IsFailure (exc : Raised) : Prop := ∃ failure, exc = .failure failure

/-- An event in which nothing fails. -/
def Succeeds (e : UpdatesEvent χ) : Prop := ¬ FileSystemFails e ∧ ¬ FailsReception e

/-- A call raises exceptions of the class `Exception` only, and raises only if something fails. -/
theorem yields_ask_succeeds {α : Type} {clean : Prop} (c : UpdatesCall)
    (g : c.Reply χ → Except Failure α)
    (hfails : ∀ reply failure, g reply = .error failure → ¬ Succeeds ⟨c, reply⟩) :
    Yields (fun e => clean → Succeeds e)
      (fun a => clean → ∃ reply, g reply = .ok a ∧ Succeeds ⟨c, reply⟩)
      (fun exc => IsFailure exc ∧ ¬ clean) (ask c fun reply => raising (g reply) : UpdatesM χ α) := by
  refine yields_ask (fun reply a hsucceeds ha hclean => ?_) fun reply exc hsucceeds hexc => ?_
  · exact ⟨reply, raising_eq_ok.mp ha, hsucceeds hclean⟩
  · cases hg : g reply with
    | ok a =>
        rw [hg] at hexc
        cases hexc
    | error failure =>
        rw [hg] at hexc
        cases hexc
        exact ⟨⟨failure, rfl⟩, fun hclean => hfails reply failure hg (hsucceeds hclean)⟩

/-- A call raises exceptions of the class `Exception` only. -/
theorem yields_ask_raising {α : Type} (c : UpdatesCall) (g : c.Reply χ → Except Failure α) :
    Yields (fun _ => True) (fun _ => True) IsFailure
      (ask c fun reply => raising (g reply) : UpdatesM χ α) := by
  refine yields_ask (fun _ _ _ _ => trivial) fun reply exc _ hexc => ?_
  cases hg : g reply with
  | ok a =>
      rw [hg] at hexc
      cases hexc
  | error failure =>
      rw [hg] at hexc
      cases hexc
      exact ⟨failure, rfl⟩

/-- An accepted name passes the assertions. -/
theorem not_asserted_of_matches {name : String} (h : packageRegexMatches name = true) :
    ¬('/' ∈ name.toList ∨ '\x00' ∈ name.toList ∨ '\x1b' ∈ name.toList) := by
  have hchars := isPackageChar_of_matches h
  rintro (hmem | hmem | hmem)
  · exact absurd (hchars _ hmem) (by decide)
  · exact absurd (hchars _ hmem) (by decide)
  · exact absurd (hchars _ hmem) (by decide)

section Clean

variable {clean : Prop}

/-- A file whose checks all succeed raises nothing. -/
theorem yields_verifyFile (hname : clean → packageRegexMatches f = true) :
    Yields (fun e => clean → Succeeds e) (fun _ => True) (fun exc => IsFailure exc ∧ ¬ clean)
      (verifyFile source tmpDir f : UpdatesM χ Unit) := by
  rw [verifyFile]
  split
  · rename_i hrefused
    refine yields_throw ⟨⟨_, rfl⟩, fun hclean => ?_⟩
    rw [hname hclean] at hrefused
    cases hrefused
  rename_i haccepted
  rw [Bool.not_eq_false] at haccepted
  rw [if_neg (not_asserted_of_matches haccepted)]
  refine yields_bind (yields_ask_succeeds (.isRegular _) id ?_) fun regular hregular => ?_
  · rintro (exc | regular) failure hfailure ⟨hfs, -⟩
    · exact hfs rfl
    · cases hfailure
  split
  · rename_i hfile
    refine yields_throw ⟨⟨_, rfl⟩, fun hclean => ?_⟩
    obtain ⟨reply, hreply, -, hpasses⟩ := hregular hclean
    obtain rfl : reply = .ok regular := hreply
    exact hpasses (Or.inr (congrArg not hfile))
  refine yields_bind (R := fun _ => True) ?_ fun _ _ =>
    yields_bind (yields_ask_succeeds (.unlink _) id ?_) fun _ _ => ?_
  · -- the handler of `rpmcanon` only replaces the exception
    refine yields_tryCatch ((yields_ask_succeeds (.rpmcanon tmpDir f) Prod.fst ?_).mono
      fun _ _ => trivial) fun exc hexc => ?_
    · rintro ⟨outcome, written⟩ failure houtcome ⟨-, hpasses⟩
      obtain rfl : outcome = .error failure := houtcome
      exact hpasses (Or.inr rfl)
    obtain ⟨⟨failure, rfl⟩, hnot⟩ := hexc
    cases failure with
    | calledProcessError text => exact yields_throw ⟨⟨_, rfl⟩, hnot⟩
    | other text => exact yields_throw ⟨⟨_, rfl⟩, hnot⟩
  · rintro (exc | ⟨⟩) failure hfailure ⟨hfs, -⟩
    · exact hfs rfl
    · cases hfailure
  refine yields_bind (yields_ask_succeeds (.rpmkeys f) id ?_) fun result hresult => ?_
  · rintro (exc | result) failure hfailure ⟨-, hpasses⟩
    · exact hpasses (Or.inr rfl)
    · cases hfailure
  -- a confirmed package has the expected exit code and output
  have hconfirmed : clean → result.1 = 0 ∧ result.2 = verifiedOutput f := by
    intro hclean
    obtain ⟨reply, hreply, -, hpasses⟩ := hresult hclean
    obtain rfl : reply = .ok result := hreply
    have hconfirms : confirms f (.ok result) = true := by
      by_contra hnot
      rw [Bool.not_eq_true] at hnot
      exact hpasses (Or.inr (congrArg not hnot))
    simpa [confirms] using hconfirms
  dsimp only
  split
  · rename_i hcode
    exact yields_throw ⟨⟨_, rfl⟩, fun hclean => hcode (hconfirmed hclean).1⟩
  split
  · rename_i houtput
    exact yields_throw ⟨⟨_, rfl⟩, fun hclean => houtput (hconfirmed hclean).2⟩
  · exact yields_pure trivial

/-- So does the loop over files whose checks all succeed. -/
theorem yields_verifyFiles {files : List String}
    (hnames : clean → ∀ f ∈ files, packageRegexMatches f = true) :
    Yields (fun e => clean → Succeeds e) (fun _ => True) (fun exc => IsFailure exc ∧ ¬ clean)
      (verifyFiles source tmpDir files : UpdatesM χ Unit) := by
  induction files with
  | nil => exact yields_pure trivial
  | cons f rest ih =>
      refine yields_bind (yields_verifyFile fun hclean => hnames hclean f List.mem_cons_self)
        fun _ _ => ih fun hclean f' hf' => hnames hclean f' (List.mem_cons_of_mem f hf')

/-- Everything inside the `try` statement raises exceptions of the class `Exception` only, and only if
something fails. -/
theorem yields_withTemporaryDirectory :
    Yields (fun e => clean → Succeeds e) (fun _ => True) (fun exc => IsFailure exc ∧ ¬ clean)
      (withTemporaryDirectory (receiveFiles source) : UpdatesM χ Unit) := by
  have hbody : ∀ tmpDir, Yields (fun e => clean → Succeeds e) (fun _ => True)
      (fun exc => IsFailure exc ∧ ¬ clean) (receiveFiles source tmpDir : UpdatesM χ Unit) := by
    intro tmpDir
    refine yields_bind (yields_ask_succeeds (.unpack tmpDir) id ?_) fun _ _ =>
      yields_bind (yields_ask_succeeds (.listdir tmpDir) id ?_) fun files hfiles =>
        yields_verifyFiles fun hclean => ?_
    · rintro (exc | ⟨⟩) failure hfailure ⟨-, hpasses⟩
      · exact hpasses (Or.inl rfl)
      · cases hfailure
    · rintro (exc | files) failure hfailure ⟨hfs, -⟩
      · exact hfs rfl
      · cases hfailure
    · -- a listing that succeeds has accepted names only
      obtain ⟨reply, hreply, -, hpasses⟩ := hfiles hclean
      obtain rfl : reply = .ok files := hreply
      intro f hf
      by_contra hrefused
      rw [Bool.not_eq_true] at hrefused
      exact hpasses (Or.inr (List.any_eq_true.mpr ⟨f, hf, congrArg not hrefused⟩))
  refine yields_bind (yields_ask_succeeds .mkdtemp id ?_) fun tmpDir _ =>
    yields_bind (yields_observe (hbody tmpDir)) fun outcome houtcome =>
      yields_bind (yields_ask_succeeds (.cleanup tmpDir) id ?_) fun _ _ => ?_
  · rintro (exc | tmpDir) failure hfailure ⟨hfs, -⟩
    · exact hfs rfl
    · cases hfailure
  · rintro (exc | ⟨⟩) failure hfailure ⟨hfs, -⟩
    · exact hfs rfl
    · cases hfailure
  · cases outcome with
    | ok a => exact yields_pure trivial
    | error exc => exact yields_throw (houtcome.2 exc rfl)

end Clean

/-- Receiving the files either returns, and then all of them have passed, or ends with the handler of
the `try` statement. -/
theorem runs_receiveVerified {r : Except Raised Unit}
    (h : Runs (receiveVerified source : UpdatesM χ Unit) u t r u') :
    (r = .ok () ∧ Received t) ∨
    ∃ (exc : Failure) (t₁ t₂ : List (UpdatesEvent χ)) (u₁ : Unit), t = t₁ ++ t₂ ∧
      Runs (withTemporaryDirectory (receiveFiles source) : UpdatesM χ Unit) u t₁
        (.error (.failure exc)) u₁ ∧ (∃ e ∈ t₁, ¬ Succeeds e) ∧
      Runs (dom0updatesFatal exc.str : UpdatesM χ Unit) u₁ t₂ r u' := by
  rcases runs_tryCatch.mp h with ⟨_, rfl, hok⟩ | ⟨exc, t₁, t₂, u₁, rfl, hraise, hhandler⟩
  · left
    obtain ⟨made, tmpDir, t₁, rfl, hmade, hrest⟩ := runs_ask_bind_ok hok
    obtain rfl := raising_eq_ok.mp hmade
    obtain ⟨outcome, t₂, t₃, u₁, rfl, hobserve, hclean⟩ := runs_bind_ok.mp hrest
    obtain ⟨outcome', houtcome, hbody⟩ := runs_observe.mp hobserve
    cases houtcome
    obtain ⟨cleaned, ⟨⟩, t₄, rfl, hcleaned, hresume⟩ := runs_ask_bind_ok hclean
    obtain rfl := raising_eq_ok.mp hcleaned
    -- the body has not raised, or the exception would have been raised again
    obtain ⟨rfl, houtcome, -⟩ := runs_returnOrRaise.mp hresume
    rw [← houtcome] at hbody
    obtain ⟨unpacked, ⟨⟩, t₅, rfl, hunpacked, hlist⟩ := runs_ask_bind_ok hbody
    obtain rfl := raising_eq_ok.mp hunpacked
    obtain ⟨listed, files, t₆, rfl, hlisted, hloop⟩ := runs_ask_bind_ok hlist
    obtain rfl := raising_eq_ok.mp hlisted
    exact ⟨rfl, tmpDir, files, t₆, runs_verifyFiles_ok hloop, by simp⟩
  · right
    have hyields : Yields (fun e => (∀ e ∈ t₁, Succeeds e) → Succeeds e) (fun _ => True)
        (fun exc => IsFailure exc ∧ ¬ ∀ e ∈ t₁, Succeeds e)
        (withTemporaryDirectory (receiveFiles source) : UpdatesM χ Unit) := yields_withTemporaryDirectory
    obtain ⟨⟨failure, rfl⟩, hnot⟩ :=
      (hyields u t₁ _ u₁ hraise fun e he hclean => hclean e he).2 exc rfl
    exact ⟨failure, t₁, t₂, u₁, rfl, hraise, by simpa using hnot, hhandler⟩

/-- The preparation, if it returns, ends with an empty directory. -/
theorem runs_prepareDirectories_ok {qubesGid : Nat}
    (h : Runs (prepareDirectories : UpdatesM χ Nat) u t (.ok qubesGid) u') :
    ∃ t₁, t = t₁ ++ [⟨.mkdir, .ok ()⟩, ⟨.chown .rpm qubesGid, .ok ()⟩,
      ⟨.chmod .rpm 0o0775, .ok ()⟩] := by
  obtain ⟨_, t₁, t₂, u₁, rfl, -, hrest⟩ := runs_bind_ok.mp h
  obtain ⟨_, t₃, t₄, u₂, rfl, -, hrest⟩ := runs_bind_ok.mp hrest
  obtain ⟨_, t₅, t₆, u₃, rfl, -, hrest⟩ := runs_bind_ok.mp hrest
  obtain ⟨group, gid, t₇, rfl, -, hmkdir⟩ := runs_ask_bind_ok hrest
  obtain ⟨made, ⟨⟩, t₈, rfl, hmade, hchown⟩ := runs_ask_bind_ok hmkdir
  obtain rfl := raising_eq_ok.mp hmade
  obtain ⟨owned, ⟨⟩, t₉, rfl, howned, hchmod⟩ := runs_ask_bind_ok hchown
  obtain rfl := raising_eq_ok.mp howned
  obtain ⟨opened, ⟨⟩, t₁₀, rfl, hopened, hend⟩ := runs_ask_bind_ok hchmod
  obtain rfl := raising_eq_ok.mp hopened
  obtain ⟨rfl, hgid, -⟩ := runs_pure.mp hend
  cases hgid
  exact ⟨t₁ ++ (t₃ ++ (t₅ ++ [⟨.getgrnam, group⟩])), by simp⟩

/-- A whole run started by the UpdateVM: the preparation raises, or receiving the files ends in the
handler, or all files pass and the metadata is made. -/
theorem runs_handleDom0updates {compsFile : Option String} {updatevm : String}
    {r : Except Raised Unit}
    (h : Runs (handleDom0updates compsFile (some updatevm) updatevm : UpdatesM χ Unit) u t r u') :
    (∃ exc, r = .error exc ∧ Runs (prepareDirectories : UpdatesM χ Nat) u t (.error exc) u') ∨
    ∃ (qubesGid : Nat) (t₀ t₁ t₂ : List (UpdatesEvent χ)) (u₀ u₁ : Unit), t = t₀ ++ t₁ ++ t₂ ∧
      Runs (prepareDirectories : UpdatesM χ Nat) u t₀ (.ok qubesGid) u₀ ∧
      ((∃ exc, Runs (withTemporaryDirectory (receiveFiles updatevm) : UpdatesM χ Unit) u₀ t₁
            (.error (.failure exc)) u₁ ∧ (∃ e ∈ t₁, ¬ Succeeds e) ∧
          Runs (dom0updatesFatal exc.str : UpdatesM χ Unit) u₁ t₂ r u') ∨
        (Received t₁ ∧ Runs (makeMetadata compsFile qubesGid : UpdatesM χ Unit) u₁ t₂ r u')) := by
  rw [handleDom0updates, if_neg (not_not.mpr rfl)] at h
  rcases runs_bind.mp h with ⟨exc, rfl, hprepare⟩ | ⟨qubesGid, t₀, t₁, u₀, rfl, hprepare, hrest⟩
  · exact Or.inl ⟨exc, rfl, hprepare⟩
  right
  rcases runs_bind.mp hrest with ⟨exc, rfl, hreceive⟩ | ⟨_, t₂, t₃, u₁, rfl, hreceive, hmetadata⟩
  · rcases runs_receiveVerified hreceive with ⟨hr, -⟩ | ⟨exc, t₂, t₃, u₁, rfl, hraise, hfails, hfatal⟩
    · cases hr
    · exact ⟨qubesGid, t₀, t₂, t₃, u₀, u₁, by rw [List.append_assoc], hprepare,
        Or.inl ⟨exc, hraise, hfails, hfatal⟩⟩
  · rcases runs_receiveVerified hreceive with ⟨-, hreceived⟩ | ⟨exc, t₄, t₅, u₂, rfl, -, -, hfatal⟩
    · exact ⟨qubesGid, t₀, t₂, t₃, u₀, u₁, by rw [List.append_assoc], hprepare,
        Or.inr ⟨hreceived, hmetadata⟩⟩
    · -- the handler never returns
      obtain ⟨_, _, t₆, _, rfl, -, hexit⟩ := runs_bind_ok.mp hfatal
      obtain ⟨_, _, t₇, _, rfl, -, hexit⟩ := runs_bind_ok.mp hexit
      cases (runs_throw.mp hexit).2.1

/-! ### A single run -/

/-- The preparation raises only if an operation fails. -/
theorem failsOn_prepareDirectories :
    FailsOn FileSystemFails (prepareDirectories : UpdatesM χ Nat) := by
  have hremove : ∀ place, FailsOn FileSystemFails (removeIfExists place : UpdatesM χ Unit) := by
    intro place
    refine failsOn_bind (failsOn_request fun _ h => Bool.false_ne_true h) fun present => ?_
    split
    · exact failsOn_ask (by rintro (exc | a) <;> simp [raising, FileSystemFails, fileSystemFails])
    · exact failsOn_pure
  have herrors : FailsOn FileSystemFails (removeErrorFile : UpdatesM χ Unit) := by
    refine failsOn_bind (failsOn_request fun _ h => Bool.false_ne_true h) fun present => ?_
    split
    · exact failsOn_ask (by rintro (exc | a) <;> simp [raising, FileSystemFails, fileSystemFails])
    · exact failsOn_pure
  refine failsOn_bind (hremove .rpm) fun _ => failsOn_bind (hremove .repodata) fun _ =>
    failsOn_bind herrors fun _ => failsOn_bind (failsOn_ask ?_) fun gid =>
    failsOn_bind (failsOn_ask ?_) fun _ => failsOn_bind (failsOn_ask ?_) fun _ =>
    failsOn_bind (failsOn_ask ?_) fun _ => failsOn_pure
  all_goals
    rintro (exc | a)
    · simp [raising, FileSystemFails, fileSystemFails]
    · simp [raising, FileSystemFails, fileSystemFails]

/-- Nothing that has been received is checked before the directories are ready. -/
theorem emits_prepareDirectories {P : UpdatesEvent χ → Prop}
    (hexists : ∀ place reply, P ⟨.pathExists place, reply⟩)
    (hrmtree : ∀ place reply, P ⟨.rmtree place, reply⟩)
    (herrors : ∀ reply, P ⟨.removeErrors, reply⟩) (hgroup : ∀ reply, P ⟨.getgrnam, reply⟩)
    (hmkdir : ∀ reply, P ⟨.mkdir, reply⟩) (hchown : ∀ place gid reply, P ⟨.chown place gid, reply⟩)
    (hchmod : ∀ place mode reply, P ⟨.chmod place mode, reply⟩) :
    Emits P (prepareDirectories : UpdatesM χ Nat) := by
  have hremove : ∀ place, Emits P (removeIfExists place : UpdatesM χ Unit) := by
    intro place
    refine emits_bind (emits_request (hexists place)) fun present => ?_
    split
    · exact emits_ask (hrmtree place)
    · exact emits_pure
  refine emits_bind (hremove .rpm) fun _ => emits_bind (hremove .repodata) fun _ =>
    emits_bind (emits_bind (emits_request (hexists .errors)) fun present => ?_) fun _ =>
    emits_bind (emits_ask hgroup) fun gid => emits_bind (emits_ask hmkdir) fun _ =>
    emits_bind (emits_ask (hchown .rpm gid)) fun _ =>
    emits_bind (emits_ask (hchmod .rpm 0o0775)) fun _ => emits_pure
  split
  · exact emits_ask herrors
  · exact emits_pure

/-- A call that does not fail, followed by `k`. -/
theorem runs_ask_bind_of_success {α β : Type} {c : UpdatesCall} {g : c.Reply χ → Except Raised α}
    {k : α → UpdatesM χ β} {r : Except Raised β} (h : Runs (ask c g >>= k) u t r u')
    (hfs : ∀ e ∈ t, ¬ FileSystemFails e)
    (hfails : ∀ reply exc, g reply = .error exc → FileSystemFails ⟨c, reply⟩) :
    ∃ (reply : c.Reply χ) (a : α) (t₂ : List (UpdatesEvent χ)), t = ⟨c, reply⟩ :: t₂ ∧
      g reply = .ok a ∧ Runs (k a) u t₂ r u' := by
  rcases runs_bind.mp h with ⟨exc, rfl, hask⟩ | ⟨a, t₁, t₂, u₁, rfl, hask, hrest⟩
  · obtain ⟨reply, rfl, hreply, -⟩ := runs_ask.mp hask
    exact absurd (hfails reply exc hreply.symm) (hfs _ (List.mem_singleton_self _))
  · obtain ⟨reply, rfl, hreply⟩ := runs_ask_ok hask
    exact ⟨reply, a, t₂, rfl, hreply, hrest⟩

/-- The handler records the error, removes the packages and exits with 1. -/
theorem runs_dom0updatesFatal {msg : String} {r : Except Raised Unit}
    (h : Runs (dom0updatesFatal msg : UpdatesM χ Unit) u t r u')
    (hfs : ∀ e ∈ t, ¬ FileSystemFails e) :
    t = [⟨.appendError (msg ++ "\n"), .ok ()⟩, ⟨.rmtree .rpm, .ok ()⟩] ∧
      r = .error (.systemExit 1) := by
  obtain ⟨appended, ⟨⟩, t₁, rfl, happended, hrest⟩ := runs_ask_bind_of_success h hfs
    (by rintro (exc | a) <;> simp [raising, FileSystemFails, fileSystemFails])
  obtain rfl := raising_eq_ok.mp happended
  rw [List.forall_mem_cons] at hfs
  obtain ⟨removed, ⟨⟩, t₂, rfl, hremoved, hexit⟩ := runs_ask_bind_of_success hrest hfs.2
    (by rintro (exc | a) <;> simp [raising, FileSystemFails, fileSystemFails])
  obtain rfl := raising_eq_ok.mp hremoved
  obtain ⟨rfl, hr, -⟩ := runs_throw.mp hexit
  exact ⟨rfl, hr⟩

/-- The metadata is made, and the exit code is 0, unless `createrepo_c` fails. -/
theorem runs_makeMetadata {compsFile : Option String} {qubesGid : Nat} {r : Except Raised Unit}
    (h : Runs (makeMetadata compsFile qubesGid : UpdatesM χ Unit) u t r u')
    (hfs : ∀ e ∈ t, ¬ FileSystemFails e) :
    (∃ exc, t = [⟨.createrepo compsFile, .error exc⟩] ∧ r = .error (.failure exc)) ∨
      (t = [⟨.createrepo compsFile, .ok ()⟩, ⟨.chown .repodata qubesGid, .ok ()⟩,
        ⟨.chmod .repodata 0o0775, .ok ()⟩] ∧ r = .error (.systemExit 0)) := by
  rcases runs_bind.mp h with ⟨exc, rfl, hcreate⟩ | ⟨_, t₁, t₂, u₁, rfl, hcreate, hrest⟩
  · obtain ⟨reply, rfl, hreply, -⟩ := runs_ask.mp hcreate
    rcases reply with exc | ⟨⟩
    · cases hreply
      exact Or.inl ⟨exc, rfl, rfl⟩
    · cases hreply
  right
  obtain ⟨created, rfl, hcreated⟩ := runs_ask_ok hcreate
  obtain rfl := raising_eq_ok.mp hcreated
  rw [List.forall_mem_append] at hfs
  obtain ⟨owned, ⟨⟩, t₃, rfl, howned, hchmod⟩ := runs_ask_bind_of_success hrest hfs.2
    (by rintro (exc | a) <;> simp [raising, FileSystemFails, fileSystemFails])
  obtain rfl := raising_eq_ok.mp howned
  obtain ⟨opened, ⟨⟩, t₄, rfl, hopened, hexit⟩ := runs_ask_bind_of_success hchmod
    (List.forall_mem_cons.mp hfs.2).2
    (by rintro (exc | a) <;> simp [raising, FileSystemFails, fileSystemFails])
  obtain rfl := raising_eq_ok.mp hopened
  obtain ⟨rfl, hr, -⟩ := runs_throw.mp hexit
  exact ⟨rfl, hr⟩

/-- A run that publishes nothing: it exits with another code than 0, the packages are gone, and an
error is recorded. -/
def Rejects (r : Except Raised Unit) (repository : Repository χ) : Prop :=
  exitCode r ≠ 0 ∧ repository.rpm = none ∧
    ∃ messages message, repository.errors = some messages ∧ message ∈ messages

/-- All packages of the repository have plain names, and have been received and verified. -/
def HasVerified (t : List (UpdatesEvent χ)) (repository : Repository χ) : Prop :=
  ∃ packages, repository.rpm = some packages ∧ ∀ f content, packages.get? f = some content →
    PlainName f ∧ Published t f content

/-- A reception whose files have all passed publishes them. -/
theorem Received.allPublished (h : Received t) {before : List (UpdatesEvent χ)}
    {repository : Repository χ} (hbefore : AllPublished before repository)
    (hserves : (updatesMemory χ).Serves repository t) :
    AllPublished (before ++ t) ((updatesMemory χ).after repository t) := by
  obtain ⟨tmpDir, files, t₁, hfiles, rfl⟩ := h
  rw [Memory.serves_append, Memory.serves_append] at hserves
  -- the temporary directory is not part of the repository
  have hstart : AllPublished (before ++ [⟨.mkdtemp, .ok tmpDir⟩, ⟨.unpack tmpDir, .ok ()⟩,
      ⟨.listdir tmpDir, .ok files⟩]) repository := by
    obtain ⟨packages, hrpm, hall⟩ := hbefore
    exact ⟨packages, hrpm, fun f content hget => (hall f content hget).append _⟩
  obtain ⟨packages, hrpm, hall⟩ := hfiles.allPublished hstart hserves.1.2
  refine ⟨packages, ?_, fun f content hget => ?_⟩
  · rw [Memory.after_append]
    exact hrpm
  · have hpublished := (hall f content hget).append [⟨.cleanup tmpDir, .ok ()⟩]
    simpa using hpublished

/-- The metadata is not made in a reception. -/
theorem Received.not_failsMetadata (h : Received t) : ∀ e ∈ t, failsMetadata e = false := by
  obtain ⟨tmpDir, files, t₁, hfiles, rfl⟩ := h
  have hchecks : ∀ e ∈ t₁, failsMetadata e = false := by
    induction hfiles with
    | nil => simp
    | cons haccepted hconfirms hrest ih =>
        simp only [List.forall_mem_cons]
        exact ⟨rfl, rfl, rfl, rfl, ih⟩
  rw [List.forall_mem_append, List.forall_mem_append]
  exact ⟨⟨by simp [failsMetadata], hchecks⟩, by simp [failsMetadata]⟩

/-- Nothing has failed in such a reception. -/
theorem Received.not_failsReception (h : Received t) : ∀ e ∈ t, ¬ FailsReception e := by
  obtain ⟨tmpDir, files, t₁, hfiles, rfl⟩ := h
  obtain ⟨haccepted, hpassed⟩ := hfiles.not_failsReception
  rw [List.forall_mem_append, List.forall_mem_append]
  refine ⟨⟨?_, hpassed⟩, by simp [FailsReception, failsUnpacking, failsCheck]⟩
  simpa [FailsReception, failsUnpacking, failsCheck] using haccepted

/-- The metadata is made after the reception, leaves the packages alone, and decides the exit code. -/
theorem exitCode_makeMetadata (repository : Repository χ) {compsFile : Option String} {qubesGid : Nat}
    {r : Except Raised Unit} (h : Runs (makeMetadata compsFile qubesGid : UpdatesM χ Unit) u t r u')
    (hfs : ∀ e ∈ t, ¬ FileSystemFails e) :
    (∀ e ∈ t, ¬ FailsReception e) ∧ ((updatesMemory χ).after repository t).rpm = repository.rpm ∧
      (exitCode r = 0 ↔ ∀ e ∈ t, failsMetadata e = false) := by
  rcases runs_makeMetadata h hfs with ⟨exc, rfl, rfl⟩ | ⟨rfl, rfl⟩
  · refine ⟨by simp [FailsReception, failsUnpacking, failsCheck], rfl, ?_⟩
    refine iff_of_false one_ne_zero fun hnone => ?_
    exact absurd (hnone _ (List.mem_singleton_self _)) Bool.true_eq_false.mp
  · refine ⟨by simp [FailsReception, failsUnpacking, failsCheck], rfl, ?_⟩
    exact iff_of_true rfl (by simp [failsMetadata])

/-- A single run started by the UpdateVM, as long as the file system of dom0 works.  If the reception
fails, because a file fails a check or nothing could be unpacked, the run rejects everything.  Otherwise
all files that were listed have passed all checks, all packages are verified, and the run exits with 0
unless the metadata cannot be made.  A run started by another domain changes nothing. -/
theorem handleDom0updates_verified {compsFile source : Option String} {updatevm : String}
    {repository : Repository χ} {r : Except Raised Unit}
    (h : Runs (handleDom0updates compsFile source updatevm : UpdatesM χ Unit) () t r ())
    (hserves : (updatesMemory χ).Serves repository t) (hfs : ∀ e ∈ t, ¬ FileSystemFails e) :
    (source ≠ some updatevm →
      exitCode r ≠ 0 ∧ (updatesMemory χ).after repository t = repository) ∧
    (source = some updatevm →
      ((∃ e ∈ t, FailsReception e) → Rejects r ((updatesMemory χ).after repository t)) ∧
      ((¬ ∃ e ∈ t, FailsReception e) →
        (∃ received, Received received ∧ received <:+: t) ∧
        HasVerified t ((updatesMemory χ).after repository t) ∧
        (exitCode r = 0 ↔ ∀ e ∈ t, failsMetadata e = false))) := by
  by_cases hsource : source = some updatevm
  · subst hsource
    refine ⟨fun hne => absurd rfl hne, fun _ => ?_⟩
    rcases runs_handleDom0updates h with
      ⟨exc, rfl, hprepare⟩ | ⟨qubesGid, t₀, t₁, t₂, u₀, u₁, rfl, hprepare, hrest⟩
    · -- the preparation raises only if an operation fails
      obtain ⟨e, he, hfails⟩ := (failsOn_prepareDirectories _ _ _ _ hprepare).mp ⟨exc, rfl⟩
      exact absurd hfails (hfs e he)
    rw [List.forall_mem_append, List.forall_mem_append] at hfs
    obtain ⟨⟨-, hfs₁⟩, hfs₂⟩ := hfs
    rcases hrest with ⟨exc, -, ⟨e, he, hfails⟩, hfatal⟩ | ⟨hreceived, hmetadata⟩
    · -- the handler of the `try` statement, after something has failed
      obtain ⟨rfl, rfl⟩ := runs_dom0updatesFatal hfatal hfs₂
      refine ⟨fun _ => ?_, fun hclean => absurd ⟨e, ?_, ?_⟩ hclean⟩
      · rw [Memory.after_append]
        exact ⟨by decide, rfl, _, exc.str ++ "\n", rfl, by simp⟩
      · exact List.mem_append_left _ (List.mem_append_right _ he)
      · by_contra hpasses
        exact hfails ⟨hfs₁ e he, hpasses⟩
    · rw [Memory.serves_append, Memory.serves_append] at hserves
      obtain ⟨⟨hserves₀, hserves₁⟩, -⟩ := hserves
      -- at first there are no packages, and then those that have passed
      have hempty : AllPublished t₀ ((updatesMemory χ).after repository t₀) := by
        obtain ⟨t', rfl⟩ := runs_prepareDirectories_ok hprepare
        rw [Memory.after_append]
        exact ⟨Dict.empty, rfl, by simp⟩
      obtain ⟨packages, hrpm, hall⟩ := hreceived.allPublished hempty hserves₁
      have hprepared : ∀ e ∈ t₀, ¬ FailsReception e ∧ failsMetadata e = false := by
        refine emits_prepareDirectories ?_ ?_ ?_ ?_ ?_ ?_ ?_ _ _ _ _ hprepare
        all_goals simp [FailsReception, failsUnpacking, failsCheck, failsMetadata]
      obtain ⟨hmade, hsame, hexit⟩ := exitCode_makeMetadata
        ((updatesMemory χ).after ((updatesMemory χ).after repository t₀) t₁) hmetadata hfs₂
      refine ⟨?_, fun _ => ⟨⟨t₁, hreceived, t₀, t₂, rfl⟩, ⟨packages, ?_, fun f content hget => ?_⟩, ?_⟩⟩
      · -- neither the preparation nor a reception that has passed fails
        rintro ⟨e, he, hfails⟩
        rw [List.mem_append, List.mem_append] at he
        rcases he with (he | he) | he
        · exact absurd hfails (hprepared e he).1
        · exact absurd hfails (hreceived.not_failsReception e he)
        · exact absurd hfails (hmade e he)
      · rw [Memory.after_append, Memory.after_append, hsame]
        exact hrpm
      · exact ⟨plainName_of_matches (hall f content hget).accepted, (hall f content hget).append t₂⟩
      · rw [hexit, List.forall_mem_append, List.forall_mem_append]
        exact ⟨fun hmetadata => ⟨⟨fun e he => (hprepared e he).2, hreceived.not_failsMetadata⟩, hmetadata⟩,
          fun hall => hall.2⟩
  · rw [handleDom0updates, if_pos hsource] at h
    obtain ⟨rfl, rfl, -⟩ := runs_throw.mp h
    exact ⟨fun _ => ⟨by decide, rfl⟩, fun heq => absurd heq hsource⟩

/-- A repository with nothing in it. -/
def Repository.empty : Repository χ := ⟨none, none, none, []⟩

/-- A run in which the UpdateVM sends one file, of the given type, and everything else is in order. -/
def singleRun (regular : Bool) : List (UpdatesEvent Unit) × Except Raised Unit × Unit :=
  play
    (fun
      | .pathExists _ => false
      | .getgrnam => .ok 1000
      | .mkdtemp => .ok "/var/tmp/qubes-updates-tmp.UNTRUSTED"
      | .listdir _ => .ok ["xen-4.17.rpm"]
      | .isRegular _ => .ok regular
      | .rpmcanon _ _ => (.ok (), some ())
      | .rpmkeys f => .ok (0, verifiedOutput f)
      | .rmtree _ | .removeErrors | .mkdir | .chown _ _ | .chmod _ _ | .unpack _ | .unlink _
      | .cleanup _ | .appendError _ | .createrepo _ => .ok ())
    (handleDom0updates none (some "sys-firewall") "sys-firewall") ()

/-- A regular file is published and the run exits with 0, and a symbolic link is rejected. -/
theorem handleDom0updates_verified_single :
    (exitCode (singleRun true).2.1 = 0 ∧
      (∃ received, Received received ∧ received <:+: (singleRun true).1) ∧
      HasVerified (singleRun true).1 ((updatesMemory Unit).after .empty (singleRun true).1) ∧
      ((updatesMemory Unit).after .empty (singleRun true).1).package? "xen-4.17.rpm" = some ()) ∧
    Rejects (singleRun false).2.1 ((updatesMemory Unit).after .empty (singleRun false).1) := by
  have hserves : ∀ regular, (updatesMemory Unit).Serves .empty (singleRun regular).1 := by decide
  have hfs : ∀ regular, ∀ e ∈ (singleRun regular).1, ¬ FileSystemFails e := by decide
  have hclean : ¬ ∃ e ∈ (singleRun true).1, FailsReception e := by decide
  have hlink : ∃ e ∈ (singleRun false).1, FailsReception e := by decide
  obtain ⟨hreceived, hverified, -⟩ :=
    ((handleDom0updates_verified (runs_play _ _ _) (hserves true) (hfs true)).2 rfl).2 hclean
  exact ⟨⟨by decide, hreceived, hverified, by decide⟩,
    ((handleDom0updates_verified (runs_play _ _ _) (hserves false) (hfs false)).2 rfl).1 hlink⟩

end ReceiveUpdates

end QubesAdminLinux
