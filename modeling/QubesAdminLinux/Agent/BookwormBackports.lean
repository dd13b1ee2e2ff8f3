import Mathlib.Data.List.Infix
import QubesAdminLinux.Agent.OsRelease

/-! # Pinning backports

On Debian bookworm, a plugin of the agent lets `apt` prefer the backports of two packages.  It writes the
file with the pins when there is none.

* **`bookwormBackports`** — the plugin, for one run of the agent.
* **`prefs_runAll`** — the file with the pins after any history of runs: the first run that needs a pin
  decides.
* **`alwaysFollow_iff`** — the pins follow the installed packages if and only if no later run needs a pin
  that this run did not need. -/

namespace QubesAdminLinux

namespace Backports

/-! ## The plugin -/

/-- The packages that are checked. -/
inductive Package
  /-- `firmware-linux-nonfree`. -/
  | firmware
  /-- `pipewire`. -/
  | pipewire
  deriving DecidableEq, Repr

/-- `prefs_firmware_data` and `prefs_pipewire_data`. -/
def Package.prefsData : Package → List Char
  | .firmware =>
      "Package: src:firmware-nonfree\nPin: release n=bookworm-backports\nPin-Priority: 600\n\n".toList
  | .pipewire =>
      "Package: src:pipewire\nPin: release n=bookworm-backports\nPin-Priority: 600\n\n".toList

/-- `base_repo_url` and `base_onion_repo_url`. -/
def baseRepoUrls : List String :=
  ["deb.debian.org/debian/dists/bookworm/InRelease",
    "2s4yqjx5ul6okpp3f2gaunr2syex5jgbfpfvhxxbbjwnrsvbk5v3qbid.onion/debian/dists/bookworm/InRelease"]

/-- `part in text`. -/
def contains (text part : String) : Bool := part.toList <:+: text.toList

/-- The rest of a text without the occurrences of a part, the first `skip` characters of which belong to
an occurrence before it. -/
def removeFrom (part : List Char) : Nat → List Char → List Char
  | _, [] => []
  | skip + 1, _ :: rest => removeFrom part skip rest
  | 0, c :: rest =>
      if part.isPrefixOf (c :: rest) then removeFrom part (part.length - 1) rest
      else c :: removeFrom part 0 rest

/-- `url.split()[0].strip("'").replace("/dists/bookworm/InRelease", "")`; a line with an address has a
word. -/
def baseUrlOf (url : String) : String :=
  let address := ((words url).headD "").toList
  let address := (address.dropWhile (· = singleQuote)).rdropWhile (· = singleQuote)
  String.ofList (removeFrom "/dists/bookworm/InRelease".toList 0 address)

/-- `add_backports_repo`: the list of sources after it; `uris` is what `apt-get` prints, if it succeeds. -/
def addBackportsRepo (uris : Option String) (sources : Option String) : Option String :=
  match uris with
  | none => sources
  | some output =>
      let urls := splitLines output
      -- the first address that is not empty
      let baseurl := urls.foldl (fun baseurl url =>
        if baseurl = "" ∧ baseRepoUrls.any (contains url) then baseUrlOf url else baseurl) ""
      let backportsEnabled := urls.any fun url => contains url "/debian/dists/bookworm-backports/"
      if baseurl ≠ "" ∧ backportsEnabled = false ∧ sources.isNone then
        some s!"deb {baseurl} bookworm-backports main contrib non-free-firmware\n"
      else sources

/-- `check_package_not_from_backports`, for the output of `dpkg -l`, if it succeeds. -/
def checkPackageNotFromBackports : Option Bytes → Bool
  | some output => !(encodeAscii "bpo" <:+: output)
  | none => false

/-- The packages of a system at one run of the agent. -/
structure World where
  /-- The output of `dpkg -l`, or `none` if it fails. -/
  dpkgList : Package → Option Bytes
  /-- The output of `apt-get --print-uris update`, or `none` if it fails. -/
  aptUris : Option String
  /-- Whether a package is installed, and not from backports. -/
  outside : Package → Prop
  /-- `dpkg` lists an installed package with its version; only versions from backports have a `bpo`. -/
  listed : ∀ package, outside package →
    ∃ output, dpkgList package = some output ∧ ¬ encodeAscii "bpo" <:+: output

/-- The files that the plugin writes, if they are there. -/
structure Files where
  /-- `sources_list`. -/
  sources : Option String
  /-- `prefs_path`. -/
  prefs : Option (List Char)

/-- Whether the plugin finds that a package has to be updated. -/
def World.needs (world : World) (package : Package) : Bool :=
  checkPackageNotFromBackports (world.dpkgList package)

/-- Whether it finds one of them. -/
def World.needsUpdate (world : World) : Bool := world.needs .firmware || world.needs .pipewire

/-- What it writes to the file with the pins. -/
def World.prefsText (world : World) : List Char :=
  (if world.needs .firmware then Package.firmware.prefsData else [])
    ++ (if world.needs .pipewire then Package.pipewire.prefsData else [])

/-- `bookworm_backports`. -/
def bookwormBackports (osData : OsRelease.OsData) (world : World) (files : Files) : Files :=
  if osData.codename = some (.str "bookworm") then
    if world.needsUpdate = false then files
    else
      let files := { files with sources := addBackportsRepo world.aptUris files.sources }
      if files.prefs.isNone then { files with prefs := some world.prefsText } else files
  else files

/-- The files after several runs. -/
def runAll (osData : OsRelease.OsData) (files : Files) (history : List World) : Files :=
  history.foldl (fun files world => bookwormBackports osData world files) files

/-! ## The pins -/

/-- The file with the pins has the pin of a package. -/
def Files.Pinned (files : Files) (package : Package) : Prop :=
  ∃ text, files.prefs = some text ∧ package.prefsData <:+: text

/-- A package from outside of the backports is needed. -/
theorem World.needs_of_outside {world : World} {package : Package} (h : world.outside package) :
    world.needs package = true := by
  obtain ⟨output, houtput, hversion⟩ := world.listed package h
  rw [World.needs, houtput, checkPackageNotFromBackports, decide_eq_false hversion]
  rfl

/-- An update is needed if and only if some package is. -/
theorem World.needsUpdate_iff (world : World) :
    world.needsUpdate = true ↔ ∃ package, world.needs package = true := by
  rw [World.needsUpdate, Bool.or_eq_true]
  constructor
  · rintro (h | h)
    · exact ⟨_, h⟩
    · exact ⟨_, h⟩
  · rintro ⟨package, h⟩
    cases package with
    | firmware => exact Or.inl h
    | pipewire => exact Or.inr h

/-- The pins that are written are those of the packages to be updated. -/
theorem prefsData_infix_iff (world : World) (package : Package) :
    package.prefsData <:+: world.prefsText ↔ world.needs package = true := by
  have hall : ∀ firmware pipewire : Bool,
      (Package.firmware.prefsData <:+: (if firmware = true then Package.firmware.prefsData else [])
        ++ (if pipewire = true then Package.pipewire.prefsData else []) ↔ firmware = true) ∧
      (Package.pipewire.prefsData <:+: (if firmware = true then Package.firmware.prefsData else [])
        ++ (if pipewire = true then Package.pipewire.prefsData else []) ↔ pipewire = true) := by
    intro firmware pipewire
    cases firmware <;> cases pipewire <;> decide +kernel
  have hworld := hall (world.needs .firmware) (world.needs .pipewire)
  cases package with
  | firmware => exact hworld.1
  | pipewire => exact hworld.2

variable {osData : OsRelease.OsData} (hos : osData.codename = some (.str "bookworm"))

include hos in
/-- One run keeps the file with the pins if there is one, and else writes the pins that it needs. -/
theorem prefs_bookwormBackports (world : World) (files : Files) :
    (bookwormBackports osData world files).prefs
      = files.prefs.or (if world.needsUpdate then some world.prefsText else none) := by
  rw [bookwormBackports, if_pos hos]
  dsimp only
  cases hneeds : world.needsUpdate with
  | false =>
      rw [if_pos rfl, if_neg Bool.false_ne_true, Option.or_none]
  | true =>
      rw [if_neg (by simp), if_pos rfl]
      cases hprefs : files.prefs with
      | none => rfl
      | some text =>
          rw [if_neg (by simp)]
          rfl

include hos in
/-- The first run that needs a pin decides. -/
theorem prefs_runAll (files : Files) (history : List World) :
    (runAll osData files history).prefs
      = files.prefs.or ((history.find? World.needsUpdate).map World.prefsText) := by
  induction history generalizing files with
  | nil => exact (Option.or_none).symm
  | cons world rest ih =>
      rw [runAll, List.foldl_cons]
      have hrest := ih (bookwormBackports osData world files)
      rw [runAll] at hrest
      rw [hrest, prefs_bookwormBackports hos, List.find?_cons]
      cases hneeds : world.needsUpdate with
      | false => rw [if_neg Bool.false_ne_true, Option.or_none]
      | true =>
          rw [if_pos rfl, Option.map_some, Option.or_assoc, Option.some_or]

/-! ## Histories -/

/-- What a run should leave: a pin for every package that is installed from elsewhere, and all pins that
were there. -/
structure PinsFollow (files : Files) (world : World) (files' : Files) : Prop where
  /-- Such a package is pinned. -/
  needed : ∀ package, world.outside package → files'.Pinned package
  /-- A pinned package stays pinned. -/
  kept : ∀ package, files.Pinned package → files'.Pinned package

/-- This holds after each run of a history. -/
def AlwaysFollow (osData : OsRelease.OsData) (files : Files) (history : List World) : Prop :=
  ∀ before world after, history = before ++ world :: after →
    PinsFollow (runAll osData files before) world (runAll osData files (before ++ [world]))

/-- The first run that finds a package to be updated finds all packages that are installed from elsewhere
at later runs. -/
def FirstFindsAll (history : List World) : Prop :=
  ∀ before first between world after, history = before ++ first :: (between ++ world :: after) →
    (∀ earlier ∈ before, ∀ package, earlier.needs package = false) →
    (∃ package, first.needs package = true) →
    ∀ package, world.outside package → first.needs package = true

include hos in
/-- Which packages are pinned after a history. -/
theorem pinned_runAll_iff (sources : Option String) (history : List World) (package : Package) :
    (runAll osData ⟨sources, none⟩ history).Pinned package ↔
      ∃ first, history.find? World.needsUpdate = some first ∧ first.needs package = true := by
  rw [Files.Pinned, prefs_runAll hos, Option.none_or]
  cases hfind : history.find? World.needsUpdate with
  | none => simp
  | some first =>
      simp only [Option.map_some, Option.some.injEq, exists_eq_left']
      exact prefsData_infix_iff first package

include hos in
/-- From a system without a file with pins, the pins follow the installed packages through a history if
and only if the first run that finds a package to be updated finds all packages that are installed from
elsewhere at later runs. -/
theorem alwaysFollow_iff (sources : Option String) (history : List World) :
    AlwaysFollow osData ⟨sources, none⟩ history ↔ FirstFindsAll history := by
  have hquiet : ∀ earlier : World, (∀ package, earlier.needs package = false) ↔
      ¬ earlier.needsUpdate = true := by
    intro earlier
    rw [World.needsUpdate_iff, not_exists]
    simp
  constructor
  · intro h before first between world after hhistory hbefore hfirst package houtside
    have hsplit : history = (before ++ first :: between) ++ world :: after := by
      rw [hhistory, List.append_assoc, List.cons_append]
    have hpinned := (h _ world after hsplit).needed package houtside
    rw [pinned_runAll_iff hos] at hpinned
    obtain ⟨first', hfind, hneeds⟩ := hpinned
    have hfirst' : (before ++ first :: between ++ [world]).find? World.needsUpdate = some first := by
      rw [List.find?_append, List.find?_append, List.find?_eq_none.mpr, List.find?_cons,
        (World.needsUpdate_iff first).mpr hfirst, Option.none_or, Option.some_or]
      exact fun earlier hearlier => (hquiet earlier).mp (hbefore earlier hearlier)
    rw [hfirst', Option.some.injEq] at hfind
    rw [hfind]
    exact hneeds
  · intro h before world after hhistory
    refine ⟨fun package houtside => ?_, fun package hpinned => ?_⟩
    · rw [pinned_runAll_iff hos, List.find?_append]
      cases hfind : before.find? World.needsUpdate with
      | none =>
          have hneeds := World.needs_of_outside houtside
          refine ⟨world, ?_, hneeds⟩
          rw [Option.none_or, List.find?_cons, (World.needsUpdate_iff world).mpr ⟨package, hneeds⟩]
      | some first =>
          refine ⟨first, rfl, ?_⟩
          obtain ⟨hfirst, front, between, rfl, hfront⟩ := List.find?_eq_some_iff_append.mp hfind
          refine h front first between world after (by simp [hhistory]) (fun earlier hearlier => ?_)
            ((World.needsUpdate_iff first).mp hfirst) package houtside
          rw [hquiet]
          simpa using hfront earlier hearlier
    · -- a file that is there is not written again
      rw [pinned_runAll_iff hos] at hpinned ⊢
      obtain ⟨first, hfind, hneeds⟩ := hpinned
      refine ⟨first, ?_, hneeds⟩
      rw [List.find?_append, hfind, Option.some_or]

/-- Debian 12. -/
def debian : OsRelease.OsData :=
  { id := "debian", name := "Debian GNU/Linux", codename := some (.str "bookworm"), osFamily := "Debian" }

/-- What `dpkg` prints about a package of bookworm itself. -/
def listing : Bytes := encodeAscii "ii  pipewire  0.3.65-3+deb12u1  amd64\n"

/-- What `dpkg` prints, depending on whether the firmware is installed. -/
def dpkgOfBookworm (firmware : Bool) (package : Package) : Option Bytes :=
  if package = .pipewire ∨ firmware = true then some listing else none

/-- What `dpkg` lists of the two packages is not from the backports. -/
theorem dpkgOfBookworm_listed (firmware : Bool) (package : Package)
    (h : package = .pipewire ∨ firmware = true) :
    ∃ output, dpkgOfBookworm firmware package = some output ∧ ¬ encodeAscii "bpo" <:+: output :=
  ⟨listing, if_pos h, by decide +kernel⟩

/-- A system with the `pipewire` of bookworm, and with or without its firmware. -/
def bookworm (firmware : Bool) : World :=
  ⟨dpkgOfBookworm firmware, none, fun package => package = .pipewire ∨ firmware = true,
    dpkgOfBookworm_listed firmware⟩

/-- The history of a system on which nothing changes. -/
theorem alwaysFollow_iff_unchanged :
    AlwaysFollow debian ⟨none, none⟩ [bookworm true, bookworm true] ↔
      FirstFindsAll [bookworm true, bookworm true] :=
  alwaysFollow_iff rfl none [bookworm true, bookworm true]

/-- Firmware that is installed after the first run is not pinned. -/
theorem not_alwaysFollow_firmware :
    ¬ AlwaysFollow debian ⟨none, none⟩ [bookworm false, bookworm true] := by
  intro h
  obtain ⟨text, hprefs, hpinned⟩ :=
    (h [bookworm false] (bookworm true) [] rfl).needed .firmware (Or.inr rfl)
  have hwritten : (runAll debian ⟨none, none⟩ ([bookworm false] ++ [bookworm true])).prefs
      = some Package.pipewire.prefsData := by decide +kernel
  rw [hwritten, Option.some.injEq] at hprefs
  subst hprefs
  revert hpinned
  decide +kernel

end Backports

end QubesAdminLinux
