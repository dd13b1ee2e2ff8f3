import QubesAdminLinux.Agent.Plugins

/-! # Running the plugins again

The agent runs its plugins at each update, so they find what they have left the last time.

* **`Programs`** — how the other programs behave; **`environment`** — a system with them.
* **`settled_iff`** — when `disable_deltarpm` has nothing left to do.
* **`plugins_again_iff`** — after plugins that did not raise, a second run changes nothing, unless the
  markers in `dnf.conf` are in the wrong order; then each run adds a line. -/

namespace QubesAdminLinux

namespace Plugins

open Proc

/-! ## A system -/

/-- What the plugins for Fedora see of SELinux. -/
structure Labelling where
  /-- `/usr/sbin/selinuxenabled`, if it is there. -/
  selinuxenabled : Option (List Char)
  /-- `/usr/bin/meminfo-writer`, if it is there. -/
  meminfoWriter : Option (List Char)
  /-- `/run/meminfo-writer.pid`, if it is there. -/
  pidFile : Option (List Char)
  /-- What `ls -Z` prints. -/
  listing : Except PluginError String
  /-- Whether the policy is enforced. -/
  enforcing : Bool

/-- The lists of `apt` that a plugin writes. -/
structure AptLists where
  /-- The list of backports, if it is there. -/
  sources : Option (List Char)
  /-- The pins, if they are there. -/
  prefs : Option (List Char)

/-- What a plugin looks at. -/
abbrev PluginState : Plugin → Type
  | .allowReleaseInfoChange => Option (List Char)
  | .bookwormBackports => AptLists
  | .disableDeltarpm => Option (List Char)
  | .fixMeminfoWriterLabel => Labelling
  | .manageRpmMacro => Option (List Char)
  | .pipewireArchlinux => Bool
  | .updatesproxyFix => Option (List Char)
  | .whonix17Key => Option (List Char)

/-- The content of a file, if it is there. -/
def PluginFile.content : (file : PluginFile) → PluginState file.plugin → Option (List Char)
  | .aptConf, s => s
  | .sourcesList, s => s.sources
  | .prefs, s => s.prefs
  | .dnfConf, s => s
  | .selinuxenabled, s => s.selinuxenabled
  | .meminfoWriter, s => s.meminfoWriter
  | .pidFile, s => s.pidFile
  | .rpmMacro, s => s
  | .updatesProxy, s => s
  | .keyring, s => s

/-- Write or remove a file. -/
def PluginFile.put : (file : PluginFile) → Option (List Char) → PluginState file.plugin →
    PluginState file.plugin
  | .aptConf, content, _ => content
  | .sourcesList, content, s => { s with sources := content }
  | .prefs, content, s => { s with prefs := content }
  | .dnfConf, content, _ => content
  | .selinuxenabled, content, s => { s with selinuxenabled := content }
  | .meminfoWriter, content, s => { s with meminfoWriter := content }
  | .pidFile, content, s => { s with pidFile := content }
  | .rpmMacro, content, _ => content
  | .updatesProxy, content, _ => content
  | .keyring, content, _ => content

/-- How the other programs behave. -/
structure Programs where
  /-- What `apt-get` prints, with or without a list of backports, or `none` if it fails. -/
  uris : Option (List Char) → Option String
  /-- `dpkg -l`. -/
  dpkgList : Backports.Package → Except PluginError Bytes
  /-- `selinuxenabled`. -/
  selinuxenabled : Except PluginError Int
  /-- What `ls -Z` prints of a file with a new label, and whether it can be changed. -/
  chcon : Except PluginError String
  /-- `setenforce 0`. -/
  setenforce : Except PluginError Unit
  /-- `pacman -Syup`, with or without `pulseaudio`. -/
  updates : Bool → Except PluginError String
  /-- `pacman -Rdd`. -/
  pacmanRemove : Except PluginError Unit
  /-- `gpg`, for a keyring. -/
  gpgListing : Option (List Char) → Except PluginError String
  /-- `os.kill`. -/
  kill : Int → Except PluginError Unit
  /-- A changed label is listed. -/
  chcon_listed : ∀ listing, chcon = .ok listing → Backports.contains listing expectedLabel = true

/-- Run a command. -/
def Programs.run (programs : Programs) : (command : PluginCommand) → PluginState command.plugin →
    Except PluginError command.Result × PluginState command.plugin
  | .aptUris, s =>
      match programs.uris s.sources with
      | some uris => (.ok uris, s)
      | none => (.error .calledProcessError, s)
  | .dpkgList package, s => (programs.dpkgList package, s)
  | .selinuxenabled, s => (programs.selinuxenabled, s)
  | .listLabel _, s => (s.listing, s)
  | .chcon _, s =>
      match programs.chcon with
      | .ok listing => (.ok (), { s with listing := .ok listing })
      | .error exc => (.error exc, s)
  | .setenforce, s =>
      match programs.setenforce with
      | .ok () => (.ok (), { s with enforcing := false })
      | .error exc => (.error exc, s)
  | .pacmanQuery, s => (.ok (if s then 0 else 1), s)
  | .pacmanUpdates, s => (programs.updates s, s)
  | .pacmanRemove, s =>
      match programs.pacmanRemove with
      | .ok () => (.ok (), false)
      | .error exc => (.error exc, s)
  | .gpgListing, s => (programs.gpgListing s, s)

/-- A system with these programs, where files can be written. -/
def environment (programs : Programs) : Surroundings PluginState PluginCall.Reply where
  about := PluginCall.plugin
  answer
    | .pathExists file, s => ((file.content s).isSome, s)
    | .read file, s =>
        match file.content s with
        | some content => (.ok content, s)
        | none => (.error .osError, s)
    | .write file content, s => (.ok (), file.put (some content) s)
    | .remove file, s => (.ok (), file.put none s)
    | .run command, s => programs.run command s
    | .kill pid, s => (programs.kill pid, s)

/-! ## What a plugin makes of its part of the system -/

/-- An outcome where a failed command counts as `none`. -/
def optional {α : Type} : Except PluginError α → Except PluginError (Option α)
  | .ok a => .ok (some a)
  | .error exc => if exc = .calledProcessError then .ok none else .error exc

section Effects

variable (programs : Programs) (kicksecureKey : List Char) (osData : OsRelease.OsData)

/-- The pins and the list of backports are written where there are none. -/
def backportsEffect (lists : AptLists) : Except PluginError Unit × AptLists :=
  if osData.codename = some (.str "bookworm") then
    match optional (programs.dpkgList .firmware), optional (programs.dpkgList .pipewire) with
    | .error exc, _ => (.error exc, lists)
    | .ok _, .error exc => (.error exc, lists)
    | .ok firmware, .ok pipewire =>
        let updateFirmware := Backports.checkPackageNotFromBackports firmware
        let updatePipewire := Backports.checkPackageNotFromBackports pipewire
        if updateFirmware = false ∧ updatePipewire = false then (.ok (), lists)
        else
          let sources := (Backports.addBackportsRepo (programs.uris lists.sources) none).map String.toList
          (.ok (), {
            sources := lists.sources <|> sources
            prefs := lists.prefs <|> some (prefsText updateFirmware updatePipewire) })
  else (.ok (), lists)

/-- The key is disabled. -/
def deltarpmEffect (dnfConf : Option (List Char)) : Except PluginError Unit × Option (List Char) :=
  if osData.osFamily = "RedHat" then
    match dnfConf with
    | none => (.error .osError, none)
    | some content =>
        match Deltarpm.disableIn (fileLines content) with
        | none => (.error .valueError, some content)
        | some lines => (.ok (), some lines.flatten)
  else (.ok (), dnfConf)

/-- `meminfo-writer` is told about its label. -/
def signalEffect (labelling : Labelling) : Except PluginError Unit :=
  match labelling.pidFile with
  | none => .ok ()
  | some text =>
      match PyFloat.intOfText? (String.ofList text) with
      | none => .ok ()
      | some pid =>
          match programs.kill pid with
          | .ok () => .ok ()
          | .error exc => if exc = .osError ∨ exc = .valueError then .ok () else .error exc

/-- The policy is no longer enforced. -/
def permissiveEffect (labelling : Labelling) : Except PluginError Unit × Labelling :=
  match programs.setenforce with
  | .ok () => (.ok (), { labelling with enforcing := false })
  | .error exc => (if exc = .calledProcessError then .ok () else .error exc, labelling)

/-- The label is set, and the policy is no longer enforced. -/
def labelEffect (labelling : Labelling) : Except PluginError Unit × Labelling :=
  if osData.id = "fedora" ∧ labelling.selinuxenabled.isSome = true then
    match optional programs.selinuxenabled with
    | .error exc => (.error exc, labelling)
    | .ok enabled =>
        if enabled = some 0 then
          match optional labelling.listing with
          | .error exc => (.error exc, labelling)
          | .ok none => (.ok (), labelling)
          | .ok (some output) =>
              if Backports.contains output expectedLabel then permissiveEffect programs labelling
              else
                match programs.chcon with
                | .error exc => (if exc = .calledProcessError then .ok () else .error exc, labelling)
                | .ok listing =>
                    match permissiveEffect programs { labelling with listing := .ok listing } with
                    | (.error exc, labelling) => (.error exc, labelling)
                    | (.ok (), labelling) => (signalEffect programs labelling, labelling)
        else (.ok (), labelling)
  else (.ok (), labelling)

/-- The macro is written for an old Fedora, and removed from systems like RHEL. -/
def macroEffect (rpmMacro : Option (List Char)) : Except PluginError Unit × Option (List Char) :=
  if osData.osFamily = "RedHat" then
    if osData.id = "fedora" then
      match osData.release with
      | none => (.error .keyError, rpmMacro)
      | some (.tuple _) => (.error .attributeError, rpmMacro)
      | some (.str release) => (.ok (), if fedoraVersion release < 33 then some rpmMacroText else rpmMacro)
    else (.ok (), none)
  else (.ok (), rpmMacro)

/-- `pulseaudio` is removed. -/
def pulseaudioEffect (installed : Bool) : Except PluginError Unit × Bool :=
  if osData.osFamily = "ArchLinux" ∧ installed = true then
    match programs.updates true with
    | .error exc => (.error exc, true)
    | .ok updateList =>
        if listsPipewire updateList then
          match programs.pacmanRemove with
          | .ok () => (.ok (), false)
          | .error exc => (.error exc, true)
        else (.ok (), true)
  else (.ok (), installed)

/-- The service is replaced if it does not work. -/
def proxyEffect (updatesProxy : Option (List Char)) : Except PluginError Unit × Option (List Char) :=
  match updatesProxy with
  | none => (.ok (), none)
  | some content =>
      (.ok (), some (if osData.osFamily = "RedHat"
        ∧ Backports.contains (String.ofList content) brokenProxy = true then updatesProxyText else content))

/-- The keyring is replaced if it has an expired key. -/
def keyringEffect (keyring : Option (List Char)) : Except PluginError Unit × Option (List Char) :=
  if osData.codename = some (.str "bookworm") ∧ keyring.isSome = true then
    match programs.gpgListing keyring with
    | .error exc => (.error exc, keyring)
    | .ok keyInfo => (.ok (), if listsExpired keyInfo then some kicksecureKey else keyring)
  else (.ok (), keyring)

/-- What a plugin makes of its part of the system. -/
def Plugin.effect : (plugin : Plugin) → PluginState plugin → Except PluginError Unit × PluginState plugin
  | .allowReleaseInfoChange, aptConf =>
      (.ok (), if osData.codename = some (.str "buster") then some allowReleaseInfoChangeText else aptConf)
  | .bookwormBackports, lists => backportsEffect programs osData lists
  | .disableDeltarpm, dnfConf => deltarpmEffect osData dnfConf
  | .fixMeminfoWriterLabel, labelling => labelEffect programs osData labelling
  | .manageRpmMacro, rpmMacro => macroEffect osData rpmMacro
  | .pipewireArchlinux, installed => pulseaudioEffect programs osData installed
  | .updatesproxyFix, updatesProxy => proxyEffect osData updatesProxy
  | .whonix17Key, keyring => keyringEffect programs kicksecureKey osData keyring

/-- What a plugin requires. -/
def Plugin.requires (plugin : Plugin) (requirements : Dict String String) : Dict String String :=
  if plugin = .manageRpmMacro ∧ osData.osFamily = "RedHat" ∧ osData.id ≠ "fedora" then
    requirements.update rhelRequirements
  else requirements

end Effects

/-! ## Served plugins -/

section Served

variable {programs : Programs} {kicksecureKey : List Char} {osData : OsRelease.OsData}
  {s s' : Dict String String} {m m' : (plugin : Plugin) → PluginState plugin}

/-- A plugin asks only for what it is about. -/
theorem about_entrypoint (plugin : Plugin) :
    About (environment programs) plugin (plugin.entrypoint kicksecureKey osData) :=
  (@heeds_entrypoint kicksecureKey osData [] plugin).emits fun _ _ h => h.1

/-- The test for a file answers whether the file has a content. -/
theorem serve_pathExists (file : PluginFile) : serve (environment programs) (pathExists file) s m
    = ((.ok (file.content (m file.plugin)).isSome, s), m) := by
  rw [pathExists, serve_request]
  exact congrArg _ (Function.update_eq_self _ _)

/-- Reading a file gives its content, and raises without one. -/
theorem serve_read (file : PluginFile) : serve (environment programs) (read file) s m
    = ((match file.content (m file.plugin) with
      | some content => .ok content
      | none => .error .osError, s), m) := by
  rw [read, serve_ask]
  cases hcontent : file.content (m file.plugin) with
  | none => simp [environment, hcontent]
  | some content => simp [environment, hcontent]

/-- Writing a file changes the content of this file only. -/
theorem serve_write (file : PluginFile) (content : List Char) :
    serve (environment programs) (write file content) s m
      = ((.ok (), s), Function.update m file.plugin (file.put (some content) (m file.plugin))) := by
  rw [write, serve_ask]
  rfl

/-- Running a command does what the program does to the part that the command is about. -/
theorem serve_run (command : PluginCommand) : serve (environment programs) (run command) s m
    = (((programs.run command (m command.plugin)).1, s),
      Function.update m command.plugin (programs.run command (m command.plugin)).2) := by
  rw [run, serve_ask]
  rfl

/-- A command that may fail. -/
theorem serve_unlessFailed (command : PluginCommand) :
    serve (environment programs) (unlessFailed command) s m
      = ((optional (programs.run command (m command.plugin)).1, s),
        Function.update m command.plugin (programs.run command (m command.plugin)).2) := by
  rw [unlessFailed, serve_tryCatch, serve_bind, serve_run]
  cases (programs.run command (m command.plugin)).1 with
  | ok result => rfl
  | error exc =>
      dsimp only [optional]
      split <;> rfl

variable (programs kicksecureKey osData) in
/-- A plugin does what its effect says. -/
def Computes (plugin : Plugin) : Prop :=
  ∀ s m, serve (environment programs) (plugin.entrypoint kicksecureKey osData) s m
    = (((plugin.effect programs kicksecureKey osData (m plugin)).1, plugin.requires osData s),
      Function.update m plugin (plugin.effect programs kicksecureKey osData (m plugin)).2)

/-- The plugin for the release information of APT has its effect. -/
theorem computes_allowReleaseInfoChange : Computes programs kicksecureKey osData .allowReleaseInfoChange := by
  intro s m
  rw [Plugin.entrypoint, allowReleaseInfoChange]
  split
  · rename_i hname
    rw [serve_write]
    simp [Plugin.effect, Plugin.requires, hname, PluginFile.put]
  · rename_i hname
    simp [Plugin.effect, Plugin.requires, hname]

/-- The plugin for the updates proxy has its effect. -/
theorem computes_updatesproxyFix : Computes programs kicksecureKey osData .updatesproxyFix := by
  intro s m
  rw [Plugin.entrypoint, updatesproxyFix]
  by_cases hfamily : osData.osFamily = "RedHat"
  · rw [if_pos hfamily, serve_bind, serve_pathExists]
    cases hm : m .updatesproxyFix with
    | none => simp [Plugin.effect, proxyEffect, Plugin.requires, PluginFile.content, hm]
    | some content =>
        by_cases hbroken : Backports.contains (String.ofList content) brokenProxy = true
        · simp [Plugin.effect, proxyEffect, Plugin.requires, PluginFile.content, PluginFile.put,
            serve_bind, serve_read, serve_write, hm, hfamily, hbroken]
        · simp [Plugin.effect, proxyEffect, Plugin.requires, PluginFile.content, serve_bind,
            serve_read, hm, hbroken]
  · rw [if_neg hfamily]
    cases hm : m .updatesproxyFix with
    | none => simp [Plugin.effect, proxyEffect, Plugin.requires, hm]
    | some content => simp [Plugin.effect, proxyEffect, Plugin.requires, hfamily, hm]

/-- The plugin for the key of Whonix has its effect. -/
theorem computes_whonix17Key : Computes programs kicksecureKey osData .whonix17Key := by
  intro s m
  rw [Plugin.entrypoint, whonix17Key]
  by_cases hname : osData.codename = some (.str "bookworm")
  · rw [if_neg (by simp [hname]), serve_bind, serve_pathExists]
    cases hm : m .whonix17Key with
    | none => simp [Plugin.effect, keyringEffect, Plugin.requires, PluginFile.content, hm]
    | some content =>
        cases hlisting : programs.gpgListing (some content) with
        | error exc =>
            simp [Plugin.effect, keyringEffect, Plugin.requires, PluginFile.content, Programs.run,
              serve_bind, serve_run .gpgListing, hm, hname, hlisting]
        | ok keyInfo =>
            by_cases hexpired : listsExpired keyInfo = true
            · simp [Plugin.effect, keyringEffect, Plugin.requires, PluginFile.content, PluginFile.put,
                Programs.run, serve_bind, serve_run .gpgListing, serve_write, hm, hname, hlisting, hexpired]
            · simp [Plugin.effect, keyringEffect, Plugin.requires, PluginFile.content, Programs.run,
                serve_bind, serve_run .gpgListing, hm, hname, hlisting, hexpired]
  · rw [if_pos hname]
    simp [Plugin.effect, keyringEffect, Plugin.requires, hname]

/-- The plugin for pipewire has its effect. -/
theorem computes_pipewireArchlinux : Computes programs kicksecureKey osData .pipewireArchlinux := by
  intro s m
  rw [Plugin.entrypoint, pipewireArchlinux]
  by_cases hfamily : osData.osFamily = "ArchLinux"
  · rw [if_neg (by simp [hfamily]), serve_bind, serve_run]
    cases hm : m .pipewireArchlinux with
    | false => simp [Plugin.effect, pulseaudioEffect, Plugin.requires, Programs.run]
    | true =>
        cases hupdates : programs.updates true with
        | error exc =>
            simp [Plugin.effect, pulseaudioEffect, Plugin.requires, Programs.run, serve_bind,
              serve_run .pacmanUpdates, hfamily, hupdates]
        | ok updateList =>
            by_cases hlisted : listsPipewire updateList = true
            · cases hremove : programs.pacmanRemove with
              | error exc =>
                  simp [Plugin.effect, pulseaudioEffect, Plugin.requires, Programs.run, serve_bind,
                    serve_run .pacmanUpdates, serve_run .pacmanRemove, hfamily, hupdates, hlisted, hremove]
              | ok done =>
                  simp [Plugin.effect, pulseaudioEffect, Plugin.requires, Programs.run, serve_bind,
                    serve_run .pacmanUpdates, serve_run .pacmanRemove, hfamily, hupdates, hlisted, hremove]
            · simp [Plugin.effect, pulseaudioEffect, Plugin.requires, Programs.run, serve_bind,
                serve_run .pacmanUpdates, hfamily, hupdates, hlisted]
  · rw [if_pos hfamily]
    simp [Plugin.effect, pulseaudioEffect, Plugin.requires, hfamily]

/-- The plugin for `deltarpm` has its effect. -/
theorem computes_disableDeltarpm : Computes programs kicksecureKey osData .disableDeltarpm := by
  intro s m
  rw [Plugin.entrypoint, disableDeltarpm]
  by_cases hfamily : osData.osFamily = "RedHat"
  · rw [if_pos hfamily, serve_bind, serve_read]
    cases hm : m .disableDeltarpm with
    | none => simp [Plugin.effect, deltarpmEffect, Plugin.requires, PluginFile.content, hfamily, hm]
    | some content =>
        cases hlines : Deltarpm.disableIn (fileLines content) with
        | none =>
            simp [Plugin.effect, deltarpmEffect, Plugin.requires, PluginFile.content, hfamily, hm, hlines]
        | some lines =>
            simp [Plugin.effect, deltarpmEffect, Plugin.requires, PluginFile.content, PluginFile.put,
              serve_write, hfamily, hlines]
  · rw [if_neg hfamily]
    simp [Plugin.effect, deltarpmEffect, Plugin.requires, hfamily]

/-- The plugin for the macros of RPM has its effect. -/
theorem computes_manageRpmMacro : Computes programs kicksecureKey osData .manageRpmMacro := by
  intro s m
  rw [Plugin.entrypoint, manageRpmMacro]
  by_cases hfamily : osData.osFamily = "RedHat"
  · rw [if_pos hfamily]
    by_cases hid : osData.id = "fedora"
    · rw [if_pos hid]
      rcases hrelease : osData.release with _ | (release | _)
      · simp [Plugin.effect, macroEffect, Plugin.requires, hfamily, hid, hrelease]
      · by_cases hold : fedoraVersion release < 33
        · simp [Plugin.effect, macroEffect, Plugin.requires, PluginFile.put, serve_write, hfamily, hid,
            hrelease, hold]
        · simp [Plugin.effect, macroEffect, Plugin.requires, hfamily, hid, hrelease, hold]
      · simp [Plugin.effect, macroEffect, Plugin.requires, hfamily, hid, hrelease]
    · rw [if_neg hid, serve_bind, serve_pathExists]
      cases hm : m .manageRpmMacro with
      | none =>
          simp [Plugin.effect, macroEffect, Plugin.requires, PluginFile.content, hfamily, hid, hm]
      | some content =>
          simp [Plugin.effect, macroEffect, Plugin.requires, PluginFile.content, PluginFile.put, serve_bind,
            serve_ask, environment, hfamily, hid]
  · rw [if_neg hfamily]
    simp [Plugin.effect, macroEffect, Plugin.requires, hfamily]

/-- A package is looked up. -/
theorem serve_checkPackage (package : Backports.Package) :
    serve (environment programs) (checkPackageNotFromBackports package) s m
      = (((optional (programs.dpkgList package)).map Backports.checkPackageNotFromBackports, s), m) := by
  rw [checkPackageNotFromBackports, serve_bind, serve_unlessFailed]
  have hrun : programs.run (.dpkgList package) (m .bookwormBackports)
      = (programs.dpkgList package, m .bookwormBackports) := rfl
  rw [hrun]
  cases hlisting : optional (programs.dpkgList package) with
  | error exc => simp [Except.map]
  | ok output => simp [Except.map]

/-- The list of backports is written if there is none. -/
theorem serve_addBackportsRepo : serve (environment programs) addBackportsRepo s m
    = ((.ok (), s), Function.update m .bookwormBackports { m .bookwormBackports with
        sources := (m .bookwormBackports).sources <|>
          (Backports.addBackportsRepo (programs.uris (m .bookwormBackports).sources) none).map
            String.toList }) := by
  have hrun : serve (environment programs) (unlessFailed .aptUris) s m
      = ((.ok (programs.uris (m .bookwormBackports).sources), s), m) := by
    rw [serve_unlessFailed, Programs.run]
    cases programs.uris (m .bookwormBackports).sources with
    | none => simp [optional]
    | some uris => simp [optional]
  rw [addBackportsRepo, serve_bind, hrun]
  dsimp only
  cases htext : Backports.addBackportsRepo (programs.uris (m .bookwormBackports).sources) none with
  | none => simp
  | some text =>
      dsimp only
      rw [serve_bind, serve_pathExists]
      cases hsources : (m .bookwormBackports).sources with
      | none => simp [PluginFile.content, PluginFile.put, serve_write, hsources]
      | some content =>
          have hlists : ({ m .bookwormBackports with sources := some content } : AptLists)
              = m .bookwormBackports := by
            rw [← hsources]
          simp [PluginFile.content, hsources, hlists]

/-- The plugin for the backports has its effect. -/
theorem computes_bookwormBackports : Computes programs kicksecureKey osData .bookwormBackports := by
  intro s m
  rw [Plugin.entrypoint, bookwormBackports]
  by_cases hname : osData.codename = some (.str "bookworm")
  · rw [if_pos hname, serve_bind, serve_checkPackage]
    cases hfirmware : optional (programs.dpkgList .firmware) with
    | error exc => simp [Plugin.effect, backportsEffect, Plugin.requires, Except.map, hname, hfirmware]
    | ok firmware =>
        dsimp only [Except.map]
        rw [serve_bind, serve_checkPackage]
        cases hpipewire : optional (programs.dpkgList .pipewire) with
        | error exc =>
            simp [Plugin.effect, backportsEffect, Plugin.requires, Except.map, hname, hfirmware, hpipewire]
        | ok pipewire =>
            dsimp only [Except.map]
            split
            · rename_i hnone
              simp [Plugin.effect, backportsEffect, Plugin.requires, hname, hfirmware, hpipewire, hnone]
            · rename_i hsome
              rw [serve_bind, serve_addBackportsRepo]
              dsimp only
              rw [serve_bind, serve_pathExists]
              cases hprefs : (m .bookwormBackports).prefs with
              | none =>
                  simp [Plugin.effect, backportsEffect, Plugin.requires, PluginFile.content,
                    PluginFile.put, serve_write, hname, hfirmware, hpipewire, hsome, hprefs]
              | some text =>
                  simp [Plugin.effect, backportsEffect, Plugin.requires, PluginFile.content,
                    hname, hfirmware, hpipewire, hsome, hprefs]
  · rw [if_neg hname]
    simp [Plugin.effect, backportsEffect, Plugin.requires, hname]

/-- What follows the end of the enforcement. -/
theorem serve_setenforce_bind {α : Type} {x : PluginM α} :
    serve (environment programs) (unlessFailed .setenforce >>= fun _ => x) s m =
      match permissiveEffect programs (m .fixMeminfoWriterLabel) with
      | (.error exc, labelling) =>
          ((.error exc, s), Function.update m .fixMeminfoWriterLabel labelling)
      | (.ok (), labelling) =>
          serve (environment programs) x s (Function.update m .fixMeminfoWriterLabel labelling) := by
  rw [serve_bind, serve_unlessFailed, permissiveEffect]
  cases hpermissive : programs.setenforce with
  | ok done => simp [Programs.run, hpermissive, optional]
  | error exc =>
      by_cases hexc : exc = .calledProcessError
      · simp [Programs.run, hpermissive, optional, hexc]
      · simp [Programs.run, hpermissive, optional, hexc]

/-- `meminfo-writer` is told about its label. -/
theorem serve_signalWriter : serve (environment programs) signalWriter s m
    = ((signalEffect programs (m .fixMeminfoWriterLabel), s), m) := by
  rw [signalWriter, serve_tryCatch, serve_bind, serve_read]
  have hcontent : PluginFile.pidFile.content (m .fixMeminfoWriterLabel)
      = (m .fixMeminfoWriterLabel).pidFile := rfl
  rw [hcontent, signalEffect]
  cases (m .fixMeminfoWriterLabel).pidFile with
  | none => simp
  | some text =>
      dsimp only
      cases PyFloat.intOfText? (String.ofList text) with
      | none => simp
      | some pid =>
          dsimp only
          rw [serve_ask]
          cases hkill : programs.kill pid with
          | ok done => simp [environment, hkill]
          | error exc =>
              by_cases hexc : exc = .osError ∨ exc = .valueError
              · simp [environment, hkill, hexc]
              · simp [environment, hkill, hexc]

/-- The guarded part, and what follows it. -/
theorem serve_relabel (hid : osData.id = "fedora")
    (hselinux : (m .fixMeminfoWriterLabel).selinuxenabled.isSome = true) (path : String) :
    serve (environment programs) (relabel path >>= fun labelChanged =>
        if labelChanged then signalWriter else pure ()) s m
      = (((labelEffect programs osData (m .fixMeminfoWriterLabel)).1, s), Function.update m
          .fixMeminfoWriterLabel (labelEffect programs osData (m .fixMeminfoWriterLabel)).2) := by
  rw [labelEffect, if_pos ⟨hid, hselinux⟩, relabel, bind_assoc, serve_bind, serve_unlessFailed]
  have hrun : programs.run .selinuxenabled (m .fixMeminfoWriterLabel)
      = (programs.selinuxenabled, m .fixMeminfoWriterLabel) := rfl
  rw [hrun, Function.update_eq_self]
  cases henabled : optional programs.selinuxenabled with
  | error exc => simp
  | ok enabled =>
      dsimp only
      by_cases hcode : enabled = some 0
      · rw [if_pos hcode, if_pos hcode, bind_assoc, serve_bind, serve_unlessFailed]
        have hlist : programs.run (.listLabel path) (m .fixMeminfoWriterLabel)
            = ((m .fixMeminfoWriterLabel).listing, m .fixMeminfoWriterLabel) := rfl
        rw [hlist, Function.update_eq_self]
        cases hlisting : optional (m .fixMeminfoWriterLabel).listing with
        | error exc => simp
        | ok output =>
            cases output with
            | none => simp
            | some output =>
                dsimp only
                by_cases hexpected : Backports.contains output expectedLabel = true
                · rw [if_pos hexpected, if_pos hexpected, pure_bind, bind_assoc, serve_setenforce_bind]
                  rcases permissiveEffect programs (m .fixMeminfoWriterLabel) with ⟨_ | _, labelling⟩
                  · rfl
                  · simp [hexpected]
                · rw [if_neg hexpected, if_neg hexpected, bind_assoc, serve_bind, serve_unlessFailed]
                  cases hchcon : programs.chcon with
                  | error exc =>
                      by_cases hexc : exc = .calledProcessError
                      · simp [Programs.run, hchcon, hexc, optional]
                      · simp [Programs.run, hchcon, hexc, optional]
                  | ok listing =>
                      simp only [Programs.run, hchcon, optional]
                      rw [bind_assoc, serve_setenforce_bind, Function.update_self]
                      rcases permissiveEffect programs _ with ⟨_ | _, labelling⟩
                      · simp
                      · simp [hexpected, serve_signalWriter]
      · rw [if_neg hcode, if_neg hcode]
        simp

/-- The plugin for the label of the meminfo writer has its effect. -/
theorem computes_fixMeminfoWriterLabel : Computes programs kicksecureKey osData .fixMeminfoWriterLabel := by
  intro s m
  rw [Plugin.entrypoint, fixMeminfoWriterLabel]
  by_cases hid : osData.id = "fedora"
  · rw [if_pos hid, serve_bind, serve_pathExists]
    cases hselinux : (m .fixMeminfoWriterLabel).selinuxenabled with
    | none =>
        simp [Plugin.effect, labelEffect, Plugin.requires, PluginFile.content, hselinux]
    | some content =>
        simp only [PluginFile.content, hselinux, Option.isSome_some, if_true]
        rw [serve_bind, serve_pathExists]
        dsimp only
        rw [serve_relabel hid (by rw [hselinux]; rfl)]
        simp [Plugin.effect, Plugin.requires]
  · rw [if_neg hid]
    simp [Plugin.effect, labelEffect, Plugin.requires, hid]

/-- Each plugin does what its effect says. -/
theorem computes_entrypoint (plugin : Plugin) : Computes programs kicksecureKey osData plugin := by
  cases plugin with
  | allowReleaseInfoChange => exact computes_allowReleaseInfoChange
  | bookwormBackports => exact computes_bookwormBackports
  | disableDeltarpm => exact computes_disableDeltarpm
  | fixMeminfoWriterLabel => exact computes_fixMeminfoWriterLabel
  | manageRpmMacro => exact computes_manageRpmMacro
  | pipewireArchlinux => exact computes_pipewireArchlinux
  | updatesproxyFix => exact computes_updatesproxyFix
  | whonix17Key => exact computes_whonix17Key

/-! ## Effects that are applied twice -/

variable (programs kicksecureKey osData) in
/-- Once a plugin has returned, its effect has nothing left to do. -/
def Settles (plugin : Plugin) (state : PluginState plugin) : Prop :=
  (plugin.effect programs kicksecureKey osData state).1 = .ok () →
    plugin.effect programs kicksecureKey osData (plugin.effect programs kicksecureKey osData state).2
      = (.ok (), (plugin.effect programs kicksecureKey osData state).2)

/-- A plugin whose effect settles can be repeated. -/
theorem repeats_of_settles {plugin : Plugin}
    (h : Settles programs kicksecureKey osData plugin (m plugin)) :
    Repeats (environment programs) (Plugin.entrypoint kicksecureKey osData) plugin m := by
  intro s s' m' hserve
  rw [computes_entrypoint plugin s m] at hserve
  simp only [Prod.mk.injEq] at hserve
  obtain ⟨⟨hok, rfl⟩, rfl⟩ := hserve
  rw [computes_entrypoint plugin, Function.update_self, h hok, Function.update_idem]

/-- The configuration of APT is always written in the same way. -/
theorem settles_allowReleaseInfoChange (aptConf : Option (List Char)) :
    Settles programs kicksecureKey osData .allowReleaseInfoChange aptConf := by
  intro _
  by_cases hname : osData.codename = some (.str "buster")
  · simp [Plugin.effect, hname]
  · simp [Plugin.effect, hname]

/-- Lists and pins that are there are left alone. -/
theorem settles_bookwormBackports (lists : AptLists) :
    Settles programs kicksecureKey osData .bookwormBackports lists := by
  intro hok
  obtain ⟨sources, prefs⟩ := lists
  by_cases hname : osData.codename = some (.str "bookworm")
  · simp only [Plugin.effect, backportsEffect, if_pos hname] at hok ⊢
    cases hfirmware : optional (programs.dpkgList .firmware) with
    | error exc => simp [hfirmware] at hok
    | ok firmware =>
        cases hpipewire : optional (programs.dpkgList .pipewire) with
        | error exc => simp [hfirmware, hpipewire] at hok
        | ok pipewire =>
            simp only [hfirmware, hpipewire] at hok ⊢
            split at hok
            · rename_i hnone
              simp [hnone]
            · rename_i hsome
              simp only [if_neg hsome]
              cases sources with
              | none =>
                  cases htext : Backports.addBackportsRepo (programs.uris none) none with
                  | none => simp [htext]
                  | some text => simp
              | some content => simp
  · simp [Plugin.effect, backportsEffect, hname]

/-- The macros of RPM are written or removed for good. -/
theorem settles_manageRpmMacro (rpmMacro : Option (List Char)) :
    Settles programs kicksecureKey osData .manageRpmMacro rpmMacro := by
  simp only [Settles, Plugin.effect, macroEffect]
  split
  · split
    · rcases osData.release with _ | (release | _)
      · exact fun h => by cases h
      · by_cases hold : fedoraVersion release < 33
        · simp [hold]
        · simp [hold]
      · exact fun h => by cases h
    · simp
  · simp

/-- Pulseaudio is removed once. -/
theorem settles_pipewireArchlinux (installed : Bool) :
    Settles programs kicksecureKey osData .pipewireArchlinux installed := by
  intro hok
  by_cases hinstalled : osData.osFamily = "ArchLinux" ∧ installed = true
  · simp only [Plugin.effect, pulseaudioEffect, if_pos hinstalled] at hok ⊢
    cases hupdates : programs.updates true with
    | error exc => simp [hupdates] at hok
    | ok updateList =>
        simp only [hupdates] at hok ⊢
        by_cases hlisted : listsPipewire updateList = true
        · cases hremove : programs.pacmanRemove with
          | error exc => simp [hlisted, hremove] at hok
          | ok done => simp [hlisted]
        · simp [hlisted, hinstalled.1]
  · simp only [Plugin.effect, pulseaudioEffect, if_neg hinstalled]

/-- The new proxy is not the broken one. -/
theorem settles_updatesproxyFix (updatesProxy : Option (List Char)) :
    Settles programs kicksecureKey osData .updatesproxyFix updatesProxy := by
  have hfixed : Backports.contains (String.ofList updatesProxyText) brokenProxy = false := by
    decide +kernel
  intro _
  cases updatesProxy with
  | none => rfl
  | some content =>
      by_cases hbroken : osData.osFamily = "RedHat"
          ∧ Backports.contains (String.ofList content) brokenProxy = true
      · simp [Plugin.effect, proxyEffect, hbroken, hfixed]
      · simp only [Plugin.effect, proxyEffect, if_neg hbroken]

/-- The new key replaces itself, if at all. -/
theorem settles_whonix17Key (hkey : ∃ keyInfo, programs.gpgListing (some kicksecureKey) = .ok keyInfo)
    (keyring : Option (List Char)) : Settles programs kicksecureKey osData .whonix17Key keyring := by
  obtain ⟨keyInfo, hkey⟩ := hkey
  intro hok
  by_cases hpresent : osData.codename = some (.str "bookworm") ∧ keyring.isSome = true
  · simp only [Plugin.effect, keyringEffect, if_pos hpresent] at hok ⊢
    cases hlisting : programs.gpgListing keyring with
    | error exc => simp [hlisting] at hok
    | ok oldInfo =>
        by_cases hexpired : listsExpired oldInfo = true
        · simp [hexpired, hpresent.1, hkey]
        · simp [hexpired, hpresent, hlisting]
  · simp only [Plugin.effect, keyringEffect, if_neg hpresent]

/-- The end of the enforcement concerns nothing else, and is final. -/
theorem permissiveEffect_ok {labelling labelling' : Labelling}
    (h : permissiveEffect programs labelling = (.ok (), labelling')) :
    labelling'.selinuxenabled = labelling.selinuxenabled ∧ labelling'.listing = labelling.listing
      ∧ permissiveEffect programs labelling' = (.ok (), labelling') := by
  rw [permissiveEffect] at h ⊢
  cases hpermissive : programs.setenforce with
  | ok done =>
      simp only [hpermissive, Prod.mk.injEq, true_and] at h ⊢
      subst h
      exact ⟨rfl, rfl, rfl⟩
  | error exc =>
      simp only [hpermissive, Prod.mk.injEq, and_true] at h ⊢
      obtain ⟨hexc, rfl⟩ := h
      exact ⟨rfl, rfl, hexc⟩

/-- With the right label, only the enforcement is ended. -/
theorem labelEffect_of_expected {labelling : Labelling} {output : String} (hid : osData.id = "fedora")
    (hselinux : labelling.selinuxenabled.isSome = true)
    (henabled : optional programs.selinuxenabled = .ok (some 0)) (hlisting : labelling.listing = .ok output)
    (hexpected : Backports.contains output expectedLabel = true) :
    labelEffect programs osData labelling = permissiveEffect programs labelling := by
  rw [labelEffect, if_pos ⟨hid, hselinux⟩, henabled, hlisting]
  dsimp only [optional]
  rw [if_pos rfl, if_pos hexpected]

/-- A label that has been changed is not changed again. -/
theorem settles_fixMeminfoWriterLabel (labelling : Labelling) :
    Settles programs kicksecureKey osData .fixMeminfoWriterLabel labelling := by
  intro hok
  simp only [Plugin.effect] at hok ⊢
  -- where nothing has been changed, there is nothing to show
  have hkept : (labelEffect programs osData labelling).2 = labelling →
      labelEffect programs osData (labelEffect programs osData labelling).2
        = (.ok (), (labelEffect programs osData labelling).2) := by
    intro hsame
    rw [hsame]
    exact Prod.ext hok hsame
  by_cases hfedora : osData.id = "fedora" ∧ labelling.selinuxenabled.isSome = true
  swap
  · exact hkept (by rw [labelEffect, if_neg hfedora])
  cases henabled : optional programs.selinuxenabled with
  | error exc => exact hkept (by rw [labelEffect, if_pos hfedora, henabled])
  | ok enabled =>
      by_cases hcode : enabled = some 0
      swap
      · exact hkept (by rw [labelEffect, if_pos hfedora, henabled]; simp [hcode])
      subst hcode
      cases hlisting : labelling.listing with
      | error exc =>
          refine hkept ?_
          rw [labelEffect, if_pos hfedora, henabled, hlisting]
          by_cases hexc : exc = .calledProcessError
          · simp [optional, hexc]
          · simp [optional, hexc]
      | ok output =>
          have heffect : labelEffect programs osData labelling
              = if Backports.contains output expectedLabel then permissiveEffect programs labelling
                else
                  match programs.chcon with
                  | .error exc => (if exc = .calledProcessError then .ok () else .error exc, labelling)
                  | .ok listing =>
                      match permissiveEffect programs { labelling with listing := .ok listing } with
                      | (.error exc, labelling) => (.error exc, labelling)
                      | (.ok (), labelling) => (signalEffect programs labelling, labelling) := by
            rw [labelEffect, if_pos hfedora, henabled, hlisting]
            rfl
          -- what follows the end of the enforcement, if the label is right by then
          have hlast : ∀ {old new : Labelling} {output : String}, old.selinuxenabled.isSome = true →
              old.listing = .ok output → Backports.contains output expectedLabel = true →
              permissiveEffect programs old = (.ok (), new) →
              labelEffect programs osData new = (.ok (), new) := by
            intro old new output hselinux hlisting hexpected hpermissive
            obtain ⟨hsame, hlist, hagain⟩ := permissiveEffect_ok hpermissive
            rw [labelEffect_of_expected hfedora.1 (by rw [hsame]; exact hselinux) henabled
              (hlist.trans hlisting) hexpected]
            exact hagain
          by_cases hexpected : Backports.contains output expectedLabel = true
          · rw [heffect, if_pos hexpected] at hok ⊢
            exact hlast hfedora.2 hlisting hexpected (Prod.ext hok rfl)
          · rw [heffect, if_neg hexpected] at hok hkept ⊢
            cases hchcon : programs.chcon with
            | error exc =>
                rw [hchcon] at hkept
                exact hkept rfl
            | ok listing =>
                rw [hchcon] at hok
                dsimp only at hok ⊢
                cases hpermissive : permissiveEffect programs { labelling with listing := .ok listing } with
                | mk outcome new =>
                    rw [hpermissive] at hok
                    cases outcome with
                    | error exc => cases hok
                    | ok done =>
                        exact @hlast { labelling with listing := .ok listing } new listing hfedora.2 rfl
                          (programs.chcon_listed _ hchcon) hpermissive

/-! ## The markers of `dnf.conf` -/

/-- The part of Qubes begins before it ends. -/
def Ordered (content : List Char) : Prop :=
  (fileLines content).idxOf Deltarpm.beginMarker < (fileLines content).idxOf Deltarpm.endMarker

instance (content : List Char) : Decidable (Ordered content) :=
  inferInstanceAs (Decidable ((_ : Nat) < _))

/-- A file with both markers in their order. -/
theorem exists_block {lines : List (List Char)} (hend : Deltarpm.endMarker ∈ lines)
    (h : lines.idxOf Deltarpm.beginMarker < lines.idxOf Deltarpm.endMarker) :
    ∃ before block after, lines = before ++ Deltarpm.beginMarker :: (block ++ Deltarpm.endMarker :: after)
      ∧ Deltarpm.Marked before block := by
  obtain ⟨front, after, rfl, hfront⟩ := List.eq_append_cons_of_mem hend
  have hbegin : Deltarpm.beginMarker ∈ front := by
    by_contra hnot
    rw [List.idxOf_append_of_notMem hnot, List.idxOf_append_of_notMem hfront, List.idxOf_cons_self] at h
    omega
  obtain ⟨before, block, rfl, hbefore⟩ := List.eq_append_cons_of_mem hbegin
  rw [List.mem_append, List.mem_cons, not_or, not_or] at hfront
  exact ⟨before, block, after, by simp, ⟨hbefore, hfront.1⟩, hfront.2.2⟩

/-- With the markers in the wrong order, a line is put in front of the first one. -/
theorem disableIn_reversed {front after : List (List Char)}
    (hfront : Deltarpm.beginMarker ∉ front ∧ Deltarpm.endMarker ∉ front)
    (hafter : Deltarpm.beginMarker ∈ after) :
    Deltarpm.disableIn (front ++ Deltarpm.endMarker :: after)
      = some (front ++ Deltarpm.disablingLine :: Deltarpm.endMarker :: after) := by
  have hstop : (front ++ Deltarpm.endMarker :: after).idxOf Deltarpm.endMarker = front.length := by
    rw [List.idxOf_append_of_notMem hfront.2, List.idxOf_cons_self, Nat.add_zero]
  have hstart : front.length ≤ (front ++ Deltarpm.endMarker :: after).idxOf Deltarpm.beginMarker := by
    rw [List.idxOf_append_of_notMem hfront.1]
    exact Nat.le_add_right _ _
  have hslice : ((front ++ Deltarpm.endMarker :: after).take front.length).drop
      ((front ++ Deltarpm.endMarker :: after).idxOf Deltarpm.beginMarker) = [] := by
    rw [List.take_left, List.drop_eq_nil_iff]
    exact hstart
  rw [Deltarpm.disableIn, if_pos (by simp [hafter]), hstop]
  dsimp only
  rw [hslice]
  have hinsert : ∀ (first rest : List (List Char)) (line : List Char),
      (first ++ rest).insertIdx first.length line = first ++ line :: rest := by
    intro first rest line
    induction first with
    | nil => rfl
    | cons line' first ih => simp [ih]
  exact congrArg some (hinsert front (Deltarpm.endMarker :: after) _)

/-- The lines are read as they have been written. -/
theorem fileLines_reversed {content : List Char} {front after : List (List Char)}
    (hlines : fileLines content = front ++ Deltarpm.endMarker :: after) :
    fileLines (front ++ Deltarpm.disablingLine :: Deltarpm.endMarker :: after).flatten
      = front ++ Deltarpm.disablingLine :: Deltarpm.endMarker :: after := by
  have hnew : ∀ line ∈ front ++ [Deltarpm.disablingLine], IsLine line ∧ '\r' ∉ line := by
    intro line hin
    rcases List.mem_append.mp hin with hin | hin
    · exact ⟨isLine_of_mem_before hlines line hin,
        return_notMem_of_mem_fileLines (hlines ▸ List.mem_append_left _ hin)⟩
    · rw [List.mem_singleton.mp hin]
      exact Deltarpm.isLine_disablingLine
  have hread := fileLines_flatten hlines (fun line hin => (hnew line hin).1) fun line hin => (hnew line hin).2
  rwa [List.append_assoc, List.singleton_append] at hread

/-- A file with the markers in the wrong order. -/
structure Reversed (content : List Char) (front after : List (List Char)) : Prop where
  /-- The part of Qubes ends. -/
  lines : fileLines content = front ++ Deltarpm.endMarker :: after
  /-- It has not begun before. -/
  front : Deltarpm.beginMarker ∉ front ∧ Deltarpm.endMarker ∉ front
  /-- It begins after that. -/
  after : Deltarpm.beginMarker ∈ after

/-- The file has one line more, and its markers are still in the wrong order. -/
theorem Reversed.disable {content : List Char} {front after : List (List Char)}
    (h : Reversed content front after) :
    Deltarpm.disableIn (fileLines content)
        = some (front ++ Deltarpm.disablingLine :: Deltarpm.endMarker :: after) ∧
      Reversed (front ++ Deltarpm.disablingLine :: Deltarpm.endMarker :: after).flatten
        (front ++ [Deltarpm.disablingLine]) after := by
  constructor
  · rw [h.lines, disableIn_reversed h.front h.after]
  · refine ⟨?_, ?_, h.after⟩
    · rw [fileLines_reversed h.lines, List.append_assoc, List.singleton_append]
    · simp [h.front, Ne.symm Deltarpm.markers_ne.2.1, Ne.symm Deltarpm.markers_ne.2.2.1]

/-- A file with one line more is another file. -/
theorem flatten_ne {front rest : List (List Char)} {line : List Char} (hline : line ≠ []) :
    (front ++ line :: line :: rest).flatten ≠ (front ++ line :: rest).flatten := by
  intro heq
  have hlength := congrArg List.length heq
  have hpos := List.length_pos_iff.mpr hline
  simp only [List.flatten_append, List.flatten_cons, List.length_append] at hlength
  omega

/-- A file with both markers that are not in their order. -/
theorem exists_reversed {content : List Char} (hbegin : Deltarpm.beginMarker ∈ fileLines content)
    (hend : Deltarpm.endMarker ∈ fileLines content) (hordered : ¬ Ordered content) :
    ∃ front after, Reversed content front after := by
  obtain ⟨front, after, hlines, hfront⟩ := List.eq_append_cons_of_mem hend
  rw [Ordered, hlines, List.idxOf_append_of_notMem hfront, List.idxOf_cons_self] at hordered
  have hnot : Deltarpm.beginMarker ∉ front := by
    intro hin
    rw [List.idxOf_append_of_mem hin] at hordered
    have hlt := List.idxOf_lt_length_of_mem hin
    omega
  rw [hlines, List.mem_append, List.mem_cons] at hbegin
  exact ⟨front, after, hlines, ⟨hnot, hfront⟩, (hbegin.resolve_left hnot).resolve_left Deltarpm.markers_ne.1⟩

/-- The file that is changed has both markers. -/
theorem markers_mem {content : List Char} {lines : List (List Char)}
    (h : Deltarpm.disableIn (fileLines content) = some lines) :
    Deltarpm.beginMarker ∈ fileLines content ∧ Deltarpm.endMarker ∈ fileLines content := by
  by_contra hnot
  rw [Deltarpm.disableIn, if_neg hnot] at h
  cases h

/-- A second run writes what the first one has written exactly if the markers are in their order. -/
theorem settled_iff {content : List Char} {lines : List (List Char)}
    (h : Deltarpm.disableIn (fileLines content) = some lines) :
    (Deltarpm.disableIn (fileLines lines.flatten)).map List.flatten = some lines.flatten
      ↔ Ordered content := by
  have hmem := markers_mem h
  by_cases hordered : Ordered content
  · refine iff_of_true ?_ hordered
    obtain ⟨before, block, after, hlines, hmarked⟩ := exists_block hmem.2 hordered
    have hfamily : Deltarpm.fedora.osFamily = "RedHat" := rfl
    obtain ⟨earlier, later, hearlier, hblock, hrun⟩ :=
      Deltarpm.disableDeltarpm_written hfamily hlines hmarked
    rw [Deltarpm.disableDeltarpm, if_pos hfamily, h] at hrun
    rw [Option.some.inj hrun, Deltarpm.fileLines_written hlines hblock,
      Deltarpm.disableIn_replace (Deltarpm.marked_written hmarked hblock) hearlier
        Deltarpm.beginsWithKey_disablingLine]
    rfl
  · refine iff_of_false ?_ hordered
    obtain ⟨front, after, hreversed⟩ := exists_reversed hmem.1 hmem.2 hordered
    obtain ⟨hwritten, hagain⟩ := hreversed.disable
    rw [hwritten, Option.some.injEq] at h
    rw [← h, hagain.disable.1, Option.map_some, Option.some.injEq, List.append_assoc, List.singleton_append]
    exact flatten_ne (by decide +kernel)

/-- On systems like Fedora, `deltarpm` is disabled exactly between the markers of an existing file. -/
theorem deltarpmEffect_eq_ok_iff (hfamily : osData.osFamily = "RedHat")
    {dnfConf dnfConf' : Option (List Char)} : deltarpmEffect osData dnfConf = (.ok (), dnfConf') ↔
      ∃ content lines, dnfConf = some content ∧ Deltarpm.disableIn (fileLines content) = some lines
        ∧ dnfConf' = some lines.flatten := by
  unfold deltarpmEffect
  rw [if_pos hfamily]
  cases dnfConf with
  | none => simp
  | some content =>
      cases hlines : Deltarpm.disableIn (fileLines content) with
      | none => simp [hlines]
      | some lines => simp [hlines, eq_comm]

/-- With the markers in their order, the line that is added is found by the next run. -/
theorem settles_disableDeltarpm {dnfConf : Option (List Char)}
    (h : osData.osFamily = "RedHat" → ∀ content, dnfConf = some content → Ordered content) :
    Settles programs kicksecureKey osData .disableDeltarpm dnfConf := by
  intro hok
  by_cases hfamily : osData.osFamily = "RedHat"
  · have heffect : deltarpmEffect osData dnfConf = (.ok (), (deltarpmEffect osData dnfConf).2) :=
      Prod.ext hok rfl
    obtain ⟨content, lines, hcontent, hlines, hwritten⟩ := (deltarpmEffect_eq_ok_iff hfamily).mp heffect
    have hagain := (settled_iff hlines).mpr (h hfamily content hcontent)
    obtain ⟨lines', hlines', hflat⟩ := Option.map_eq_some_iff.mp hagain
    refine (deltarpmEffect_eq_ok_iff hfamily).mpr ⟨lines.flatten, lines', hwritten, hlines', ?_⟩
    rw [hflat]
    exact hwritten
  · simp only [Plugin.effect, deltarpmEffect, if_neg hfamily]

/-- All plugins but this one have nothing left to do. -/
theorem settles_of_ne (hkey : ∃ keyInfo, programs.gpgListing (some kicksecureKey) = .ok keyInfo)
    {plugin : Plugin} (hplugin : plugin ≠ .disableDeltarpm) (state : PluginState plugin) :
    Settles programs kicksecureKey osData plugin state := by
  cases plugin with
  | allowReleaseInfoChange => exact settles_allowReleaseInfoChange _
  | bookwormBackports => exact settles_bookwormBackports _
  | disableDeltarpm => exact absurd rfl hplugin
  | fixMeminfoWriterLabel => exact settles_fixMeminfoWriterLabel _
  | manageRpmMacro => exact settles_manageRpmMacro _
  | pipewireArchlinux => exact settles_pipewireArchlinux _
  | updatesproxyFix => exact settles_updatesproxyFix _
  | whonix17Key => exact settles_whonix17Key hkey _

/-! ## All plugins -/

/-- What a run of all plugins makes of the parts of the system. -/
theorem effect_of_runPlugins (plugin : Plugin)
    (h : serve (environment programs) (runPlugins kicksecureKey osData) s m = ((.ok (), s'), m')) :
    plugin.effect programs kicksecureKey osData (m plugin) = (.ok (), m' plugin) := by
  obtain ⟨s₁, s₂, m₁, hserve, hsame⟩ := serve_runAll_of_mem (fun plugin _ => about_entrypoint plugin)
    (by decide) (show plugin ∈ entrypoints by cases plugin <;> decide) h
  rw [computes_entrypoint plugin s₁ m] at hserve
  simp only [Prod.mk.injEq] at hserve
  obtain ⟨⟨hok, -⟩, rfl⟩ := hserve
  rw [Function.update_self] at hsame
  exact Prod.ext hok hsame

/-- The run returns if no plugin raises. -/
theorem returns_of_effects
    (h : ∀ plugin : Plugin, (plugin.effect programs kicksecureKey osData (m plugin)).1 = .ok ()) :
    ∃ s' m', serve (environment programs) (runPlugins kicksecureKey osData) s m = ((.ok (), s'), m') := by
  refine serve_runAll_returns (fun plugin _ => about_entrypoint plugin) (by decide) (fun plugin _ s => ?_) s
  exact ⟨_, _, (computes_entrypoint plugin s m).trans (by rw [h plugin])⟩

variable (programs kicksecureKey osData s) in
/-- The system after a number of runs of the plugins. -/
def afterRuns (m : (plugin : Plugin) → PluginState plugin) : Nat → (plugin : Plugin) → PluginState plugin
  | 0 => m
  | n + 1 => (serve (environment programs) (runPlugins kicksecureKey osData) s (afterRuns m n)).2

/-- A run of the plugins in the system that a first run has left, with the markers in the wrong order: it
adds a line in front of the first marker and changes nothing else. -/
theorem runPlugins_reversed (hfamily : osData.osFamily = "RedHat")
    (hothers : ∀ plugin : Plugin, plugin ≠ .disableDeltarpm →
      plugin.effect programs kicksecureKey osData (m plugin) = (.ok (), m plugin))
    {content : List Char} {front after : List (List Char)} (hcontent : m .disableDeltarpm = some content)
    (hreversed : Reversed content front after) :
    ∃ s' m', serve (environment programs) (runPlugins kicksecureKey osData) s m = ((.ok (), s'), m') ∧
      (∀ plugin, plugin ≠ .disableDeltarpm → m' plugin = m plugin) ∧ m' .disableDeltarpm =
        some (front ++ Deltarpm.disablingLine :: Deltarpm.endMarker :: after).flatten := by
  have hwrites : Plugin.effect programs kicksecureKey osData .disableDeltarpm (m .disableDeltarpm) =
      (.ok (), some (front ++ Deltarpm.disablingLine :: Deltarpm.endMarker :: after).flatten) :=
    (deltarpmEffect_eq_ok_iff hfamily).mpr ⟨content, _, hcontent, hreversed.disable.1, rfl⟩
  obtain ⟨s', m', hrun⟩ := @returns_of_effects programs kicksecureKey osData s m fun plugin => by
    by_cases hplugin : plugin = .disableDeltarpm
    · subst hplugin
      rw [hwrites]
    · rw [hothers plugin hplugin]
  refine ⟨s', m', hrun, fun plugin hplugin => ?_, ?_⟩
  · have hsame := effect_of_runPlugins plugin hrun
    rw [hothers plugin hplugin, Prod.mk.injEq] at hsame
    exact hsame.2.symm
  · have hnew := effect_of_runPlugins .disableDeltarpm hrun
    rw [hwrites, Prod.mk.injEq] at hnew
    exact hnew.2.symm

/-- With the markers in the wrong order, each run adds a line. -/
theorem afterRuns_reversed (hkey : ∃ keyInfo, programs.gpgListing (some kicksecureKey) = .ok keyInfo)
    (hfamily : osData.osFamily = "RedHat")
    (h : serve (environment programs) (runPlugins kicksecureKey osData) s m = ((.ok (), s'), m'))
    {content : List Char} {front after : List (List Char)} (hcontent : m .disableDeltarpm = some content)
    (hreversed : Reversed content front after) (n : Nat) :
    (∃ r, serve (environment programs) (runPlugins kicksecureKey osData) s
        (afterRuns programs kicksecureKey osData s m n)
        = ((.ok (), r), afterRuns programs kicksecureKey osData s m (n + 1))) ∧
      (∀ plugin, plugin ≠ .disableDeltarpm →
        afterRuns programs kicksecureKey osData s m (n + 1) plugin = m' plugin) ∧
      ∃ written, afterRuns programs kicksecureKey osData s m (n + 1) .disableDeltarpm = some written ∧
        written = (front ++ List.replicate (n + 1) Deltarpm.disablingLine
          ++ Deltarpm.endMarker :: after).flatten ∧
        Reversed written (front ++ List.replicate (n + 1) Deltarpm.disablingLine) after := by
  induction n with
  | zero =>
      have hfirst : afterRuns programs kicksecureKey osData s m 1 = m' := congrArg Prod.snd h
      have hfile := effect_of_runPlugins .disableDeltarpm h
      obtain ⟨content', lines, hcontent', hlines, hwritten⟩ := (deltarpmEffect_eq_ok_iff hfamily).mp hfile
      obtain rfl := Option.some.inj (hcontent.symm.trans hcontent')
      obtain ⟨hdisable, hagain⟩ := hreversed.disable
      rw [hdisable, Option.some.injEq] at hlines
      rw [hfirst]
      refine ⟨⟨s', h⟩, fun _ _ => rfl, _, hwritten, ?_, ?_⟩
      · rw [← hlines, List.replicate_one, List.append_assoc, List.singleton_append]
      · rw [← hlines]
        exact hagain
  | succ n ih =>
      obtain ⟨-, hothers, written, hfile, hwritten, hreversed⟩ := ih
      obtain ⟨r, next, hrun, hsame, hnext⟩ := @runPlugins_reversed programs kicksecureKey osData s
        (afterRuns programs kicksecureKey osData s m (n + 1)) hfamily (fun plugin hplugin => by
          have honce := effect_of_runPlugins plugin h
          have htwice := settles_of_ne hkey hplugin (m plugin) (congrArg Prod.fst honce)
          rw [honce] at htwice
          rw [hothers plugin hplugin]
          exact htwice) written _ after hfile hreversed
      have hafter : afterRuns programs kicksecureKey osData s m (n + 1 + 1) = next :=
        congrArg Prod.snd hrun
      have hlines : front ++ List.replicate (n + 1) Deltarpm.disablingLine ++ [Deltarpm.disablingLine] =
          front ++ List.replicate (n + 1 + 1) Deltarpm.disablingLine := by
        rw [List.append_assoc, ← List.replicate_succ']
      have hagain := hreversed.disable.2
      rw [← hlines, hafter]
      refine ⟨⟨r, hrun⟩, fun plugin hplugin => ?_, _, hnext, ?_, hagain⟩
      · rw [hsame plugin hplugin, hothers plugin hplugin]
      · rw [List.append_assoc _ [Deltarpm.disablingLine], List.singleton_append]

/-- After plugins that did not raise, a second run changes nothing and requires the same, unless this is a
system like Fedora with the markers in the wrong order: there every run returns and adds one line to
`dnf.conf`. -/
theorem plugins_again_iff (hkey : ∃ keyInfo, programs.gpgListing (some kicksecureKey) = .ok keyInfo)
    (h : serve (environment programs) (runPlugins kicksecureKey osData) s m = ((.ok (), s'), m')) :
    (serve (environment programs) (runPlugins kicksecureKey osData) s m' = ((.ok (), s'), m')
      ↔ (osData.osFamily = "RedHat" → ∀ content, m .disableDeltarpm = some content → Ordered content)) ∧
    (osData.osFamily = "RedHat" → ∀ content, m .disableDeltarpm = some content → ¬ Ordered content →
      ∃ front rest, fileLines content = front ++ rest ∧ ∀ n,
        (serve (environment programs) (runPlugins kicksecureKey osData) s
          (afterRuns programs kicksecureKey osData s m n)).1.1 = .ok () ∧
        (∀ plugin, plugin ≠ .disableDeltarpm →
          afterRuns programs kicksecureKey osData s m (n + 1) plugin = m' plugin) ∧
        afterRuns programs kicksecureKey osData s m (n + 1) .disableDeltarpm =
          some (front ++ List.replicate (n + 1) Deltarpm.disablingLine ++ rest).flatten) := by
  refine ⟨⟨?_, ?_⟩, ?_⟩
  · intro hagain hfamily content hcontent
    obtain ⟨content₁, lines, hcontent₁, hlines, hwritten⟩ :=
      (deltarpmEffect_eq_ok_iff hfamily).mp (effect_of_runPlugins .disableDeltarpm h)
    obtain ⟨content₂, lines', hcontent₂, hlines', hagain⟩ :=
      (deltarpmEffect_eq_ok_iff hfamily).mp (effect_of_runPlugins .disableDeltarpm hagain)
    obtain rfl := Option.some.inj (hcontent.symm.trans hcontent₁)
    obtain rfl := Option.some.inj (hcontent₂.symm.trans hwritten)
    refine (settled_iff hlines).mp ?_
    rw [hlines', Option.map_some, ← hagain, hcontent₂]
  · intro hordered
    refine serve_runAll_again (fun plugin _ => about_entrypoint plugin) (by decide) (fun plugin _ => ?_) h
    refine repeats_of_settles ?_
    by_cases hplugin : plugin = .disableDeltarpm
    · subst hplugin
      exact settles_disableDeltarpm hordered
    · exact settles_of_ne hkey hplugin _
  · intro hfamily content hcontent hordered
    obtain ⟨content', lines, hcontent', hlines, -⟩ :=
      (deltarpmEffect_eq_ok_iff hfamily).mp (effect_of_runPlugins .disableDeltarpm h)
    obtain rfl := Option.some.inj (hcontent.symm.trans hcontent')
    obtain ⟨hbegin, hend⟩ := markers_mem hlines
    obtain ⟨front, after, hreversed⟩ := exists_reversed hbegin hend hordered
    refine ⟨front, Deltarpm.endMarker :: after, hreversed.lines, fun n => ?_⟩
    obtain ⟨⟨r, hrun⟩, hothers, written, hfile, hwritten, -⟩ :=
      afterRuns_reversed hkey hfamily h hcontent hreversed n
    refine ⟨congrArg (·.1.1) hrun, hothers, ?_⟩
    rw [hfile, hwritten]

end Served

/-- A label that is not the expected one, and the expected one. -/
def listings : String × String :=
  ("system_u:object_r:bin_t:s0 /usr/sbin/meminfo-writer\n",
    "system_u:object_r:qubes_meminfo_writer_exec_t:s0 /usr/sbin/meminfo-writer\n")

/-- After the first run, the label that is listed is the expected one. -/
theorem listings_expected (listing : String)
    (h : (Except.ok listings.2 : Except PluginError String) = .ok listing) :
    Backports.contains listing expectedLabel = true := by
  obtain rfl := Except.ok.inj h
  decide +kernel

/-- The programs of a Fedora template. -/
def fedoraPrograms : Programs where
  uris _ := none
  dpkgList _ := .error .calledProcessError
  selinuxenabled := .ok 0
  chcon := .ok listings.2
  setenforce := .ok ()
  updates _ := .error .osError
  pacmanRemove := .error .osError
  gpgListing _ := .ok ""
  kill _ := .ok ()
  chcon_listed := listings_expected

/-- A Fedora template. -/
def fedora41 : OsRelease.OsData :=
  { id := "fedora", name := "Fedora Linux", release := some (.str "41"), osFamily := "RedHat" }

/-- Its files before the first update, with some `dnf.conf`. -/
def fedoraFiles (dnfConf : List Char) : (plugin : Plugin) → PluginState plugin
  | .allowReleaseInfoChange => none
  | .bookwormBackports => ⟨none, none⟩
  | .disableDeltarpm => some dnfConf
  | .fixMeminfoWriterLabel => ⟨some [], none, some "417\n".toList, .ok listings.1, true⟩
  | .manageRpmMacro => none
  | .pipewireArchlinux => false
  | .updatesproxyFix => some "exec socat STDIO TCP:localhost:8082\n".toList
  | .whonix17Key => none

/-- The first run of the plugins. -/
def fedoraRun (dnfConf : List Char) :
    (Except PluginError Unit × Dict String String) × ((plugin : Plugin) → PluginState plugin) :=
  serve (environment fedoraPrograms) (runPlugins [] fedora41) Dict.empty (fedoraFiles dnfConf)

/-- A file with the markers in their order. -/
def orderedConf : List Char := "[main]\n".toList ++ Deltarpm.beginMarker ++ Deltarpm.endMarker

/-- A file with the markers in the wrong order. -/
def reversedConf : List Char := "[main]\n".toList ++ Deltarpm.endMarker ++ Deltarpm.beginMarker

/-- On this template, a second run changes nothing; with the markers in the wrong order, there is one line
more after each run. -/
theorem plugins_again_iff_fedora :
    serve (environment fedoraPrograms) (runPlugins [] fedora41) Dict.empty (fedoraRun orderedConf).2
      = fedoraRun orderedConf ∧
    ∃ front rest, fileLines reversedConf = front ++ rest ∧ ∀ n,
      afterRuns fedoraPrograms [] fedora41 Dict.empty (fedoraFiles reversedConf) (n + 1) .disableDeltarpm =
        some (front ++ List.replicate (n + 1) Deltarpm.disablingLine ++ rest).flatten := by
  have hrun : ∀ dnfConf, (fedoraRun dnfConf).1.1 = .ok () →
      fedoraRun dnfConf = ((.ok (), (fedoraRun dnfConf).1.2), (fedoraRun dnfConf).2) :=
    fun dnfConf hok => Prod.ext (Prod.ext hok rfl) rfl
  have hordered := hrun orderedConf rfl
  have hreversed := hrun reversedConf rfl
  constructor
  · rw [((plugins_again_iff ⟨"", rfl⟩ hordered).1.mpr ?_)]
    · exact hordered.symm
    · intro _ content hcontent
      obtain rfl := Option.some.inj hcontent
      decide +kernel
  · obtain ⟨front, rest, hlines, hruns⟩ :=
      (plugins_again_iff ⟨"", rfl⟩ hreversed).2 rfl reversedConf rfl (by decide +kernel)
    exact ⟨front, rest, hlines, fun n => (hruns n).2.2⟩

end Plugins

end QubesAdminLinux
