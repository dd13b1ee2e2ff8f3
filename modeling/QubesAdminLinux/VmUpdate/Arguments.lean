import QubesAdminLinux.Agent.Entrypoint
import QubesAdminLinux.Lib.ArgumentParser
import QubesAdminLinux.VmUpdate.UsageErrors

/-! # The command lines of the updater and of its agent

The options of the agent are also options of `qubes-vm-update`, which hands them on: what it has read is
written as a command line and read once more by the agent.

* **`agentParser`** — the parser of the agent; **`vmUpdateParser`** — that of `qubes-vm-update`.
* **`parseEntrypoint_toCliArgs`** — when the agent reads back what is handed on.
* **`parseEntrypoint_of_parseVmUpdate`** — what `qubes-vm-update` has accepted is read back if the agent takes
  the logging level as an argument, and is rejected otherwise. -/

namespace QubesAdminLinux

open ArgumentParser

/-! ## The options of the agent -/

/-- The options of `AgentArgs`, and the one for the help that each parser has. -/
inductive AgentOption
  | help
  | log
  | noRefresh
  | forceUpgrade
  | noCleanup
  | leaveObsolete
  | downloadOnly
  | showOutput
  | quiet
  | noProgress
  | justPrintProgress
  deriving DecidableEq, Repr

namespace AgentOption

/-- What an option of the agent does. -/
def kind : AgentOption → Kind
  | .help => .help
  | .log => .value
  | _ => .flag

/-- The two groups of options that exclude each other. -/
def exclusive : AgentOption → AgentOption → Bool
  | .showOutput, .quiet | .quiet, .showOutput => true
  | .noProgress, .justPrintProgress | .justPrintProgress, .noProgress => true
  | _, _ => false

/-- The options that exclude each other. -/
theorem of_exclusive {a b : AgentOption} (h : exclusive a b = true) :
    (a = .showOutput ∧ b = .quiet) ∨ (a = .quiet ∧ b = .showOutput)
      ∨ (a = .noProgress ∧ b = .justPrintProgress) ∨ (a = .justPrintProgress ∧ b = .noProgress) := by
  unfold exclusive at h
  split at h <;> simp_all

/-- Exclusion goes both ways. -/
theorem exclusive_symm (a b : AgentOption) : exclusive a b = exclusive b a := by
  cases a <;> cases b <;> rfl

/-- No option excludes itself. -/
theorem exclusive_self (a : AgentOption) : exclusive a a = false := by
  cases a <;> rfl

end AgentOption

/-- The option strings for the help. -/
def helpTable {α : Type} (help : α) : List (Word × α) :=
  [("-h".toList, help), ("--help".toList, help)]

/-- The option strings of `AgentArgs.add_arguments`. -/
def agentTable : List (Word × AgentOption) :=
  [("--log".toList, .log),
    ("--no-refresh".toList, .noRefresh),
    ("--force-upgrade".toList, .forceUpgrade), ("-f".toList, .forceUpgrade),
    ("--no-cleanup".toList, .noCleanup),
    ("--leave-obsolete".toList, .leaveObsolete),
    ("--download-only".toList, .downloadOnly),
    ("--show-output".toList, .showOutput), ("--verbose".toList, .showOutput), ("-v".toList, .showOutput),
    ("--quiet".toList, .quiet), ("-q".toList, .quiet),
    ("--no-progress".toList, .noProgress),
    ("--just-print-progress".toList, .justPrintProgress)]

/-- The parser of the agent; only its flags are in groups, so that no value counts as a default. -/
def agentParser : Parser AgentOption where
  table := helpTable .help ++ agentTable
  kind := AgentOption.kind
  accepts _ _ := true
  isDefault _ := false
  exclusive := AgentOption.exclusive

/-- The options of the agent with all that it is told. -/
structure EntrypointArgs extends AgentArgs where
  /-- `--log`. -/
  log : String := "INFO"
  /-- `--quiet`. -/
  quiet : Bool := false
  /-- `--just-print-progress`. -/
  justPrintProgress : Bool := false
  deriving DecidableEq

/-- What is read by the agent. -/
def readEntrypoint (actions : List (Action AgentOption)) : EntrypointArgs where
  log := ((lastValue actions .log).map String.ofList).getD "INFO"
  noRefresh := isGiven actions .noRefresh
  forceUpgrade := isGiven actions .forceUpgrade
  noCleanup := isGiven actions .noCleanup
  leaveObsolete := isGiven actions .leaveObsolete
  downloadOnly := isGiven actions .downloadOnly
  showOutput := isGiven actions .showOutput
  quiet := isGiven actions .quiet
  noProgress := isGiven actions .noProgress
  justPrintProgress := isGiven actions .justPrintProgress

/-- `parse_args` of the entrypoint. -/
def parseEntrypoint (args : List String) : Except Rejection EntrypointArgs :=
  (agentParser.parse (args.map String.toList)).map readEntrypoint

example : parseEntrypoint ["-fv", "--lo=DEBUG", "--no-c"]
    = .ok { forceUpgrade := true, showOutput := true, noCleanup := true, log := "DEBUG" } := by
  decide +kernel

/-! ## The options of `qubes-vm-update` -/

/-- The options of `qubes-vm-update`. -/
inductive VmUpdateOption
  /-- An option of the agent. -/
  | agent (option : AgentOption)
  | maxConcurrency
  | dryRun
  | signalNoUpdates
  | applyToSys
  | applyToAll
  | noApply
  | forceUpdate
  | updateIfStale
  | updateIfAvailable
  | skip
  | targets
  | templates
  | standalones
  | apps
  | all
  | displayName
  deriving DecidableEq, Repr

namespace VmUpdateOption

/-- What an option of `qubes-vm-update` does. -/
def kind : VmUpdateOption → Kind
  | .agent option => option.kind
  | .maxConcurrency | .updateIfStale | .skip | .targets | .displayName => .value
  | _ => .flag

/-- The groups of options that exclude each other: what is restarted, and what is updated. -/
def group : VmUpdateOption → Option Bool
  | .applyToSys | .applyToAll | .noApply => some false
  | .forceUpdate | .updateIfStale | .updateIfAvailable => some true
  | _ => none

/-- Whether two options exclude each other. -/
def exclusive : VmUpdateOption → VmUpdateOption → Bool
  | .agent a, .agent b => a.exclusive b
  | a, b => a ≠ b && a.group.isSome && a.group = b.group

/-- Exclusion goes both ways. -/
theorem exclusive_symm (a b : VmUpdateOption) : exclusive a b = exclusive b a := by
  unfold exclusive
  split
  · rename_i a b
    exact a.exclusive_symm b
  · rename_i hagents
    have hgroups : (decide (a ≠ b) && a.group.isSome && decide (a.group = b.group))
        = (decide (b ≠ a) && b.group.isSome && decide (b.group = a.group)) := by
      by_cases hgroup : a.group = b.group
      · simp [hgroup, eq_comm]
      · simp [hgroup, Ne.symm hgroup]
    split
    · rename_i x y
      exact absurd rfl (hagents y x rfl)
    · exact hgroups

/-- No option excludes itself. -/
theorem exclusive_self (a : VmUpdateOption) : exclusive a a = false := by
  cases a <;> simp [exclusive, AgentOption.exclusive_self]

end VmUpdateOption

/-- The option strings of `parse_args`. -/
def vmUpdateTable : List (Word × VmUpdateOption) :=
  [("--max-concurrency".toList, .maxConcurrency), ("-x".toList, .maxConcurrency),
    ("--dry-run".toList, .dryRun),
    ("--signal-no-updates".toList, .signalNoUpdates),
    ("--apply-to-sys".toList, .applyToSys), ("--restart".toList, .applyToSys), ("-r".toList, .applyToSys),
    ("--apply-to-all".toList, .applyToAll), ("-R".toList, .applyToAll),
    ("--no-apply".toList, .noApply),
    ("--force-update".toList, .forceUpdate),
    ("--update-if-stale".toList, .updateIfStale),
    ("--update-if-available".toList, .updateIfAvailable),
    ("--skip".toList, .skip),
    ("--targets".toList, .targets),
    ("--templates".toList, .templates), ("-T".toList, .templates),
    ("--standalones".toList, .standalones), ("-S".toList, .standalones),
    ("--apps".toList, .apps), ("-A".toList, .apps),
    ("--all".toList, .all),
    ("--display-name".toList, .displayName)]

/-- All option strings of `qubes-vm-update`. -/
def vmUpdateEntries : List (Word × VmUpdateOption) :=
  helpTable (.agent .help) ++ vmUpdateTable ++ agentTable.map fun entry => (entry.1, .agent entry.2)

/-- `int(text)` of a word. -/
def intOfWord? (word : Word) : Option Int := PyFloat.intOfText? (String.ofList word)

/-- The parser of `qubes-vm-update`, for a default of `--update-if-stale`. -/
def vmUpdateParser (default : Int) : Parser VmUpdateOption where
  table := vmUpdateEntries
  kind := VmUpdateOption.kind
  accepts
    | .maxConcurrency, word | .updateIfStale, word => (intOfWord? word).isSome
    | _, _ => true
  -- values are compared with `is`: small numbers that are equal are the same object
  isDefault
    | (.updateIfStale, some word) => intOfWord? word = some default && -5 ≤ default && default ≤ 256
    | _ => false
  exclusive := VmUpdateOption.exclusive

deriving instance DecidableEq for TargetingArgs, CommandLine

/-- A command line of `qubes-vm-update` with all that it tells. -/
structure VmUpdateLine extends CommandLine where
  /-- `--max-concurrency`. -/
  maxConcurrency : Option Int := none
  deriving DecidableEq

/-- The text of a value. -/
def lastText (actions : List (Action VmUpdateOption)) (option : VmUpdateOption) : Option String :=
  (lastValue actions option).map String.ofList

/-- The options of the update. -/
def readArgs (actions : List (Action VmUpdateOption)) : Args where
  dryRun := isGiven actions .dryRun
  signalNoUpdates := isGiven actions .signalNoUpdates
  applyToSys := isGiven actions .applyToSys
  applyToAll := isGiven actions .applyToAll
  displayName := lastText actions .displayName
  log := (lastText actions (.agent .log)).getD "INFO"
  noRefresh := isGiven actions (.agent .noRefresh)
  forceUpgrade := isGiven actions (.agent .forceUpgrade)
  noCleanup := isGiven actions (.agent .noCleanup)
  leaveObsolete := isGiven actions (.agent .leaveObsolete)
  downloadOnly := isGiven actions (.agent .downloadOnly)
  showOutput := isGiven actions (.agent .showOutput)
  quiet := isGiven actions (.agent .quiet)
  noProgress := isGiven actions (.agent .noProgress)
  justPrintProgress := isGiven actions (.agent .justPrintProgress)

/-- The options of the selection; the limit is added later. -/
def readTargeting (actions : List (Action VmUpdateOption)) : TargetingArgs where
  all := isGiven actions .all
  templates := isGiven actions .templates
  standalones := isGiven actions .standalones
  apps := isGiven actions .apps
  targets := (lastText actions .targets).getD ""
  skip := (lastText actions .skip).getD ""
  forceUpdate := isGiven actions .forceUpdate
  updateIfAvailable := isGiven actions .updateIfAvailable

/-- What is read by `qubes-vm-update`. -/
def readVmUpdate (actions : List (Action VmUpdateOption)) : VmUpdateLine where
  args := readArgs actions
  targeting := readTargeting actions
  updateIfStale := (lastValue actions .updateIfStale).bind intOfWord?
  maxConcurrency := (lastValue actions .maxConcurrency).bind intOfWord?

/-- The parser of `parse_args` in `qubes-vm-update`. -/
def parseVmUpdate (default : Int) (argv : List String) : Except Rejection VmUpdateLine :=
  ((vmUpdateParser default).parse (argv.map String.toList)).map readVmUpdate

/-! ## What is handed on -/

/-- The options of the agent among those of `qubes-vm-update`. -/
def Args.entrypointArgs (args : Args) : EntrypointArgs where
  log := args.log
  noRefresh := args.noRefresh
  forceUpgrade := args.forceUpgrade
  noCleanup := args.noCleanup
  leaveObsolete := args.leaveObsolete
  downloadOnly := args.downloadOnly
  showOutput := args.showOutput
  quiet := args.quiet
  noProgress := args.noProgress
  justPrintProgress := args.justPrintProgress

/-- A flag of the agent as it is written, if it is set. -/
def flagPiece (set : Bool) (option : AgentOption) (string : String) : List (Piece AgentOption) :=
  if set then [⟨option, string.toList, none, false⟩] else []

/-- The flags that are handed on. -/
def Args.flagPieces (args : Args) : List (Piece AgentOption) :=
  flagPiece args.noRefresh .noRefresh "--no-refresh"
    ++ flagPiece args.forceUpgrade .forceUpgrade "--force-upgrade"
    ++ flagPiece args.noCleanup .noCleanup "--no-cleanup"
    ++ flagPiece args.leaveObsolete .leaveObsolete "--leave-obsolete"
    ++ flagPiece args.downloadOnly .downloadOnly "--download-only"
    ++ flagPiece args.showOutput .showOutput "--show-output"
    ++ flagPiece args.quiet .quiet "--quiet"
    ++ flagPiece args.noProgress .noProgress "--no-progress"
    ++ flagPiece args.justPrintProgress .justPrintProgress "--just-print-progress"

/-- The options that are handed on. -/
def Args.pieces (args : Args) : List (Piece AgentOption) :=
  ⟨.log, "--log".toList, some args.log.toList, false⟩ :: args.flagPieces

/-- The words of a flag. -/
theorem flatMap_flagPiece (set : Bool) (option : AgentOption) (string : String) :
    (flagPiece set option string).flatMap Piece.words = (flagWord set string).map String.toList := by
  cases set <;> rfl

/-- The command line of the agent consists of these options. -/
theorem map_toCliArgs (args : Args) :
    args.toCliArgs.map String.toList = args.pieces.flatMap Piece.words := by
  simp only [Args.toCliArgs, Args.pieces, Args.flagPieces, List.map_append, List.flatMap_cons,
    List.flatMap_append, flatMap_flagPiece]
  rfl

/-- A flag that is handed on is set. -/
theorem mem_flagPiece {set : Bool} {option : AgentOption} {string : String} {piece : Piece AgentOption} :
    piece ∈ flagPiece set option string ↔ set = true ∧ piece = ⟨option, string.toList, none, false⟩ := by
  cases set <;> simp [flagPiece]

/-- A flag with a string that the agent knows. -/
theorem plain_flagPiece {set : Bool} {option : AgentOption} {string : String}
    (h : agentParser.find string.toList = some option ∧ option.kind = .flag
      ∧ string.toList.head? = some '-' ∧ string.toList ≠ separatorWord)
    {piece : Piece AgentOption} (hpiece : piece ∈ flagPiece set option string) :
    agentParser.Plain piece := by
  obtain ⟨-, rfl⟩ := mem_flagPiece.mp hpiece
  exact {
    dash := h.2.2.1
    ne := h.2.2.2
    find := h.1
    kind := by simp [agentParser, h.2.1]
    argument := by simp
    equals := by simp }

/-- The flags are options of the agent. -/
theorem plain_flagPieces {args : Args} {piece : Piece AgentOption} (h : piece ∈ args.flagPieces) :
    agentParser.Plain piece := by
  simp only [Args.flagPieces, List.mem_append] at h
  rcases h with (((((((h | h) | h) | h) | h) | h) | h) | h) | h <;>
    exact plain_flagPiece (by decide +kernel) h

/-- The string of the logging level. -/
theorem find_log : agentParser.find "--log".toList = some .log ∧ "--log".toList.head? = some '-'
    ∧ "--log".toList ≠ separatorWord := by
  decide +kernel

/-- All that is handed on are options of the agent, if the level is taken as an argument. -/
theorem plain_pieces {args : Args} (hlog : agentParser.IsArgument args.log.toList)
    {piece : Piece AgentOption} (h : piece ∈ args.pieces) : agentParser.Plain piece := by
  rcases List.mem_cons.mp h with rfl | h
  · exact {
      dash := find_log.2.1
      ne := find_log.2.2
      find := find_log.1
      kind := by simp [agentParser, AgentOption.kind]
      argument := by simpa using hlog
      equals := by simp }
  · exact plain_flagPieces h

/-- Which options are given by a flag that is handed on. -/
theorem isGiven_flagPiece (set : Bool) (option : AgentOption) (string : String) (a : AgentOption) :
    isGiven ((flagPiece set option string).map Piece.action) a = (set && decide (option = a)) := by
  cases set <;> simp [flagPiece, isGiven, Piece.action]

/-- Which options are given by what is handed on. -/
theorem isGiven_pieces (args : Args) (a : AgentOption) :
    isGiven (args.pieces.map Piece.action) a
      = (decide (AgentOption.log = a) || isGiven (args.flagPieces.map Piece.action) a) := rfl

/-- The agent reads its options off what is handed on. -/
theorem readEntrypoint_pieces (args : Args) :
    readEntrypoint (args.pieces.map Piece.action) = args.entrypointArgs := by
  have hlast : lastValue (args.pieces.map Piece.action) .log = some args.log.toList := by
    refine lastValue_cons ?_ _
    simp [Args.flagPieces, isGiven_flagPiece]
  rw [readEntrypoint, hlast]
  simp [isGiven_pieces, Args.flagPieces, isGiven_flagPiece, Args.entrypointArgs]

/-- Whether no two options of the agent exclude each other. -/
structure Args.Consistent (args : Args) : Prop where
  /-- The output is shown, or nothing is printed. -/
  verbosity : ¬ (args.showOutput = true ∧ args.quiet = true)
  /-- There is no progress, or it is printed. -/
  progress : ¬ (args.noProgress = true ∧ args.justPrintProgress = true)

/-- The options that are handed on exclude each other exactly if they are inconsistent. -/
theorem compatible_pieces (args : Args) :
    agentParser.Compatible (args.pieces.map Piece.action) ↔ args.Consistent := by
  have hread := readEntrypoint_pieces args
  have hgiven := isGiven_pieces args
  simp only [Args.flagPieces, List.map_append, isGiven_append, isGiven_flagPiece] at hgiven
  rw [Parser.compatible_iff AgentOption.exclusive_symm AgentOption.exclusive_self]
  constructor
  · rintro ⟨-, hclash⟩
    have hexcluded : ∀ a b, isGiven (args.pieces.map Piece.action) a = true →
        isGiven (args.pieces.map Piece.action) b = true → a.exclusive b = false := by
      intro a b ha hb
      obtain ⟨first, hfirst, rfl⟩ := exists_of_isGiven ha
      obtain ⟨second, hsecond, rfl⟩ := exists_of_isGiven hb
      simpa [Parser.clash, agentParser] using hclash second hsecond first hfirst
    constructor
    · rintro ⟨hshow, hquiet⟩
      have := hexcluded .showOutput .quiet (by simp [hgiven, hshow]) (by simp [hgiven, hquiet])
      cases this
    · rintro ⟨hno, hprint⟩
      have := hexcluded .noProgress .justPrintProgress (by simp [hgiven, hno]) (by simp [hgiven, hprint])
      cases this
  · intro hconsistent
    have hgivenOf : ∀ {action}, action ∈ args.pieces.map Piece.action →
        isGiven (args.pieces.map Piece.action) action.1 = true := fun h => isGiven_of_mem h
    refine ⟨fun action haction => ⟨fun _ _ => rfl, fun hhelp => ?_⟩, fun a ha b hb => ?_⟩
    · -- nobody asks for the help
      have hoption : action.1 = .help := by
        change action.1.kind = .help at hhelp
        unfold AgentOption.kind at hhelp
        split at hhelp
        · assumption
        · cases hhelp
        · cases hhelp
      have := hgivenOf haction
      rw [hoption] at this
      simp [hgiven] at this
    · rw [Parser.clash, Bool.and_eq_false_iff]
      right
      by_contra hexcluded
      have hpair := AgentOption.of_exclusive (by simpa [agentParser] using hexcluded)
      have hfirst := hgivenOf ha
      have hsecond := hgivenOf hb
      rcases hpair with ⟨h₁, h₂⟩ | ⟨h₁, h₂⟩ | ⟨h₁, h₂⟩ | ⟨h₁, h₂⟩ <;>
        rw [h₂] at hfirst <;> rw [h₁] at hsecond <;> simp [hgiven] at hfirst hsecond
      · exact hconsistent.verbosity ⟨hsecond, hfirst⟩
      · exact hconsistent.verbosity ⟨hfirst, hsecond⟩
      · exact hconsistent.progress ⟨hsecond, hfirst⟩
      · exact hconsistent.progress ⟨hfirst, hsecond⟩

/-- The agent accepts what is handed on exactly if it takes the level as an argument and the options are
consistent; it then reads back its options. -/
theorem parseEntrypoint_toCliArgs (args : Args) (read : EntrypointArgs) :
    parseEntrypoint args.toCliArgs = .ok read ↔
      agentParser.IsArgument args.log.toList ∧ args.Consistent ∧ read = args.entrypointArgs := by
  rw [parseEntrypoint, map_toCliArgs]
  by_cases hlog : agentParser.IsArgument args.log.toList
  · have hparse : ∀ actions, agentParser.parse (args.pieces.flatMap Piece.words) = .ok actions ↔
        agentParser.Compatible (args.pieces.map Piece.action) ∧ actions = args.pieces.map Piece.action :=
      fun _ => Parser.parse_pieces fun _ hpiece => plain_pieces hlog hpiece
    rw [compatible_pieces] at hparse
    constructor
    · intro h
      cases hactions : agentParser.parse (args.pieces.flatMap Piece.words) with
      | error rejection =>
          rw [hactions] at h
          cases h
      | ok actions =>
          obtain ⟨hconsistent, rfl⟩ := (hparse actions).mp hactions
          rw [hactions] at h
          cases h
          exact ⟨hlog, hconsistent, readEntrypoint_pieces args⟩
    · rintro ⟨-, hconsistent, rfl⟩
      rw [(hparse _).mpr ⟨hconsistent, rfl⟩, ← readEntrypoint_pieces args]
      rfl
  · have hrejected : agentParser.parse (args.pieces.flatMap Piece.words) = .error .usage :=
      Parser.parse_value_error find_log.2.1 find_log.2.2 find_log.1 rfl hlog _
    rw [hrejected]
    exact ⟨fun h => (by cases h), fun h => absurd h.1 hlog⟩

/-! ## From one parser to the other -/

/-- What `qubes-vm-update` has accepted is consistent. -/
theorem consistent_of_parseVmUpdate {default : Int} {argv : List String} {line : VmUpdateLine}
    (h : parseVmUpdate default argv = .ok line) : line.args.Consistent := by
  rw [parseVmUpdate] at h
  cases hactions : (vmUpdateParser default).parse (argv.map String.toList) with
  | error rejection =>
      rw [hactions] at h
      cases h
  | ok actions =>
      rw [hactions] at h
      cases h
      have hcompatible := Parser.compatible_of_parse hactions
      rw [Parser.compatible_iff VmUpdateOption.exclusive_symm VmUpdateOption.exclusive_self] at hcompatible
      have hexcluded : ∀ a b, isGiven actions (.agent a) = true → isGiven actions (.agent b) = true →
          a.exclusive b = false := by
        intro a b ha hb
        obtain ⟨⟨_, first⟩, hfirst, rfl⟩ := exists_of_isGiven ha
        obtain ⟨⟨_, second⟩, hsecond, rfl⟩ := exists_of_isGiven hb
        -- only a limit can be a default
        have hclash := hcompatible.2 _ hsecond _ hfirst
        simpa [Parser.clash, vmUpdateParser, VmUpdateOption.exclusive] using hclash
      constructor
      · rintro ⟨hshow, hquiet⟩
        have := hexcluded .showOutput .quiet hshow hquiet
        cases this
      · rintro ⟨hno, hprint⟩
        have := hexcluded .noProgress .justPrintProgress hno hprint
        cases this

/-- The levels that `logging` knows do not look like options. -/
theorem isArgument_of_mem_levelNames {level : String} (h : level ∈ levelNames) :
    agentParser.IsArgument level.toList := by
  have hhead : ∀ level ∈ levelNames, level.toList.head? ≠ some '-' := by decide +kernel
  exact Parser.isArgument_of_head (hhead level h)

/-- With a level that `logging` knows, what `qubes-vm-update` has accepted is read back. -/
theorem parseEntrypoint_of_level {default : Int} {argv : List String} {line : VmUpdateLine}
    (h : parseVmUpdate default argv = .ok line) (hlevel : line.args.log ∈ levelNames) :
    parseEntrypoint line.args.toCliArgs = .ok line.args.entrypointArgs :=
  (parseEntrypoint_toCliArgs line.args _).mpr
    ⟨isArgument_of_mem_levelNames hlevel, consistent_of_parseVmUpdate h, rfl⟩

/-- What `qubes-vm-update` has accepted is accepted by the agent exactly if it takes the logging level as an
argument, and then all its options are read back. -/
theorem parseEntrypoint_of_parseVmUpdate {default : Int} {argv : List String} {line : VmUpdateLine}
    (h : parseVmUpdate default argv = .ok line) (read : EntrypointArgs) :
    parseEntrypoint line.args.toCliArgs = .ok read ↔
      agentParser.IsArgument line.args.log.toList ∧ read = line.args.entrypointArgs := by
  rw [parseEntrypoint_toCliArgs]
  have hconsistent := consistent_of_parseVmUpdate h
  tauto

/-- A level behind an equals sign is taken by `qubes-vm-update`, and rejected by the agent. -/
theorem parseEntrypoint_of_parseVmUpdate_level :
    ¬ ∃ read, parseEntrypoint ({ log := "-v", quiet := true } : Args).toCliArgs = .ok read := by
  rintro ⟨read, hread⟩
  have hparse : parseVmUpdate 7 ["--log=-v", "-q"]
      = .ok { args := { log := "-v", quiet := true } } := by decide +kernel
  have hlevel := ((parseEntrypoint_of_parseVmUpdate hparse read).mp hread).1
  cases hlevel.classify

end QubesAdminLinux
