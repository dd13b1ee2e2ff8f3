import QubesAdminLinux.Lib.Binary64
import QubesAdminLinux.Lib.BinaryFormat
import QubesAdminLinux.Lib.Dict
import QubesAdminLinux.Lib.Interleaving
import QubesAdminLinux.Lib.Program
import QubesAdminLinux.Lib.Sections
import QubesAdminLinux.Lib.Shell
import QubesAdminLinux.Lib.StateExcept
import QubesAdminLinux.Lib.Text
import QubesAdminLinux.Lib.Threads
import QubesAdminLinux.Agent.ProcessResult
import QubesAdminLinux.Agent.Status
import QubesAdminLinux.Agent.PackageManager
import QubesAdminLinux.Agent.Phases
import QubesAdminLinux.Agent.Backends
import QubesAdminLinux.Agent.Entrypoint
import QubesAdminLinux.Agent.AptFailures
import QubesAdminLinux.Agent.NoUpdates
import QubesAdminLinux.VmUpdate.Domain
import QubesAdminLinux.VmUpdate.QubeConnection
import QubesAdminLinux.VmUpdate.WorkerEvents
import QubesAdminLinux.VmUpdate.ConnectionRules
import QubesAdminLinux.VmUpdate.UpdateAgent
import QubesAdminLinux.VmUpdate.Announcement
import QubesAdminLinux.VmUpdate.Agreement
import QubesAdminLinux.VmUpdate.ProgressBars
import QubesAdminLinux.VmUpdate.ApplyUpdates
import QubesAdminLinux.VmUpdate.UpdateManager
import QubesAdminLinux.VmUpdate.Main
import QubesAdminLinux.VmUpdate.DisplayModes
import QubesAdminLinux.VmUpdate.MainConnection
import QubesAdminLinux.VmUpdate.Cancellation
import QubesAdminLinux.Agent.DnfAgreement
import QubesAdminLinux.VmUpdate.BatchCode
import QubesAdminLinux.VmUpdate.DryRun
import QubesAdminLinux.VmUpdate.OutputTexts
import QubesAdminLinux.VmUpdate.OutputLines
import QubesAdminLinux.Dom0Updates.ReceiveUpdates
import QubesAdminLinux.Dom0Updates.ConcurrentTransfers
import QubesAdminLinux.Dracut.PciBack
import QubesAdminLinux.Dom0Updates.Dom0Update
import QubesAdminLinux.Dom0Updates.UpdateParts
import QubesAdminLinux.Dom0Updates.DownloadStatus
import QubesAdminLinux.Dom0Updates.FailedDownload
import QubesAdminLinux.Dom0Updates.AppliedUpdate
import QubesAdminLinux.SystemConfig.XenCfg
import QubesAdminLinux.SystemConfig.BootableConfig
import QubesAdminLinux.Lib.Pattern
import QubesAdminLinux.Lib.Placement
import QubesAdminLinux.Uki.Generate
import QubesAdminLinux.Uki.Overlap
import QubesAdminLinux.VmUpdate.StderrLines
import QubesAdminLinux.VmUpdate.CommandEndings
import QubesAdminLinux.Agent.RefreshMessages
import QubesAdminLinux.VmUpdate.Communication
import QubesAdminLinux.VmUpdate.Targets
import QubesAdminLinux.VmUpdate.SkipUpdate
import QubesAdminLinux.VmUpdate.UnreachableQubes
import QubesAdminLinux.Agent.PackageChanges
import QubesAdminLinux.Lib.Rounding
import QubesAdminLinux.Lib.Totals
import QubesAdminLinux.Lib.Callbacks
import QubesAdminLinux.Lib.SeparatedOrder
import QubesAdminLinux.Lib.ShellWords
import QubesAdminLinux.Lib.Numerals
import QubesAdminLinux.Lib.Globs
import QubesAdminLinux.Agent.Progress
import QubesAdminLinux.Agent.Dnf5Download
import QubesAdminLinux.Agent.DnfDownload
import QubesAdminLinux.Agent.ProgressCallbacks
import QubesAdminLinux.Agent.Requirements
import QubesAdminLinux.Agent.ShownOutput
import QubesAdminLinux.VmUpdate.PowerState
import QubesAdminLinux.Dom0Updates.OptionLoop
import QubesAdminLinux.Dom0Updates.Quoting
import QubesAdminLinux.Dom0Updates.WorkingSystem
import QubesAdminLinux.Dom0Updates.EndOfOptions
import QubesAdminLinux.Dracut.ResolveDev
import QubesAdminLinux.VmUpdate.TargetNames
import QubesAdminLinux.VmUpdate.SelectionLevels
import QubesAdminLinux.Lib.TextLines
import QubesAdminLinux.Lib.StringLiterals
import QubesAdminLinux.Agent.OsRelease
import QubesAdminLinux.Agent.DisableDeltarpm
import QubesAdminLinux.VmUpdate.ShownProgress
import QubesAdminLinux.Uki.Layout
import QubesAdminLinux.Agent.BookwormBackports
import QubesAdminLinux.Dom0Updates.VersionCheck
import QubesAdminLinux.VmUpdate.UsageErrors
import QubesAdminLinux.Agent.SizeUnits
import QubesAdminLinux.Dom0Updates.NestedUpdates
import QubesAdminLinux.Dom0Updates.UpdateCheck
import QubesAdminLinux.Agent.PluginRuns
import QubesAdminLinux.VmUpdate.RunOutcome
import QubesAdminLinux.Dom0Updates.AppliedAgents
import QubesAdminLinux.VmUpdate.ReportedAgent
import QubesAdminLinux.VmUpdate.RunOfAgents
import QubesAdminLinux.Dom0Updates.ExclusiveUpdates
import QubesAdminLinux.Dom0Updates.InterruptedTransfers
import QubesAdminLinux.SystemConfig.KernelFiles
