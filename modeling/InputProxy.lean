import InputProxy.DispatchPoints
import InputProxy.ActivityModes
import InputProxy.DeviceLifetime
import InputProxy.Captures
import InputProxy.Forwarding
import InputProxy.Templates
import InputProxy.Contacts
import InputProxy.Neutrality
import InputProxy.FailClosed
import InputProxy.PermissionSettling
import InputProxy.ExitStatus
import InputProxy.ControlRuns
import InputProxy.ControlRecovery
import InputProxy.Replica
import InputProxy.ActivityPeriods
import InputProxy.RunningActivity
import InputProxy.PausedActivity
import InputProxy.UninstallAttempts
import InputProxy.ConcurrentInstallers
import InputProxy.DerivedIdentifiers
import InputProxy.Synchronization
import InputProxy.ExactNeutralization
import InputProxy.Compatibility
import InputProxy.AtomicApplication
import InputProxy.RuleRendering
import InputProxy.UdevRecords
import InputProxy.CompleteRules
import InputProxy.ReadinessVerdicts
import InputProxy.RunArguments
import InputProxy.InstallArguments
import InputProxy.ResponseReaders
import InputProxy.WriteLoops
import InputProxy.CapabilityBitmaps
import InputProxy.InstanceSelections
import InputProxy.WrappedLists
import InputProxy.WaitTimeouts
import InputProxy.ServiceIdentities
import InputProxy.InstallDialogues
import InputProxy.DeviceListings
import InputProxy.InputTrees
import InputProxy.CapabilityReports
import InputProxy.MainCommand
import InputProxy.NameOwnership
import InputProxy.InstallOutcomes
import InputProxy.InstalledServices
import InputProxy.UninstallOutcomes
import InputProxy.WholeArtifacts
import InputProxy.LastWords
import InputProxy.CallReplies
import InputProxy.EndingRuns
import InputProxy.RunningInstances
import InputProxy.TerminationSignals
