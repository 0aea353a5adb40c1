import LiveReload.Log.Timeless
import LiveReload.Main
import LiveReload.Memory.Pool
import LiveReload.Proofs.Build.DistinctOutputs
import LiveReload.Proofs.Build.FailedBuilds
import LiveReload.Proofs.Build.Lifecycle
import LiveReload.Proofs.Context.FrameSchedule
import LiveReload.Proofs.Context.StateOnce
import LiveReload.Proofs.Demo.Continuity
import LiveReload.Proofs.Memory.HighWater
import LiveReload.Proofs.Memory.OwnLayout
import LiveReload.Proofs.Memory.Refusal
import LiveReload.Proofs.Reload.Counters
import LiveReload.Proofs.Reload.Laps
import LiveReload.Proofs.Reload.LegacyState
import LiveReload.Proofs.Reload.NextStep
import LiveReload.Proofs.Watch.Answers
import LiveReload.Proofs.Watch.Clock
import LiveReload.Proofs.Watch.Debounce
import LiveReload.Proofs.Watch.Degradation
import LiveReload.Proofs.Watch.InputDirectory
import LiveReload.Proofs.Watch.NoLostChange
import LiveReload.Proofs.Watch.OwnArtifacts
import LiveReload.Proofs.Memory.Packing
import LiveReload.Proofs.Memory.Reuse
import LiveReload.Proofs.Files.Joined
import LiveReload.Proofs.Watch.SpelledOutputs
import LiveReload.Proofs.Files.SourceTrees
import LiveReload.Proofs.Text.ByteOrder
import LiveReload.Proofs.Files.Descents
import LiveReload.Proofs.Files.SourceSearch
import LiveReload.Proofs.Context.Identifiers
import LiveReload.Proofs.Build.CommandLines
import LiveReload.Proofs.Settings.HostLinking
import LiveReload.Proofs.Output.Delivery
import LiveReload.Proofs.Text.Decoding
import LiveReload.Proofs.Files.RawPaths
import LiveReload.Proofs.Build.CrateNames
