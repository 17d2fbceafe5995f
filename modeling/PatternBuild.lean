import PatternBuild.Engine.Plan
import PatternBuild.Engine.Recording
import PatternBuild.Main
import PatternBuild.Proofs.Engine.Dependents
import PatternBuild.Proofs.Engine.Environment
import PatternBuild.Proofs.Engine.FailFast
import PatternBuild.Proofs.Engine.HookRuns
import PatternBuild.Proofs.Engine.Resolution
import PatternBuild.Proofs.Engine.Returning
import PatternBuild.Proofs.Engine.RoundTrip
import PatternBuild.Proofs.Engine.Steady
import PatternBuild.Proofs.FileSystem.Additions
import PatternBuild.Proofs.Path.Plain
import PatternBuild.Proofs.Pattern.Canonical
import PatternBuild.Proofs.Pattern.Inverse
import PatternBuild.Proofs.Pattern.Listing
import PatternBuild.Proofs.Pattern.Mask
import PatternBuild.Proofs.Pattern.Matching
import PatternBuild.Proofs.Pattern.Repeated
import PatternBuild.Proofs.Pattern.Simultaneous
import PatternBuild.Proofs.Pattern.Templates
import PatternBuild.Proofs.Rules.Culprits
import PatternBuild.Proofs.Rules.HeaderRoundTrip
import PatternBuild.Proofs.Rules.Location
import PatternBuild.Proofs.Rules.Union
import PatternBuild.Proofs.Watch.Clock
import PatternBuild.Proofs.Watch.Exclusion
import PatternBuild.Proofs.Watch.HandOut
import PatternBuild.Proofs.Watch.Hashes
import PatternBuild.Proofs.Watch.Interleaving
import PatternBuild.Proofs.Watch.Relative
import PatternBuild.Proofs.Watch.Replay
import PatternBuild.Proofs.Watch.Reports
import PatternBuild.Proofs.Watch.Spellings
import PatternBuild.Proofs.Watch.Timing
import PatternBuild.Proofs.Watch.Unchanged
