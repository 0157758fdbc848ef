import VolumeHandover.Api.Caches
import VolumeHandover.Api.Remote
import VolumeHandover.Cluster.Sample
import VolumeHandover.Controller
import VolumeHandover.Json.Reader
import VolumeHandover.Json.Writer
import VolumeHandover.Main
import VolumeHandover.Proofs.AbandonedHandover
import VolumeHandover.Proofs.Adoption
import VolumeHandover.Proofs.LocalPrograms
import VolumeHandover.Proofs.Progress
import VolumeHandover.Proofs.SafeRelease
import VolumeHandover.Proofs.Selection
import VolumeHandover.Proofs.StalePatches
import VolumeHandover.Service
import VolumeHandover.Proofs.PassScope
import VolumeHandover.Proofs.IndependentPasses
import VolumeHandover.Proofs.Dispositions
import VolumeHandover.Proofs.WatchStreams
import VolumeHandover.Proofs.BackoffRuns
import VolumeHandover.Proofs.TermInclusion
import VolumeHandover.Proofs.PatchFrames
import VolumeHandover.Proofs.FinishedPasses
import VolumeHandover.Proofs.SteadyBackoff
import VolumeHandover.Proofs.MergeLaws
import VolumeHandover.Proofs.OrderedProduct
import VolumeHandover.Proofs.BoundedRetries
import VolumeHandover.Proofs.FirstDecision
import VolumeHandover.Proofs.Verdicts
import VolumeHandover.Proofs.ListedNames
import VolumeHandover.Proofs.AttemptCounts
import VolumeHandover.Proofs.RelevantLabels
import VolumeHandover.Proofs.TermOrder
