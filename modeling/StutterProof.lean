import StutterProof.VerifiedApply
import StutterProof.ExperimentCustody
import StutterProof.RecoveryAgreement
import StutterProof.PolicySoundness
import StutterProof.TwoPhaseApply
import StutterProof.PendingWakeups
import StutterProof.WakeupHandoff
import StutterProof.FocusResolver
import StutterProof.PendingAgreement
import StutterProof.AgentLatch
import StutterProof.SessionLoop
import StutterProof.ValidationRunner
import StutterProof.SampleConservation
import StutterProof.OneController
import StutterProof.KeptLedgerLaws
import StutterProof.MemoryLaws
import StutterProof.NicePrepared
import StutterProof.RestoreMerge
import StutterProof.AffinityTokens
import StutterProof.RestoresOnce
import StutterProof.BlockPairing
import StutterProof.FencePairing
import StutterProof.ProfileValidation
import StutterProof.MergedPercentile
import StutterProof.RollingWindow
import StutterProof.DaemonRuntime
import StutterProof.DaemonRestore
import StutterProof.ClusterCapacity
import StutterProof.RegressionVerdict
import StutterProof.IoPrioCodec
import StutterProof.CgroupMembership
import StutterProof.IrqCoherence
import StutterProof.VmKnobInverse
import StutterProof.CpuPowerInverse
import StutterProof.FrameRange
import StutterProof.WorkloadDelivery
import StutterProof.Sha256Refines
import StutterProof.RetentionLaws
import StutterProof.ArtifactDurability
import StutterProof.TuneBalance
import StutterProof.ComparabilityVerdict
import StutterProof.FaultTelescope
import StutterProof.SnapshotExclusion
import StutterProof.FocusDisjoint
import StutterProof.ProfileProvenance
import StutterProof.SelectedCandidate
import StutterProof.ExtractedObjects
import StutterProof.GrubMenus
import StutterProof.PerfIntervals
