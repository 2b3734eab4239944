import PodRunner.Context.File
import PodRunner.Json.Compact
import PodRunner.LogFilter
import PodRunner.Runner.Run
import PodRunner.Proofs.Calls
import PodRunner.Proofs.Stopping
import PodRunner.Proofs.Waiting
import PodRunner.Proofs.Transitions
import PodRunner.Proofs.History
import PodRunner.Proofs.Invariant
import PodRunner.Proofs.CallDiscipline
import PodRunner.Proofs.PodContents
import PodRunner.Proofs.Lifecycle
import PodRunner.Proofs.WaitResult
import PodRunner.Proofs.Deadline
import PodRunner.Proofs.Retrying
import PodRunner.Proofs.StopResult
import PodRunner.Proofs.Pauses
import PodRunner.Proofs.Overflow
import PodRunner.Proofs.LaterDeadline
import PodRunner.Proofs.Creation
import PodRunner.Proofs.PathReading
import PodRunner.Proofs.Problems
import PodRunner.Proofs.Submission
import PodRunner.Proofs.Rejections
import PodRunner.Proofs.Renewal
import PodRunner.Proofs.Failures
import PodRunner.Proofs.NegativeDeadline
import PodRunner.Proofs.Exchanges
import PodRunner.Proofs.EndpointSource
import PodRunner.Proofs.PollLog
import PodRunner.Proofs.ApiVerdicts
import PodRunner.Proofs.Construction
import PodRunner.Proofs.RetryResult
import PodRunner.Proofs.Notices
import PodRunner.Proofs.Brackets
import PodRunner.Proofs.CappedGrowth
import PodRunner.Proofs.ClockAccounts
import PodRunner.Proofs.NoiseRules
import PodRunner.Proofs.OwnerResolution
