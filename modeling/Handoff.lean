import Handoff.Effects.Program
import Handoff.Effects.Code
import Handoff.Effects.System
import Handoff.Effects.Environment
import Handoff.Effects.Lockstep
import Handoff.Effects.Inline
import Handoff.Effects.Crew
import Handoff.Storage.Volume
import Handoff.Postcard.Format
import Handoff.Bytes
import Handoff.Text
import Handoff.Error
import Handoff.Protocol
import Handoff.Primitive.Ops
import Handoff.Primitive.Lock
import Handoff.Primitive.Incumbent
import Handoff.Primitive.Successor
import Handoff.Primitive.History
import Handoff.Primitive.Duty
import Handoff.Primitive.SessionDuty
import Handoff.Primitive.Leaving
import Handoff.Primitive.ServeDuty
import Handoff.Primitive.ServeRuns
import Handoff.Primitive.CommitSound
import Handoff.Primitive.SuccessorDuty
import Handoff.Primitive.Writes
import Handoff.Primitive.Awaiting
import Handoff.Primitive.FirstLock
import Handoff.Supervisor.Ops
import Handoff.Supervisor.PerformHandoff
import Handoff.Supervisor.Trace
import Handoff.Supervisor.Stages
import Handoff.Supervisor.Decisions
import Handoff.Supervisor.StageRuns
import Handoff.Supervisor.Outcome
import Handoff.Supervisor.HandoffRuns
import Handoff.Supervisor.InFlight
import Handoff.Supervisor.Budgets
import Handoff.Supervisor.BudgetRuns
import Handoff.Supervisor.Deadlines
import Handoff.Wire.Codec
import Handoff.Wire.Frame
import Handoff.Wire.Accumulator
import Handoff.Wire.Timing
import Handoff.Wire.Pauses
import Handoff.Wire.Sending
import Handoff.Wire.Endpoints
import Handoff.Wire.Insertion
import Handoff.Supervisor.JournalFile
import Handoff.Supervisor.JournalRuns
import Handoff.Supervisor.JournalDurable
import Handoff.Supervisor.JournalCrashes
import Handoff.Spawn.Descriptors
import Handoff.Spawn.Activation
import Handoff.Spawn.Listeners
import Handoff.Spawn.Adoption
import Handoff.Sock.Staging
import Handoff.Sock.Progress
import Handoff.Sock.Publication
import Handoff.Trigger.Command
import Handoff.Trigger.WholeLine
import Handoff.Trigger.Turn
import Handoff.Daemon.Main
import Handoff.Daemon.Turns
import Handoff.Daemon.Custody
import Handoff.Daemon.Execution
import Handoff.Daemon.Replies
import Handoff.Negotiation
import Handoff.ReadTimes
import Handoff.Primitive.EchoedFrames
import Handoff.Supervisor.ProgressFrames
import Handoff.Supervisor.ProgressWaits
import Handoff.Supervisor.ProgressRuns
import Handoff.ProgressInvisible
import Handoff.DataDir.Processes
import Handoff.DataDir.Agreement
import Handoff.World.State
import Handoff.World.Schedule
import Handoff.World.Coherence
import Handoff.World.SingleWriter
import Handoff.World.Rollback
import Handoff.World.Takeover
import Handoff.World.Continuity
import Handoff.World.Lanes
import Handoff.World.LockFree
import Handoff.Effects.Assumption
import Handoff.Effects.Choreography
import Handoff.Effects.Inevitable
import Handoff.Plan.Commits
