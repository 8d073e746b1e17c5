import MooWorld.Config.File
import MooWorld.Scheduler
import MooWorld.Value.Hash
import MooWorld.Value.Version
import MooWorld.Workbench
import MooWorld.Proofs.TaskQueue
import MooWorld.Proofs.Lifecycle
import MooWorld.Proofs.Outcome
import MooWorld.Proofs.Announcement
import MooWorld.Proofs.TimerCount
import MooWorld.Proofs.Transition
import MooWorld.Proofs.ValueOrder
import MooWorld.Proofs.Inheritance
import MooWorld.Proofs.Suspension
import MooWorld.Proofs.Requeue
import MooWorld.Proofs.WorkerPool
import MooWorld.Proofs.Effect
import MooWorld.Proofs.Schedule
import MooWorld.Proofs.Wake
import MooWorld.Proofs.Privilege
import MooWorld.Proofs.Limits
import MooWorld.Proofs.ValueEquality
import MooWorld.Proofs.Dialogue
import MooWorld.Proofs.Independence
import MooWorld.Proofs.ValueSize
import MooWorld.Proofs.Assoc
import MooWorld.Proofs.ValueMap
import MooWorld.Proofs.QuotaFit
import MooWorld.Proofs.Expiry
import MooWorld.Proofs.Override
import MooWorld.Proofs.Stopping
import MooWorld.Proofs.TaskControl
import MooWorld.Proofs.Listing
import MooWorld.Proofs.Nesting
import MooWorld.Proofs.StoreRefinement
import MooWorld.Proofs.ExactEquality
import MooWorld.Proofs.Punctuality
import MooWorld.Proofs.CodeSpelling
import MooWorld.Proofs.SearchLength
