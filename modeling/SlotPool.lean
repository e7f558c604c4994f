import SlotPool.Block.Supply
import SlotPool.Crew.Job
import SlotPool.Crew.Message
import SlotPool.FileTree
import SlotPool.Inspector
import SlotPool.Main
import SlotPool.Pool.Ledger
import SlotPool.Session
import SlotPool.TypedPool.History
import SlotPool.Proofs.Draws
import SlotPool.Proofs.Block.Balance
import SlotPool.Proofs.Block.Contents
import SlotPool.Proofs.Pool.Steps
import SlotPool.Proofs.Pool.Reached
import SlotPool.Proofs.Pool.Accounts
import SlotPool.Proofs.Pool.Partition
import SlotPool.Proofs.Pool.Verdicts
import SlotPool.Proofs.Pool.HighWater
import SlotPool.Proofs.Pool.Contents
import SlotPool.Proofs.Pool.Checks
import SlotPool.Proofs.Pool.Twins
import SlotPool.Proofs.Objects
import SlotPool.Proofs.Fleet
import SlotPool.Proofs.TypedPool.Values
import SlotPool.Proofs.Crew.Courses
import SlotPool.Proofs.Crew.Reports
import SlotPool.Proofs.Pool.Integrity
import SlotPool.Proofs.Task
import SlotPool.Proofs.Crew.Sequential
import SlotPool.Proofs.Pool.Unnamed
import SlotPool.Proofs.Crew.Programs
import SlotPool.Proofs.Crew.Schedules
import SlotPool.Proofs.Crew.Failures
import SlotPool.Proofs.Block.Storage
import SlotPool.Proofs.Pool.Footprint
import SlotPool.Proofs.Pool.Order
import SlotPool.Proofs.Task.Shares
import SlotPool.Proofs.Config.RoundTrip
import SlotPool.Proofs.Config.Agreement
import SlotPool.Proofs.Pool.FreeStacks
import SlotPool.Proofs.Pool.Growth
import SlotPool.Proofs.TypedPool.Returns
import SlotPool.Proofs.TypedPool.Failures
import SlotPool.Proofs.Block.Arithmetic
import SlotPool.Proofs.Inspector.Options
import SlotPool.Proofs.Inspector.Workload
import SlotPool.Proofs.Inspector.Outcome
