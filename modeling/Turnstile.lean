import Turnstile.Machine
import Turnstile.Fault
import Turnstile.Diagnosis
import Turnstile.Permits.Backend
import Turnstile.Event
import Turnstile.Event.Text
import Turnstile.Counting
import Turnstile.Lock.Sharing
import Turnstile.Lock.Spinning
import Turnstile.Guarded
import Turnstile.Queue.Calls
import Turnstile.Log.Collector
import Turnstile.Pool.Config.Text
import Turnstile.Pool.Batch
import Turnstile.Pool.Owner
import Turnstile.Workload.Exclusion
import Turnstile.Workload.Exchange
import Turnstile.Proofs.Schedule
import Turnstile.Proofs.Report
import Turnstile.Proofs.Semaphore
import Turnstile.Proofs.Permits.Standing
import Turnstile.Proofs.Permits.Reading
import Turnstile.Proofs.Permits.Conservation
import Turnstile.Proofs.Permits.Tally
import Turnstile.Proofs.Permits.Scramble
import Turnstile.Proofs.Permits.Rounds
import Turnstile.Proofs.Permits.Serving
import Turnstile.Proofs.Permits.Pace
import Turnstile.Proofs.Permits.Interchange
import Turnstile.Proofs.Permits.Posting
import Turnstile.Proofs.SignedWord
import Turnstile.Proofs.Event.Actions
import Turnstile.Proofs.Event.Signals
import Turnstile.Proofs.Event.Roused
import Turnstile.Proofs.Counting.Serving
import Turnstile.Proofs.Counting.Agreement
import Turnstile.Proofs.Lock.Usage
import Turnstile.Proofs.Lock.Exclusive
import Turnstile.Proofs.Lock.Exclusive.FirstCome
import Turnstile.Proofs.Lock.Exclusive.Admission
import Turnstile.Proofs.Lock.Exclusive.InTurn
import Turnstile.Proofs.Lock.Exclusive.Leftovers
import Turnstile.Proofs.Lock.Sharing.Ledger
import Turnstile.Proofs.Lock.Sharing.Stages
import Turnstile.Proofs.Lock.Sharing.Safety
import Turnstile.Proofs.Lock.Sharing.PhaseFair
import Turnstile.Proofs.Lock.Sharing.Settled
import Turnstile.Proofs.Lock.Sharing.Arrivals
import Turnstile.Proofs.Lock.Sharing.Rising
import Turnstile.Proofs.Lock.Sharing.Handover
import Turnstile.Proofs.Lock.Sharing.Requests
import Turnstile.Proofs.Lock.Sharing.Guards
import Turnstile.Proofs.Lock.Sharing.Refinement
import Turnstile.Proofs.Lock.Sharing.Misuse
import Turnstile.Proofs.Lock.Sharing.Overtaking
import Turnstile.Proofs.Lock.Sharing.Handshake
import Turnstile.Proofs.Queue.Ring
import Turnstile.Proofs.Queue.Ring.InOrder
import Turnstile.Proofs.Queue.Fifo
import Turnstile.Proofs.Queue.Traffic
import Turnstile.Proofs.Queue.History
import Turnstile.Proofs.Queue.Delivery
import Turnstile.Proofs.Queue.Serving
import Turnstile.Proofs.Queue.Resting
import Turnstile.Proofs.Queue.Arrivals
import Turnstile.Proofs.Queue.Refinement
import Turnstile.Proofs.Queue.Balance
import Turnstile.Proofs.Renaming
import Turnstile.Proofs.Attempt
import Turnstile.Proofs.Attempt.Lines
import Turnstile.Proofs.Attempt.Semaphores
import Turnstile.Proofs.Attempt.Event
import Turnstile.Proofs.Attempt.Locks
import Turnstile.Proofs.Attempt.Queue
import Turnstile.Proofs.Attempt.Primitives
import Turnstile.Proofs.Pool.Milestones
import Turnstile.Proofs.Pool.Changes
import Turnstile.Proofs.Pool.Runs
import Turnstile.Proofs.Pool.Ledger
import Turnstile.Proofs.Pool.Drain
import Turnstile.Proofs.Pool.Drained
import Turnstile.Proofs.Pool.Owner
import Turnstile.Proofs.Pool.Placement
import Turnstile.Proofs.Pool.Visits
import Turnstile.Proofs.Pool.Turns
import Turnstile.Proofs.Pool.Service
import Turnstile.Proofs.Pool.Stranded
import Turnstile.Proofs.Pool.Chronicle
import Turnstile.Proofs.Pool.Courses
import Turnstile.Proofs.Pool.Sums
import Turnstile.Proofs.Pool.Deeds
import Turnstile.Proofs.Pool.Losses
import Turnstile.Proofs.Pool.Deliveries
import Turnstile.Proofs.Pool.Survivors
import Turnstile.Proofs.Pool.Panics
import Turnstile.Proofs.Pool.Counting
import Turnstile.Proofs.Pool.Scans
import Turnstile.Proofs.Pool.Balance
import Turnstile.Proofs.Pool.Bodies
import Turnstile.Proofs.Pool.Outcomes
import Turnstile.Proofs.Pool.Once
import Turnstile.Proofs.Pool.Collections
import Turnstile.Proofs.Pool.Asking
import Turnstile.Proofs.Pool.Handles
