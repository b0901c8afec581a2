import LongPoll.Main
import LongPoll.Playback
import LongPoll.Event.Trace
import LongPoll.PropertyBudget
import LongPoll.Stress
import LongPoll.Wire
import LongPoll.Proofs.History
import LongPoll.Proofs.Tracking
import LongPoll.Proofs.Invariant
import LongPoll.Proofs.Delivery
import LongPoll.Proofs.Decision
import LongPoll.Proofs.Failure
import LongPoll.Proofs.Following
import LongPoll.Proofs.Moves
import LongPoll.Proofs.Retry
import LongPoll.Proofs.Preemption
import LongPoll.Proofs.Linearization
import LongPoll.Proofs.Numbering
import LongPoll.Proofs.Capacity
import LongPoll.Proofs.Recovery
import LongPoll.Proofs.LateCopies
import LongPoll.Proofs.Opacity
import LongPoll.Proofs.EventTrace
import LongPoll.Proofs.Played
import LongPoll.Proofs.Conservation
import LongPoll.Proofs.SimulationReport
import LongPoll.Proofs.Asking
import LongPoll.Proofs.PositionText
import LongPoll.Proofs.Grammar
import LongPoll.Proofs.Reading
import LongPoll.Proofs.RoundTrip
import LongPoll.Proofs.RequestMembers
import LongPoll.Proofs.Choosing
import LongPoll.Proofs.Sharing
import LongPoll.Proofs.Lossless
import LongPoll.Proofs.Faults
import LongPoll.Proofs.InOrder
import LongPoll.Proofs.Descent
