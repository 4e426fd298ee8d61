import RuspiroVchiq.Lib.LabelledRun
import RuspiroVchiq.Lib.SlottedStream
import RuspiroVchiq.Vchiq.Completion
import RuspiroVchiq.Vchiq.QueueMessage
import RuspiroVchiq.Transmit.Reservation
import RuspiroVchiq.Transmit.Sequential
import RuspiroVchiq.Transmit.Concurrent
import RuspiroVchiq.Delivery.Rings
import RuspiroVchiq.Delivery.Backlog
import RuspiroVchiq.Delivery.Refinement
import RuspiroVchiq.Vchiq.Dispatch
import RuspiroVchiq.Receive.Stream
import RuspiroVchiq.Vchiq.Operations
import RuspiroVchiq.Vchi.Instance
import RuspiroVchiq.Vchiq.Endpoints
import RuspiroVchiq.Vchiq.CallEffects
import RuspiroVchiq.Vchi.Protocol
import RuspiroVchiq.Vchi.Lifecycle
import RuspiroVchiq.Vchi.Conformance
import RuspiroVchiq.Vchi.CloseHandshake
import RuspiroVchiq.Vchi.PendingCompletions
import RuspiroVchiq.Vchi.Exchange
import RuspiroVchiq.Delivery.Notices
import RuspiroVchiq.Delivery.Announcements
import RuspiroVchiq.Vchiq.Registry
import RuspiroVchiq.Vchiq.PortSupply
import RuspiroVchiq.Lib.DistinctCount
import RuspiroVchiq.Quota.Accounting
import RuspiroVchiq.Quota.Sequential
import RuspiroVchiq.Quota.Concurrent
import RuspiroVchiq.Vchiq.ConcurrentClose
import RuspiroVchiq.Lib.GuardPrograms
import RuspiroVchiq.Vchiq.StateLocks
import RuspiroVchiq.Vchi.PollGuards
import RuspiroVchiq.Vchi.Suspension
import RuspiroVchiq.Vchiq.ServiceRecords
import RuspiroVchiq.Vchi.Services
import RuspiroVchiq.Lib.RoundUp
import RuspiroVchiq.Vchi.DataRouting
import RuspiroVchiq.Vchi.MessageWrites
import RuspiroVchiq.Vchi.OpenAnswer
import RuspiroVchiq.Receive.Termination
import RuspiroVchiq.Receive.ReadBounds
import RuspiroVchiq.Lib.CyclicWalk
import RuspiroVchiq.Receive.PollEnd
import RuspiroVchiq.Lib.Regions
import RuspiroVchiq.Vchiq.SharedMemory
import RuspiroVchiq.Lib.Unwinding
import RuspiroVchiq.Delivery.Schedule
import RuspiroVchiq.Delivery.Cancellation
import RuspiroVchiq.Shared.Event
import RuspiroVchiq.Vchiq.HandOver
import RuspiroVchiq.Lib.NextFit
import RuspiroVchiq.Transmit.Capacity
import RuspiroVchiq.Vchi.Semaphores
import RuspiroVchiq.Vchi.Wakeups
import RuspiroVchiq.Delivery.InOrder
import RuspiroVchiq.Vchi.ClientDelivery
import RuspiroVchiq.Lib.OccupiedCells
import RuspiroVchiq.Delivery.Causes
import RuspiroVchiq.Vchi.Callbacks
import RuspiroVchiq.Vchi.SharedSlots
import RuspiroVchiq.Vchi.EndToEnd
import RuspiroVchiq.Vchi.WireTransmit
