import FrontierBus.Connection
import FrontierBus.Lag
import FrontierBus.Record

/-!
# Requests to the log

Everything that the bus asks of a partitioned log is a request with an answer of its own type.
What serves requests is a transport: the log in memory, or one whose answers were written
beforehand. An answer comes after a delay; a delivery may also stay without an answer, and a poll
may find nothing yet.
-/

namespace FrontierBus

/-- A consumer session: a member of a group on a topic. -/
structure Reader where
  topic : String
  group : String
  member : Nat
  deriving Repr, DecidableEq

/-- A request to the log. -/
inductive Request where
  | partitionCount (topic : String)
  /-- Opens a consumer session. -/
  | join (topic group : String) (assignment : Assignment)
  | openProducer (topic : String) (connection : Connection)
  | openProbe (topic group : String)
  /-- The next messages, at most `limit`. -/
  | poll (reader : Reader) (limit : Nat) (patience : Nat)
  | position (reader : Reader) (partition : Nat)
  | committed (reader : Reader) (partition : Nat)
  /-- Makes the positions of the session the checkpoints of its group. -/
  | commit (reader : Reader)
  /-- Closes a consumer session. -/
  | leave (reader : Reader)
  | deliver (topic : String) (records : List Record)
  | closeProducer (topic : String)
  | offsets (topic group : String) (count : Nat)
  deriving DecidableEq

/-- The answer that a request asks for. A consumer session is answered by its member number. The
answer to a poll is `none` if there is nothing to hand out yet, and the answer to a delivery is
`none` if there will never be a report. -/
@[reducible]
def Request.Answer : Request → Type
  | partitionCount _ => Except Fault Nat
  | join .. => Except Fault Nat
  | openProducer .. => Except Fault Unit
  | openProbe .. => Except Fault Unit
  | poll .. => Except Fault (Option (List Message))
  | position .. => Except Fault Nat
  | committed .. => Except Fault (Option Nat)
  | commit _ => Except Fault Unit
  | leave _ => Unit
  | deliver .. => Option Report
  | closeProducer _ => Unit
  | offsets .. => Except Fault (List PartitionOffsets)

/-- An answer, and how long it takes. -/
structure Reply (request : Request) where
  delay : Nat
  answer : request.Answer

/-- What serves requests. Besides requests there are events, which befall a log from outside. -/
class Transport (Log : Type) where
  /-- Serves a request. -/
  serve : (request : Request) → Log → Reply request × Log
  /-- The partitions that a session owns. -/
  assigned : Reader → Log → List Nat
  /-- The log itself waits for the messages that a poll of a session asks for, until a deadline. -/
  setsDeadline : Reader → Log → Bool
  /-- How many deliveries have arrived. A poll that found nothing is repeated when it changes. -/
  arrivals : Log → Nat
  /-- No delivery arrives by a poll. -/
  arrivals_poll (reader : Reader) (limit patience : Nat) (log : Log) :
    arrivals (serve (.poll reader limit patience) log).2 = arrivals log
  /-- What befalls the log from outside. -/
  Event : Type
  /-- What an event tells its author. -/
  Outcome : Event → Type
  /-- Lets an event happen. -/
  happen : (event : Event) → Log → Outcome event × Log

end FrontierBus
