import FrontierBus.Timeline

/-!
# Consumers

A consumer reads for a group without moving the checkpoints. Only when it closes does it make its
positions the checkpoints; then its session ends, whether that succeeded or not.
-/

namespace FrontierBus

/-- A consumer with its session. -/
structure Consumer where
  reader : Reader
  closed : Bool
  deriving DecidableEq

namespace Consumer

variable {Log : Type} [Transport Log]

/-- The partitions that a consumer owns. -/
def assigned (consumer : Consumer) (line : Timeline Log) : List Nat :=
  if consumer.closed then [] else Transport.assigned consumer.reader line.log

/-- The next messages, at most `limit`, waiting for them for a span of time. -/
def pull (limit patience : Nat) (consumer : Consumer) (line : Timeline Log) :
    Except Fault (List Message) × Timeline Log :=
  if consumer.closed then (.error .closed, line) else line.poll consumer.reader limit patience

/-- A question about a partition that the consumer owns. -/
def askOwned {Answer : Type} (partition : Nat) (consumer : Consumer)
    (question : Timeline Log → Except Fault Answer × Timeline Log) (line : Timeline Log) :
    Except Fault Answer × Timeline Log :=
  if (consumer.assigned line).contains partition then question line
  else (.error (.notAssigned consumer.reader.topic partition), line)

/-- The checkpoint of the group in a partition, or the beginning. -/
def committedOffset (partition : Nat) (consumer : Consumer) (line : Timeline Log) :
    Except Fault Nat × Timeline Log :=
  consumer.askOwned partition (fun line =>
    let (answer, line) := line.ask (.committed consumer.reader partition)
    (answer.map (·.getD 0), line)) line

/-- The offset of the next message from a partition. -/
def position (partition : Nat) (consumer : Consumer) (line : Timeline Log) :
    Except Fault Nat × Timeline Log :=
  consumer.askOwned partition (Timeline.ask (.position consumer.reader partition)) line

/-- Checks off what was read, and ends the session. Closing again does nothing. -/
def close (consumer : Consumer) (line : Timeline Log) :
    Except Fault Unit × Consumer × Timeline Log :=
  if consumer.closed then (.ok (), consumer, line)
  else
    let (answer, line) := line.ask (.commit consumer.reader)
    (answer, { consumer with closed := true }, (line.ask (.leave consumer.reader)).2)

/-- Gives a consumer up: its session ends if it is open, and nothing is checked off. -/
def drop (consumer : Consumer) (line : Timeline Log) : Timeline Log :=
  if consumer.closed then line else (line.ask (.leave consumer.reader)).2

end Consumer

end FrontierBus
