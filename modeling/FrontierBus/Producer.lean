import FrontierBus.Backoff
import FrontierBus.Settings.Basic
import FrontierBus.Timeline

/-!
# Producers

A producer holds records back and delivers them together: when enough of them have come together,
when the next ones would not fit, or when it is told to. A record leaves the buffer only when a
report acknowledges it, so what is delivered again is what failed, in the order in which it was
sent.
-/

namespace FrontierBus

/-- The sum of the sizes of records. -/
def Record.sizeOfAll : List Record → Nat
  | [] => 0
  | record :: records => record.size + sizeOfAll records

theorem Record.sizeOfAll_append (front back : List Record) :
    sizeOfAll (front ++ back) = sizeOfAll front + sizeOfAll back := by
  induction front with
  | nil => simp [sizeOfAll]
  | cons record front hypothesis => simp [sizeOfAll, hypothesis, Nat.add_assoc]

/-- Records held back, with the sum of their sizes. -/
structure Buffer where
  records : Array Record
  bytes : Nat
  bytes_eq : bytes = Record.sizeOfAll records.toList
  deriving DecidableEq

namespace Buffer

/-- The buffer with just these records. -/
def ofRecords (records : List Record) : Buffer where
  records := records.toArray
  bytes := Record.sizeOfAll records
  bytes_eq := by simp

/-- Nothing held back. -/
def empty : Buffer := ofRecords []

/-- The buffer with more records at its end. -/
def append (buffer : Buffer) (records : List Record) : Buffer where
  records := buffer.records ++ records
  bytes := buffer.bytes + Record.sizeOfAll records
  bytes_eq := by simp [buffer.bytes_eq, Record.sizeOfAll_append]

/-- The records held back, in the order in which they were sent. -/
def toList (buffer : Buffer) : List Record :=
  buffer.records.toList

/-- Nothing is held back. -/
def isEmpty (buffer : Buffer) : Bool :=
  buffer.records.isEmpty

end Buffer

namespace Report

/-- The records of a delivery that the report does not acknowledge. Of records that it says nothing
about, none is acknowledged; outcomes beyond the last record mean nothing. -/
def unacknowledged : List Record → List (Except Fault Unit) → List Record
  | [], _ => []
  | records, [] => records
  | _ :: records, .ok _ :: outcomes => unacknowledged records outcomes
  | record :: records, .error _ :: outcomes => record :: unacknowledged records outcomes

/-- The first fault among the outcomes of the records. -/
def firstFault : List Record → List (Except Fault Unit) → Option Fault
  | [], _ | _, [] => none
  | _ :: records, .ok _ :: outcomes => firstFault records outcomes
  | _ :: _, .error fault :: _ => some fault

end Report

/-- A producer of records for one topic. -/
structure Producer where
  topic : String
  connection : Connection
  buffer : Buffer
  closed : Bool
  deriving DecidableEq

namespace Producer

variable {Log : Type} [Transport Log]

/-- A producer that holds nothing back yet. -/
def create (topic : String) (connection : Connection) : Producer :=
  ⟨topic, connection, .empty, false⟩

/-- How a delivery is repeated: the number of retries, a word of 32 bits, and the first attempt. -/
def backoff (producer : Producer) : Backoff :=
  Backoff.standard.withMaxAttempts (min (producer.connection.retries + 1) (Word.count32 - 1))

/-- The fault of a delivery that is not acknowledged in time. -/
def timeout (producer : Producer) : Fault :=
  .produceTimeout producer.connection.maxBlock

/-- The producer after a report, and why records are still held back, if some are. -/
def settle (producer : Producer) (report : Report) : Option Fault × Producer :=
  let sent := producer.buffer.toList
  let kept := Report.unacknowledged sent report.outcomes
  let fault := (Report.firstFault sent report.outcomes).getD (.refused .missingOutcome)
  (if kept.isEmpty then none else some fault,
    { producer with buffer := Buffer.ofRecords kept })

/-- What a delivery comes to. -/
inductive Delivery where
  | complete
  | failed (fault : Fault)
  /-- No report came in time. -/
  | late

/-- Delivers what is held back, and waits for the report until a deadline. -/
def deliverBy (deadline : Nat) (producer : Producer) (line : Timeline Log) :
    Delivery × Producer × Timeline Log :=
  let (reply, asked) := line.serve (.deliver producer.topic producer.buffer.toList)
  match reply.answer with
  | none => (.late, producer, asked.pauseUntil deadline)
  | some report =>
    if asked.now + reply.delay ≤ deadline then
      let answered := asked.pauseUntil (asked.now + reply.delay)
      match producer.settle report with
      | (none, producer) => (.complete, producer, answered)
      | (some fault, producer) => (.failed fault, producer, answered)
    else (.late, producer, asked.pauseUntil deadline)

/-- Delivers until nothing is held back, a record fails for good, no attempt is spare, or the
deadline would pass before the next attempt. -/
def deliveries (deadline : Nat) :
    (spare attempt : Nat) → Producer → Timeline Log →
      Except Fault Unit × Producer × Timeline Log
  | spare, attempt, producer, line =>
    match producer.deliverBy deadline line with
    | (.complete, producer, line) => (.ok (), producer, line)
    | (.late, producer, line) => (.error producer.timeout, producer, line)
    | (.failed fault, producer, line) =>
      if fault.isTransient then
        match spare with
        | 0 => (.error fault, producer, line)
        | spare + 1 =>
          let next := line.now + producer.backoff.delay attempt
          let line := line.reckon next
          if deadline ≤ next then (.error producer.timeout, producer, line.pauseUntil deadline)
          else deliveries deadline spare (attempt + 1) producer (line.pauseUntil next)
      else (.error fault, producer, line)

/-- Delivers what is held back, within the time that the connection sets for it. -/
def flush (producer : Producer) (line : Timeline Log) :
    Except Fault Unit × Producer × Timeline Log :=
  if producer.buffer.isEmpty then (.ok (), producer, line)
  else
    let deadline := line.now + producer.connection.maxBlock
    producer.deliveries deadline (producer.backoff.maxAttempts - 1) 1 (line.reckon deadline)

/-- The producer with records added to what it holds back. -/
def hold (producer : Producer) (records : List Record) : Producer :=
  { producer with buffer := producer.buffer.append records }

/-- Takes records that fit: holds them back, and delivers if a batch has come together. A delivery
that fails then is reported by the next one that is asked for. -/
def accept (records : List Record) (producer : Producer) (line : Timeline Log) :
    Except Fault Unit × Producer × Timeline Log :=
  let held := producer.hold records
  if held.connection.batchSize ≤ held.buffer.bytes then
    let (_, delivered) := held.flush line
    (.ok (), delivered)
  else (.ok (), held, line)

/-- Sends records: all of them are taken, or none. What is held back is delivered first if the
records would not fit beside it. -/
def send (records : List Record) (producer : Producer) (line : Timeline Log) :
    Except Fault Unit × Producer × Timeline Log :=
  let limit := producer.connection.maxRequestSize
  if producer.closed then (.error .closed, producer, line)
  else match records.find? fun record => limit < record.size with
    | some record => (.error (.messageTooLarge record.size limit), producer, line)
    | none =>
      if !producer.buffer.isEmpty &&
          producer.connection.bufferMemory < producer.buffer.bytes + Record.sizeOfAll records then
        match producer.flush line with
        | (.error fault, producer, line) => (.error fault, producer, line)
        | (.ok _, producer, line) => producer.accept records line
      else producer.accept records line

/-- Sends messages without keys. -/
def sendMessages (messages : List ByteArray) (producer : Producer) (line : Timeline Log) :
    Except Fault Unit × Producer × Timeline Log :=
  producer.send (messages.map fun payload => ⟨none, none, payload⟩) line

/-- Delivers what is held back and closes. If the delivery fails the producer stays open. -/
def close (producer : Producer) (line : Timeline Log) :
    Except Fault Unit × Producer × Timeline Log :=
  if producer.closed then (.ok (), producer, line)
  else match producer.flush line with
    | (.error fault, producer, line) => (.error fault, producer, line)
    | (.ok _, producer, line) =>
      (.ok (), { producer with closed := true }, (line.ask (.closeProducer producer.topic)).2)

/-- Gives a producer up: what it holds back is lost, and its session is closed if it is open. -/
def drop (producer : Producer) (line : Timeline Log) : Timeline Log :=
  if producer.closed then line else (line.ask (.closeProducer producer.topic)).2

end Producer

/-- A producer that routes every message by a key. -/
structure KeyedProducer where
  core : Producer
  partitioning : Partitioning
  partitions : Nat
  deriving DecidableEq

namespace KeyedProducer

variable {Log : Type} [Transport Log]

/-- The partition that a key is routed to. -/
def partitionFor (producer : KeyedProducer) (key : ByteArray) : Nat :=
  producer.partitioning.route key producer.partitions

/-- The record of a message under a key. -/
def routed (producer : KeyedProducer) (key payload : ByteArray) : Record :=
  ⟨some (producer.partitionFor key), some key, payload⟩

/-- Sends messages under a key. -/
def send (key : ByteArray) (messages : List ByteArray) (producer : KeyedProducer)
    (line : Timeline Log) : Except Fault Unit × KeyedProducer × Timeline Log :=
  let (answer, core, line) := producer.core.send (messages.map (producer.routed key)) line
  (answer, { producer with core }, line)

end KeyedProducer

end FrontierBus
