import FrontierBus.Proofs.Broker.Bystanders
import FrontierBus.Proofs.Producer.Budget

/-!
# Producers on a broker that answers

As long as nothing gets in the way of requests, every delivery succeeds at once. So a producer takes
every record that is not too large, and what it holds back is told by its records and its limits
alone: those behind the last delivery that a full batch, or a lack of room, has brought about.
-/

namespace FrontierBus

open Broker

/-- What is held back once one more record has been taken, if every delivery succeeds. -/
def Connection.heldWith (connection : Connection) (held : List Record) (record : Record) :
    List Record :=
  let room := if held ≠ [] ∧ connection.bufferMemory < Record.sizeOfAll held + record.size then []
    else held
  if connection.batchSize ≤ Record.sizeOfAll (room ++ [record]) then [] else room ++ [record]

/-- What is held back of records that were taken one by one, if every delivery succeeds. -/
def Connection.heldOf (connection : Connection) (records : List Record) : List Record :=
  records.foldl connection.heldWith []

theorem Broker.reachable_run {broker : Broker} {actions : List Action} (reached : broker.Reachable)
    (calm : ∀ action ∈ actions, action.interrupts = false) : (broker.run actions).Reachable := by
  induction actions generalizing broker with
  | nil => exact reached
  | cons action actions hypothesis =>
      rw [List.forall_mem_cons] at calm
      exact hypothesis (reachable_step reached calm.1) calm.2

/-- Nothing gets in the way of requests, nor will anything that lies ahead. -/
structure Timeline.Calm (line : Timeline Broker) : Prop where
  reachable : line.log.Reachable
  ahead : ∀ action ∈ line.upcoming.map Prod.snd, action.interrupts = false

/-- It stays so, whatever comes to pass. -/
theorem Timeline.Calm.comes {line ended : Timeline Broker} {occurred : List (Occurrence Broker)}
    (calm : line.Calm) (comes : line.Comes occurred ended) : ended.Calm := by
  have ahead := calm.ahead
  rw [comes.upcoming_eq, List.forall_mem_append] at ahead
  refine ⟨?_, ahead.2⟩
  rw [run_of_comes comes]
  apply reachable_run calm.reachable
  intro action happens
  rcases List.mem_map.mp happens with ⟨occurrence, present, rfl⟩
  cases occurrence with
  | request exchange => rfl
  | event action => exact ahead.1 action (List.mem_filterMap.mpr ⟨_, present, rfl⟩)

theorem Connection.heldOf_concat (connection : Connection) (records : List Record)
    (record : Record) :
    connection.heldOf (records ++ [record]) =
      connection.heldWith (connection.heldOf records) record := by
  simp [heldOf]

namespace Producer

variable {topic : String} {count deadline : Nat} {producer : Producer} {line : Timeline Broker}
  {record : Record} {records : List Record}

theorem deliver_of_reachable {broker : Broker} (offers : broker.Offers topic count)
    (reached : broker.Reachable) (fits : ∀ record ∈ records, record.Fits count) :
    (broker.deliver topic records).1 = .uniform records.length (.ok ()) := by
  rcases offers with ⟨positive, found, exist, rfl⟩
  have stored := (Topic.appendAll_of_fits topic positive fits).1
  simp [deliver, interruption_of_reached reached, exist, stored, Report.uniform]

theorem deliverBy_of_reachable (ready : producer.Ready topic count line.log)
    (reached : line.log.Reachable) (inTime : line.now ≤ deadline) :
    (producer.deliverBy deadline line).1 = .complete := by
  rcases ready with ⟨rfl, offers, fits, _⟩
  have reported := deliver_of_reachable offers reached fits
  have answered : (line.serve (.deliver producer.topic producer.buffer.toList)).1 =
      ⟨0, some (line.log.deliver producer.topic producer.buffer.toList).1⟩ := rfl
  have sameMoment :
      (line.serve (.deliver producer.topic producer.buffer.toList)).2.now = line.now := rfl
  have settled := toList_settle_uniform producer (.ok ())
  have nothingKept : (Report.unacknowledged producer.buffer.toList
      (Report.uniform producer.buffer.toList.length (.ok ())).outcomes).isEmpty = true := by
    simpa [settle, Buffer.ofRecords, Buffer.toList, Except.isOk, Except.toBool] using settled
  simp only [deliverBy, answered, sameMoment, Nat.add_zero, if_pos inTime, reported, settle,
    nothingKept, if_true]

/-- A flush succeeds, and leaves nothing behind. -/
theorem flush_of_reachable (ready : producer.Ready topic count line.log)
    (reached : line.log.Reachable) : (producer.flush line).1 = .ok () := by
  simp only [flush]
  split
  · rfl
  · let deadline := line.now + producer.connection.maxBlock
    have readyThen : producer.Ready topic count (line.reckon deadline).log := ready
    have inTime : (line.reckon deadline).now ≤ deadline := Nat.le_add_right _ _
    have delivered := deliverBy_of_reachable readyThen reached inTime
    simp only [deadline] at delivered
    rw [deliveries]
    generalize producer.deliverBy _ (line.reckon _) = attempt at delivered
    rcases attempt with ⟨outcome, changed, later⟩
    cases delivered
    rfl

/-- A producer is open, has these limits, and holds back these records. -/
structure HoldsBack (connection : Connection) (held : List Record) (producer : Producer) : Prop where
  connection_eq : producer.connection = connection
  isOpen : producer.closed = false
  held_eq : producer.buffer.toList = held

namespace HoldsBack

variable {connection : Connection} {held : List Record}

theorem hold (holds : producer.HoldsBack connection held) (records : List Record) :
    (producer.hold records).HoldsBack connection (held ++ records) where
  connection_eq := holds.connection_eq
  isOpen := holds.isOpen
  held_eq := by rw [toList_hold, holds.held_eq]

theorem bytes_eq (holds : producer.HoldsBack connection held) :
    producer.buffer.bytes = Record.sizeOfAll held := by
  rw [producer.buffer.bytes_eq, ← holds.held_eq]
  rfl

theorem isEmpty_eq (holds : producer.HoldsBack connection held) :
    producer.buffer.isEmpty = decide (held = []) := by
  rw [← holds.held_eq]
  simp [Buffer.isEmpty, Buffer.toList, Array.isEmpty]

theorem flush (holds : producer.HoldsBack connection held)
    (ready : producer.Ready topic count line.log) (reached : line.log.Reachable) :
    (producer.flush line).1 = .ok () ∧ (producer.flush line).2.1.HoldsBack connection [] := by
  have answered := flush_of_reachable ready reached
  rcases flush_drains ready with ⟨_, drains⟩
  exact ⟨answered, (flush_sheds producer line).connection_eq.trans holds.connection_eq,
    drains.closed_eq.trans holds.isOpen, toList_of_flush_ok answered⟩

/-- A record that is taken goes out at once with all that is held back, if that makes a batch. -/
theorem accept (holds : producer.HoldsBack connection held)
    (ready : producer.Ready topic count line.log) (reached : line.log.Reachable)
    (fits : record.Fits count) :
    (producer.accept [record] line).1 = .ok () ∧
      (producer.accept [record] line).2.1.HoldsBack connection
        (if connection.batchSize ≤ Record.sizeOfAll (held ++ [record]) then []
          else held ++ [record]) := by
  have holding := holds.hold [record]
  simp only [Producer.accept, holding.connection_eq, holding.bytes_eq]
  split
  · have readyToo := ready.hold holds.isOpen (List.forall_mem_singleton.mpr fits)
    exact ⟨rfl, (holding.flush readyToo reached).2⟩
  · exact ⟨rfl, holding⟩

/-- A record that is too large changes nothing. -/
theorem send_tooLarge (holds : producer.HoldsBack connection held)
    (tooLarge : connection.maxRequestSize < record.size) (line : Timeline Broker) :
    producer.send [record] line =
      (.error (.messageTooLarge record.size connection.maxRequestSize), producer, line) := by
  have found : [record].find? (fun record => connection.maxRequestSize < record.size) =
      some record := by
    simp [tooLarge]
  simp only [Producer.send, holds.isOpen, holds.connection_eq, found, Bool.false_eq_true, if_false]

/-- A record that is not too large is taken. If there is no room for it, all that is held back goes
out first and the record begins anew. -/
theorem send (holds : producer.HoldsBack connection held)
    (ready : producer.Ready topic count line.log) (calm : line.Calm) (fits : record.Fits count)
    (small : record.size ≤ connection.maxRequestSize) :
    (producer.send [record] line).1 = .ok () ∧
      (producer.send [record] line).2.1.HoldsBack connection (connection.heldWith held record) := by
  have notTooLarge : [record].find? (fun record => connection.maxRequestSize < record.size) =
      none := by
    simp [Nat.not_lt.mpr small]
  have sizes : Record.sizeOfAll [record] = record.size := Nat.add_zero _
  simp only [Producer.send, holds.isOpen, holds.connection_eq, notTooLarge, holds.bytes_eq, sizes]
  by_cases full : held ≠ [] ∧ connection.bufferMemory < Record.sizeOfAll held + record.size
  · have something : producer.buffer.isEmpty = false := by
      simpa [holds.isEmpty_eq] using full.1
    rcases holds.flush ready calm.reachable with ⟨answered, emptied⟩
    rcases flush_drains ready with ⟨_, drains⟩
    have accepted := emptied.accept (ready.drains drains) (calm.comes drains.comes).reachable fits
    generalize producer.flush line = flushed at answered accepted
    rcases flushed with ⟨answer, changed, later⟩
    cases answered
    simpa [Connection.heldWith, full, something] using accepted
  · have room : (!producer.buffer.isEmpty &&
        decide (connection.bufferMemory < Record.sizeOfAll held + record.size)) = false := by
      simpa [holds.isEmpty_eq] using full
    have accepted := holds.accept ready calm.reachable fits
    simpa [Connection.heldWith, full, room] using accepted

/-- A close succeeds. -/
theorem close (holds : producer.HoldsBack connection held)
    (ready : producer.Ready topic count line.log) (reached : line.log.Reachable) :
    (producer.close line).1 = .ok () := by
  have answered := (holds.flush ready reached).1
  simp only [Producer.close, holds.isOpen, Bool.false_eq_true, if_false]
  generalize producer.flush line = flushed at answered
  rcases flushed with ⟨answer, changed, later⟩
  cases answered
  rfl

end HoldsBack

end Producer

end FrontierBus
