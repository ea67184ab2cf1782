import FrontierBus.Proofs.Broker.Laying
import FrontierBus.Proofs.Producer.Calls

/-!
# Producers on a broker

On a broker every report is in time and takes out of the buffer all that was delivered or nothing.
So over any call the records that are acknowledged, followed by those that are held back then, are
those that were held back before it, followed by those that it has taken.
-/

namespace FrontierBus

namespace Producer

open Broker

section Emptying

variable {Log : Type} [Transport Log] {producer : Producer} {line : Timeline Log}

theorem toList_of_deliverBy_complete {deadline : Nat} {changed : Producer} {later : Timeline Log}
    (delivered : producer.deliverBy deadline line = (.complete, changed, later)) :
    changed.buffer.toList = [] := by
  simp only [deliverBy] at delivered
  split at delivered
  · cases delivered
  · rename_i report _
    split at delivered
    · split at delivered
      · rename_i settled isSettled
        cases delivered
        simp only [settle, Prod.mk.injEq] at isSettled
        rcases isSettled with ⟨noFault, rfl⟩
        split at noFault
        · rename_i nothingKept
          simpa [Buffer.ofRecords, Buffer.toList] using nothingKept
        · cases noFault
      · cases delivered
    · cases delivered

/-- Deliveries that succeed leave nothing behind. -/
theorem toList_of_deliveries_ok {deadline spare attempt : Nat}
    (answered : (producer.deliveries deadline spare attempt line).1 = .ok ()) :
    (producer.deliveries deadline spare attempt line).2.1.buffer.toList = [] := by
  fun_induction deliveries deadline spare attempt producer line with
  | case1 spare attempt producer line changed later delivered =>
      exact toList_of_deliverBy_complete delivered
  | case5 attempt producer line fault changed later delivered transient spare next reckoned
      notLate hypothesis => exact hypothesis answered
  | _ => cases answered

/-- A flush that succeeds leaves nothing behind. -/
theorem toList_of_flush_ok (answered : (producer.flush line).1 = .ok ()) :
    (producer.flush line).2.1.buffer.toList = [] := by
  simp only [flush] at answered ⊢
  split
  · rename_i isEmpty
    simpa [Buffer.isEmpty, Buffer.toList] using isEmpty
  · rename_i notEmpty
    rw [if_neg notEmpty] at answered
    exact toList_of_deliveries_ok answered

end Emptying

variable {topic : String} {count deadline : Nat} {producer changed last : Producer}
  {line between ended : Timeline Broker}

/-- A producer meets a broker with its topic, and holds back records that fit it; nothing if it is
closed. -/
structure Ready (topic : String) (count : Nat) (producer : Producer) (broker : Broker) : Prop where
  topic_eq : producer.topic = topic
  offers : broker.Offers topic count
  fits : ∀ record ∈ producer.buffer.toList, record.Fits count
  nothing : producer.closed = true → producer.buffer.toList = []

/-- From one timeline to a later one a producer takes nothing, and what is acknowledged, followed by
what is held back then, is what was held back. -/
structure Drains (topic : String) (count : Nat) (producer : Producer) (line : Timeline Broker)
    (changed : Producer) (ended : Timeline Broker) (occurred : List (Occurrence Broker)) : Prop where
  comes : line.Comes occurred ended
  suited : Suited topic count (occurred.filterMap Occurrence.exchange?)
  topic_eq : changed.topic = producer.topic
  closed_eq : changed.closed = producer.closed
  conserves : storedBy (occurred.filterMap Occurrence.exchange?) ++ changed.buffer.toList =
    producer.buffer.toList

namespace Drains

variable {front back occurred : List (Occurrence Broker)}

theorem nothing (line : Timeline Broker) : Drains topic count producer line producer line [] where
  comes := .nothing line
  suited := by simp [Suited]
  topic_eq := rfl
  closed_eq := rfl
  conserves := rfl

theorem reckoned (moment : Nat) (line : Timeline Broker) :
    Drains topic count producer line producer (line.reckon moment) [] where
  comes := .still rfl rfl rfl rfl
  suited := by simp [Suited]
  topic_eq := rfl
  closed_eq := rfl
  conserves := rfl

theorem trans (first : Drains topic count producer line changed between front)
    (second : Drains topic count changed between last ended back) :
    Drains topic count producer line last ended (front ++ back) where
  comes := first.comes.append second.comes
  suited := by
    rw [List.filterMap_append]
    exact first.suited.append second.suited
  topic_eq := second.topic_eq.trans first.topic_eq
  closed_eq := second.closed_eq.trans first.closed_eq
  conserves := by
    rw [List.filterMap_append, storedBy_append, List.append_assoc, second.conserves,
      first.conserves]

/-- Requests that are no deliveries change nothing for the producer. -/
theorem quiet (comes : line.Comes occurred ended)
    (quiet : Timeline.Quiet (occurred.filterMap Occurrence.exchange?)) (producer : Producer) :
    Drains topic count producer line producer ended occurred where
  comes := comes
  suited := suited_of_quiet quiet
  topic_eq := rfl
  closed_eq := rfl
  conserves := by rw [storedBy_of_quiet quiet, List.nil_append]

theorem wait (drains : Drains topic count producer line changed ended occurred) (moment : Nat) :
    ∃ more, Drains topic count producer line changed (ended.pauseUntil moment)
      (occurred ++ more) := by
  rcases Timeline.comes_pauseUntil moment ended with ⟨waited, waits, aside⟩
  exact ⟨waited, drains.trans (.quiet waits aside.quiet changed)⟩

end Drains

theorem Ready.drains {occurred : List (Occurrence Broker)} (ready : producer.Ready topic count line.log)
    (drains : Drains topic count producer line changed ended occurred) :
    changed.Ready topic count ended.log where
  topic_eq := drains.topic_eq.trans ready.topic_eq
  offers := (Offers.lasting topic count).comes ready.offers drains.comes
  fits := by
    intro record held
    apply ready.fits
    rw [← drains.conserves]
    exact List.mem_append_right _ held
  nothing := by
    intro isClosed
    have before := ready.nothing (drains.closed_eq ▸ isClosed)
    rw [← drains.conserves, List.append_eq_nil_iff] at before
    exact before.2

/-- On a broker the report on a delivery comes at once, and settles it. -/
theorem snd_deliverBy (inTime : line.now ≤ deadline) (producer : Producer) :
    (producer.deliverBy deadline line).2 =
      ((producer.settle (line.log.deliver producer.topic producer.buffer.toList).1).2,
        (line.serve (.deliver producer.topic producer.buffer.toList)).2.pauseUntil line.now) := by
  have answered : (line.serve (.deliver producer.topic producer.buffer.toList)).1 =
      ⟨0, some (line.log.deliver producer.topic producer.buffer.toList).1⟩ := rfl
  have sameMoment :
      (line.serve (.deliver producer.topic producer.buffer.toList)).2.now = line.now := rfl
  simp only [deliverBy, answered, sameMoment, Nat.add_zero, if_pos inTime]
  split
  · rename_i changed settled
    rw [settled]
  · rename_i fault changed settled
    rw [settled]

/-- A report that says the same of all records settles all of them or none. -/
theorem toList_settle_uniform (producer : Producer) (outcome : Except Fault Unit) :
    (producer.settle (.uniform producer.buffer.toList.length outcome)).2.buffer.toList =
      if outcome.isOk then [] else producer.buffer.toList := by
  have kept : (producer.settle (.uniform producer.buffer.toList.length outcome)).2.buffer.toList =
      Report.unacknowledged producer.buffer.toList
        (List.replicate producer.buffer.toList.length outcome) := by
    simp [settle, Buffer.ofRecords, Buffer.toList, Report.uniform]
  rw [kept]
  generalize producer.buffer.toList = records
  induction records with
  | nil => simp [Report.unacknowledged]
  | cons record records hypothesis =>
      rw [List.length_cons, List.replicate_succ]
      cases outcome with
      | ok _ => exact hypothesis
      | error fault => exact congrArg (record :: ·) hypothesis

theorem deliverBy_drains (ready : producer.Ready topic count line.log) (inTime : line.now ≤ deadline) :
    ∃ occurred, Drains topic count producer line (producer.deliverBy deadline line).2.1
      (producer.deliverBy deadline line).2.2 occurred := by
  rcases ready with ⟨rfl, offers, fits, _⟩
  have uniform : ∃ outcome, (line.log.deliver producer.topic producer.buffer.toList).1 =
      .uniform producer.buffer.toList.length outcome := by
    rcases deliver_of_offers offers fits with ⟨cause, missed, _⟩ | ⟨stored, _⟩
    · exact ⟨_, missed⟩
    · exact ⟨_, stored⟩
  rcases uniform with ⟨outcome, reported⟩
  let delivery : Exchange := ⟨line.now, .deliver producer.topic producer.buffer.toList,
    (line.serve (.deliver producer.topic producer.buffer.toList)).1⟩
  have stored : delivery.stored = if outcome.isOk then producer.buffer.toList else [] :=
    Exchange.stored_of_uniform (congrArg some reported)
  have suits : Suited producer.topic count [delivery] := by
    intro exchange present
    rw [List.mem_singleton.mp present]
    exact ⟨rfl, fits⟩
  rcases Timeline.comes_pauseUntil line.now
    (line.serve (.deliver producer.topic producer.buffer.toList)).2 with ⟨waited, waits, aside⟩
  have delivers : line.Comes (.request delivery :: waited)
      ((line.serve (.deliver producer.topic producer.buffer.toList)).2.pauseUntil line.now) :=
    (Timeline.Comes.asked _ line).cons waits
  rw [snd_deliverBy inTime]
  refine ⟨_, delivers, suits.append (suited_of_quiet aside.quiet), rfl, rfl, ?_⟩
  have acknowledged : storedBy ((.request delivery :: waited).filterMap Occurrence.exchange?) =
      if outcome.isOk then producer.buffer.toList else [] := by
    rw [← stored, ← List.append_nil delivery.stored, ← storedBy_of_quiet aside.quiet]
    rfl
  rw [acknowledged, reported, toList_settle_uniform]
  split
  · exact List.append_nil _
  · rfl

theorem deliveries_drains {spare attempt : Nat} (ready : producer.Ready topic count line.log)
    (inTime : line.now ≤ deadline) :
    ∃ occurred, Drains topic count producer line
      (producer.deliveries deadline spare attempt line).2.1
      (producer.deliveries deadline spare attempt line).2.2 occurred := by
  fun_induction deliveries deadline spare attempt producer line with
  | case4 attempt producer line fault changed later delivered transient spare next reckoned
      beyond =>
      rcases deliverBy_drains ready inTime with ⟨first, drains⟩
      rw [delivered] at drains
      rcases (drains.trans (.reckoned next later)).wait deadline with ⟨waited, waits⟩
      exact ⟨_, waits⟩
  | case5 attempt producer line fault changed later delivered transient spare next reckoned
      notBeyond hypothesis =>
      rcases deliverBy_drains ready inTime with ⟨first, drains⟩
      rw [delivered] at drains
      rcases (drains.trans (.reckoned next later)).wait next with ⟨waited, waits⟩
      have notLate : ((later.reckon next).pauseUntil next).now ≤ deadline := by
        have begun : (later.reckon next).now ≤ next := Nat.le_add_right _ _
        rw [Timeline.now_pauseUntil]
        omega
      rcases hypothesis (ready.drains waits) notLate with ⟨rest, drainsRest⟩
      exact ⟨_, waits.trans drainsRest⟩
  | case1 spare attempt producer line changed later delivered
  | case2 spare attempt producer line changed later delivered
  | case3 attempt producer line fault changed later delivered transient
  | case6 spare attempt producer line fault changed later delivered permanent =>
      have drains := deliverBy_drains ready inTime
      rw [delivered] at drains
      exact drains

theorem flush_drains (ready : producer.Ready topic count line.log) :
    ∃ occurred, Drains topic count producer line (producer.flush line).2.1
      (producer.flush line).2.2 occurred := by
  simp only [flush]
  split
  · exact ⟨[], .nothing line⟩
  · let deadline := line.now + producer.connection.maxBlock
    have readyThen : producer.Ready topic count (line.reckon deadline).log := ready
    have inTime : (line.reckon deadline).now ≤ deadline := Nat.le_add_right _ _
    rcases deliveries_drains readyThen inTime with ⟨occurred, drains⟩
    exact ⟨_, (Drains.reckoned deadline line).trans drains⟩

theorem tries_drains {answer : Except Fault Unit} (ready : producer.Ready topic count line.log)
    (tries : producer.Tries line answer changed ended) :
    ∃ occurred, Drains topic count producer line changed ended occurred := by
  cases tries with
  | nothing => exact ⟨[], .nothing line⟩
  | flushed => exact flush_drains ready

theorem toList_hold (producer : Producer) (records : List Record) :
    (producer.hold records).buffer.toList = producer.buffer.toList ++ records := by
  simp [hold, Buffer.append, Buffer.toList]

theorem Ready.hold {records : List Record} (ready : producer.Ready topic count line.log)
    (isOpen : producer.closed = false) (fits : ∀ record ∈ records, record.Fits count) :
    (producer.hold records).Ready topic count line.log where
  topic_eq := ready.topic_eq
  offers := ready.offers
  fits := by
    intro record held
    rw [toList_hold] at held
    rcases List.mem_append.mp held with before | new
    · exact ready.fits record before
    · exact fits record new
  nothing := by
    intro isClosed
    have stillOpen : (producer.hold records).closed = false := isOpen
    rw [stillOpen] at isClosed
    cases isClosed

/-- Over a call, what is acknowledged, followed by what is held back then, is what was held back,
followed by what the call has taken. -/
structure Forwards (topic : String) (count : Nat) (producer : Producer) (line : Timeline Broker)
    (accepted : List Record) (changed : Producer) (ended : Timeline Broker)
    (occurred : List (Occurrence Broker)) : Prop where
  comes : line.Comes occurred ended
  suited : Suited topic count (occurred.filterMap Occurrence.exchange?)
  conserves : storedBy (occurred.filterMap Occurrence.exchange?) ++ changed.buffer.toList =
    producer.buffer.toList ++ accepted
  ready : changed.Ready topic count ended.log

theorem Drains.forwards {occurred : List (Occurrence Broker)}
    (drains : Drains topic count producer line changed ended occurred)
    (ready : producer.Ready topic count line.log) :
    Forwards topic count producer line [] changed ended occurred where
  comes := drains.comes
  suited := drains.suited
  conserves := by rw [drains.conserves, List.append_nil]
  ready := ready.drains drains

/-- Whatever the course of a call, it loses nothing and repeats nothing. -/
theorem course_forwards {call : Call} {records : List Record} {answer : Except Fault Unit}
    (ready : producer.Ready topic count line.log) (fits : ∀ record ∈ records, record.Fits count)
    (course : producer.Course line call records answer changed ended) :
    ∃ occurred, Forwards topic count producer line (if answer.isOk then records else []) changed
      ended occurred := by
  cases course with
  | refused fault => exact ⟨[], (Drains.nothing line).forwards ready⟩
  | again isClosed => exact ⟨[], (Drains.nothing line).forwards ready⟩
  | flushed nothingTaken =>
      rcases flush_drains ready with ⟨occurred, drains⟩
      have nothing : (if (producer.flush line).1.isOk then records else []) = [] := by
        split
        · rename_i answered
          exact nothingTaken answered
        · rfl
      rw [nothing]
      exact ⟨occurred, drains.forwards ready⟩
  | @took _ _ _ between made behind _ _ isOpen room after =>
      rcases tries_drains ready room with ⟨front, drains⟩
      have stillOpen := drains.closed_eq.trans isOpen
      have holding := (ready.drains drains).hold stillOpen fits
      rcases tries_drains holding after with ⟨back, drainsBack⟩
      refine ⟨front ++ back, drains.comes.append drainsBack.comes, ?_, ?_,
        holding.drains drainsBack⟩
      · rw [List.filterMap_append]
        exact drains.suited.append drainsBack.suited
      · rw [List.filterMap_append, storedBy_append, List.append_assoc, drainsBack.conserves,
          toList_hold, ← List.append_assoc, drains.conserves]
        rfl
  | closed answered =>
      rcases flush_drains ready with ⟨front, drains⟩
      rcases Timeline.comes_ask (.closeProducer (producer.flush line).2.1.topic)
        (producer.flush line).2.2 with ⟨back, closes, aside⟩
      have noDelivery : Timeline.Quiet ((.request ⟨(producer.flush line).2.2.now,
          .closeProducer (producer.flush line).2.1.topic,
          ((producer.flush line).2.2.serve (.closeProducer (producer.flush line).2.1.topic)).1⟩ ::
          back).filterMap Occurrence.exchange?) := by
        rw [Timeline.Quiet, List.filterMap_cons, Occurrence.exchange?, List.forall_mem_cons]
        exact ⟨rfl, aside.quiet⟩
      have all := drains.trans (.quiet closes noDelivery (producer.flush line).2.1)
      have flushed := ready.drains all
      refine ⟨_, all.comes, all.suited, ?_, flushed.topic_eq, flushed.offers, flushed.fits, ?_⟩
      · exact all.conserves.trans (List.append_nil _).symm
      · intro _
        exact toList_of_flush_ok answered

/-- A flush or a close that succeeds leaves nothing behind. -/
theorem toList_of_course_ok {call : Call} {records : List Record}
    (nothing : producer.closed = true → producer.buffer.toList = [])
    (course : producer.Course line call records (.ok ()) changed ended)
    (empties : call = .flush ∨ call = .close) : changed.buffer.toList = [] := by
  generalize answered : (.ok () : Except Fault Unit) = answer at course
  cases course with
  | refused fault => cases answered
  | again isClosed => exact nothing isClosed
  | flushed => exact toList_of_flush_ok answered.symm
  | took => simp at empties
  | closed flushed => exact toList_of_flush_ok flushed

end Producer

end FrontierBus
