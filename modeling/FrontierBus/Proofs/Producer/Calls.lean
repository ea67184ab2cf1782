import FrontierBus.Bus
import FrontierBus.Proofs.Producer.Ledger

/-!
# Calls of a producer

A producer is called to send, to flush and to close, in any order and at any time. What it holds
back is at every point what its ledger has outstanding, whatever the transport answers: a call takes
its records or none of them, and nothing but a report in time takes a record out.
-/

namespace FrontierBus

/-- A call of a producer. A key is only looked at by a producer that routes by keys. -/
inductive Call where
  | send (key : ByteArray) (messages : List ByteArray)
  | flush
  | close

/-- What came of a call. -/
structure Episode where
  call : Call
  /-- The records that the call sends. -/
  records : List Record
  answer : Except Fault Unit
  /-- The requests that were made during the call, the first one first. -/
  made : List Exchange

/-- The records that a call has taken: all that it sends, or none if it fails. -/
def Episode.accepted (episode : Episode) : List Record :=
  if episode.answer.isOk then episode.records else []

namespace StreamProducer

variable {Log : Type} [Transport Log]

/-- A producer that holds nothing back yet, with a routing among a number of partitions or without
one. -/
def create (topic : String) (connection : Connection) : Option (Partitioning × Nat) → StreamProducer
  | none => .plain (.create topic connection)
  | some (partitioning, partitions) => .keyed ⟨.create topic connection, partitioning, partitions⟩

theorem core_create (topic : String) (connection : Connection)
    (routing : Option (Partitioning × Nat)) :
    (create topic connection routing).core = .create topic connection := by
  cases routing with
  | none => rfl
  | some routing => rfl

/-- The records that a call sends. -/
def records (producer : StreamProducer) : Call → List Record
  | .send key messages =>
    match producer with
    | .plain _ => messages.map fun payload => ⟨none, none, payload⟩
    | .keyed producer => messages.map (producer.routed key)
  | .flush | .close => []

/-- The producer with its core exchanged. -/
def withCore (core : Producer) : StreamProducer → StreamProducer
  | .plain _ => .plain core
  | .keyed producer => .keyed { producer with core }

/-- Makes a call. -/
def perform (call : Call) (producer : StreamProducer) (line : Timeline Log) :
    Except Fault Unit × StreamProducer × Timeline Log :=
  match call, producer with
  | .send _ messages, .plain core =>
    let (answer, core, line) := core.sendMessages messages line
    (answer, .plain core, line)
  | .send key messages, .keyed producer =>
    let (answer, producer, line) := producer.send key messages line
    (answer, .keyed producer, line)
  | .flush, producer =>
    let (answer, core, line) := producer.core.flush line
    (answer, producer.withCore core, line)
  | .close, producer =>
    let (answer, core, line) := producer.core.close line
    (answer, producer.withCore core, line)

/-- Makes calls one after the other, and tells what came of each. Every call finds a timeline of its
own: whatever happens between two calls, and whatever the world is like at a call, is left open. -/
def performAll (producer : StreamProducer) :
    List (Call × Timeline Log) → StreamProducer × List Episode
  | [] => (producer, [])
  | (call, line) :: steps =>
    let (answer, changed, ended) := producer.perform call line
    let (last, episodes) := changed.performAll steps
    (last, ⟨call, producer.records call, answer, line.since ended⟩ :: episodes)

end StreamProducer

namespace Producer

variable {Log : Type} [Transport Log] {producer ready changed : Producer}
  {line between ended : Timeline Log}

/-- Nothing is done, or what is held back is delivered. -/
inductive Tries (producer : Producer) (line : Timeline Log) :
    Except Fault Unit → Producer → Timeline Log → Prop where
  | nothing : Tries producer line (.ok ()) producer line
  | flushed : Tries producer line (producer.flush line).1 (producer.flush line).2.1
      (producer.flush line).2.2

/-- What a call that sends these records comes to: it is refused, it is a flush and no more, it takes
its records between a flush that makes room and one that a full batch brings about, or it closes. -/
inductive Course (producer : Producer) (line : Timeline Log) :
    Call → List Record → Except Fault Unit → Producer → Timeline Log → Prop where
  | refused {call : Call} {records : List Record} (fault : Fault) :
      Course producer line call records (.error fault) producer line
  | again (isClosed : producer.closed = true) : Course producer line .close [] (.ok ()) producer line
  | flushed {call : Call} {records : List Record}
      (nothingTaken : (producer.flush line).1.isOk = true → records = []) :
      Course producer line call records (producer.flush line).1 (producer.flush line).2.1
        (producer.flush line).2.2
  | took {key : ByteArray} {messages : List ByteArray} {records : List Record}
      {ready changed : Producer} {between ended : Timeline Log} {answer : Except Fault Unit}
      (isOpen : producer.closed = false) (room : producer.Tries line (.ok ()) ready between)
      (behind : (ready.hold records).Tries between answer changed ended) :
      Course producer line (.send key messages) records (.ok ()) changed ended
  | closed (answered : (producer.flush line).1 = .ok ()) :
      Course producer line .close [] (.ok ()) { (producer.flush line).2.1 with closed := true }
        ((producer.flush line).2.2.ask (.closeProducer (producer.flush line).2.1.topic)).2

theorem accept_tries (records : List Record) (producer : Producer) (line : Timeline Log) :
    (producer.accept records line).1 = .ok () ∧
      ∃ answer, (producer.hold records).Tries line answer (producer.accept records line).2.1
        (producer.accept records line).2.2 := by
  simp only [accept]
  split
  · exact ⟨rfl, _, .flushed⟩
  · exact ⟨rfl, _, .nothing⟩

theorem course_send (key : ByteArray) (messages : List ByteArray) (records : List Record)
    (producer : Producer) (line : Timeline Log) :
    Course producer line (.send key messages) records (producer.send records line).1
      (producer.send records line).2.1 (producer.send records line).2.2 := by
  simp only [send]
  split
  · exact .refused _
  · rename_i notClosed
    have isOpen : producer.closed = false := by simpa using notClosed
    split
    · exact .refused _
    · split
      · cases flushes : producer.flush line with
        | mk answer rest =>
            cases answer with
            | error fault =>
                have course : Course producer line (.send key messages) records _ _ _ :=
                  .flushed (by simp [flushes, Except.isOk, Except.toBool])
                simpa [flushes] using course
            | ok _ =>
                have room : producer.Tries line (.ok ()) rest.1 rest.2 := by
                  have tries : producer.Tries line _ _ _ := .flushed
                  rwa [flushes] at tries
                rcases accept_tries records rest.1 rest.2 with ⟨accepted, answer, behind⟩
                simp only [accepted]
                exact .took isOpen room behind
      · rcases accept_tries records producer line with ⟨accepted, answer, behind⟩
        rw [accepted]
        exact .took isOpen .nothing behind

theorem course_close (producer : Producer) (line : Timeline Log) :
    Course producer line .close [] (producer.close line).1 (producer.close line).2.1
      (producer.close line).2.2 := by
  simp only [close]
  split
  · rename_i isClosed
    exact .again isClosed
  · cases flushes : producer.flush line with
    | mk answer rest =>
        cases answer with
        | error fault =>
            have course : Course producer line .close [] _ _ _ := .flushed fun _ => rfl
            simpa [flushes] using course
        | ok _ =>
            have answered : (producer.flush line).1 = .ok () := by rw [flushes]
            have course := Course.closed answered
            rw [flushes] at course
            exact course

end Producer

/-- Every call of a producer, with a routing or without one, has one of these courses. -/
theorem StreamProducer.course_perform {Log : Type} [Transport Log] (call : Call)
    (producer : StreamProducer) (line : Timeline Log) :
    producer.core.Course line call (producer.records call) (producer.perform call line).1
      (producer.perform call line).2.1.core (producer.perform call line).2.2 := by
  cases call with
  | send key messages =>
      cases producer with
      | plain core => exact Producer.course_send key messages _ core line
      | keyed routing => exact Producer.course_send key messages _ routing.core line
  | flush =>
      have course : producer.core.Course line .flush [] _ _ _ := .flushed fun _ => rfl
      cases producer with
      | plain core => exact course
      | keyed routing => exact course
  | close =>
      cases producer with
      | plain core => exact Producer.course_close core line
      | keyed routing => exact Producer.course_close routing.core line

namespace Ledger

/-- A ledger follows a call. A call that takes no records is at most a flush; a call to send takes
its records after a flush of what was there, and before one of what is there then. -/
inductive Follows (topic : String) (patience : Nat) : Ledger → Episode → Ledger → Prop where
  | flushed {ledger after : Ledger} {episode : Episode} (nothingTaken : episode.accepted = [])
      (flushes : ledger.Flushes topic patience episode.made after) :
      Follows topic patience ledger episode after
  | sent {ledger between after : Ledger} {key : ByteArray} {messages : List ByteArray}
      {records : List Record} {front back : List Exchange}
      (before : ledger.Flushes topic patience front between)
      (behind : (between.take records).Flushes topic patience back after) :
      Follows topic patience ledger ⟨.send key messages, records, .ok (), front ++ back⟩ after

/-- A ledger follows calls made one after the other. -/
inductive FollowsAll (topic : String) (patience : Nat) : Ledger → List Episode → Ledger → Prop where
  | done (ledger : Ledger) : FollowsAll topic patience ledger [] ledger
  | called {ledger between after : Ledger} {episode : Episode} {episodes : List Episode}
      (first : ledger.Follows topic patience episode between)
      (rest : FollowsAll topic patience between episodes after) :
      FollowsAll topic patience ledger (episode :: episodes) after

theorem Follows.taken_eq {topic : String} {patience : Nat} {ledger after : Ledger}
    {episode : Episode} (follows : ledger.Follows topic patience episode after) :
    after.taken = ledger.taken ++ episode.accepted := by
  cases follows with
  | flushed nothingTaken flushes => rw [flushes.taken_eq, nothingTaken, List.append_nil]
  | sent before behind =>
      rw [behind.taken_eq, taken_take, before.taken_eq]
      rfl

theorem FollowsAll.taken_eq {topic : String} {patience : Nat} {ledger after : Ledger}
    {episodes : List Episode} (follows : ledger.FollowsAll topic patience episodes after) :
    after.taken = ledger.taken ++ (episodes.map Episode.accepted).flatten := by
  induction follows with
  | done => simp
  | called first _ hypothesis =>
      rw [hypothesis, first.taken_eq, List.map_cons, List.flatten_cons, List.append_assoc]

end Ledger

namespace Producer

variable {Log : Type} [Transport Log] {topic : String} {connection : Connection}
  {producer : Producer} {ledger : Ledger}

/-- A producer for a topic holds back what a ledger has outstanding. -/
structure Keeps (topic : String) (connection : Connection) (ledger : Ledger) (producer : Producer) :
    Prop where
  topic_eq : producer.topic = topic
  connection_eq : producer.connection = connection
  held_eq : producer.buffer.toList = ledger.outstanding

theorem Keeps.hold (keeps : producer.Keeps topic connection ledger) (records : List Record) :
    (producer.hold records).Keeps topic connection (ledger.take records) where
  topic_eq := keeps.topic_eq
  connection_eq := keeps.connection_eq
  held_eq := by
    rw [Ledger.outstanding_take, ← keeps.held_eq]
    simp [Producer.hold, Buffer.append, Buffer.toList]

/-- A report takes out of the buffer what it takes out of the ledger. -/
theorem Keeps.settle (keeps : producer.Keeps topic connection ledger) (report : Report) :
    (producer.settle report).2.Keeps topic connection (ledger.acknowledge report.outcomes) where
  topic_eq := keeps.topic_eq
  connection_eq := keeps.connection_eq
  held_eq := by
    rw [Ledger.outstanding_acknowledge, ← keeps.held_eq]
    simp [Producer.settle, Buffer.ofRecords, Buffer.toList]

/-- Nothing is taken out of the buffer for a delivery without a report in time. -/
theorem Keeps.late (keeps : producer.Keeps topic connection ledger) :
    producer.Keeps topic connection (ledger.acknowledge []) where
  topic_eq := keeps.topic_eq
  connection_eq := keeps.connection_eq
  held_eq := by
    rw [Ledger.outstanding_acknowledge, Report.unacknowledged_nil]
    exact keeps.held_eq

/-- From one timeline to a later one a producer delivered, beginning at once with what was
outstanding, and the ledger has settled it. -/
def Delivered (topic : String) (connection : Connection) (deadline : Nat) (ledger : Ledger)
    (line : Timeline Log) (changed : Producer) (ended : Timeline Log) : Prop :=
  ∃ (reply : Reply (.deliver topic ledger.outstanding)) (made : List Exchange) (after : Ledger),
    line.Makes (⟨line.now, .deliver topic ledger.outstanding, reply⟩ :: made) ended ∧
    ledger.Settles topic deadline (⟨line.now, .deliver topic ledger.outstanding, reply⟩ :: made)
      after ∧
    changed.Keeps topic connection after

variable {changed last : Producer} {line between ended : Timeline Log} {deadline : Nat}

theorem Delivered.wait (delivered : Delivered topic connection deadline ledger line changed ended)
    (moment : Nat) :
    Delivered topic connection deadline ledger line changed (ended.pauseUntil moment) := by
  rcases delivered with ⟨reply, made, after, makes, settles, kept⟩
  rcases Timeline.makes_pauseUntil moment ended with ⟨waited, waits, quiet⟩
  exact ⟨reply, made ++ waited, after, makes.trans waits, settles.append (.quiet quiet), kept⟩

theorem Delivered.reckon
    (delivered : Delivered topic connection deadline ledger line changed ended) (moment : Nat) :
    Delivered topic connection deadline ledger line changed (ended.reckon moment) :=
  delivered

theorem Delivered.again
    (delivered : Delivered topic connection deadline ledger line changed between)
    (next : ∀ after : Ledger, changed.Keeps topic connection after →
      Delivered topic connection deadline after between last ended) :
    Delivered topic connection deadline ledger line last ended := by
  rcases delivered with ⟨reply, front, after, makes, settles, kept⟩
  rcases next after kept with ⟨_, back, final, makesMore, settlesMore, keptMore⟩
  exact ⟨reply, _, final, makes.trans makesMore, settles.append settlesMore, keptMore⟩

/-- A delivery hands out what is held back, and its report takes out of the buffer what it takes out
of the ledger. -/
theorem deliverBy_keeps (keeps : producer.Keeps topic connection ledger) (deadline : Nat)
    (line : Timeline Log) :
    ∃ (reply : Reply (.deliver topic ledger.outstanding)) (made : List Exchange),
      line.Makes (⟨line.now, .deliver topic ledger.outstanding, reply⟩ :: made)
        (producer.deliverBy deadline line).2.2 ∧
      Timeline.Quiet made ∧
      (producer.deliverBy deadline line).2.1.Keeps topic connection
        (ledger.acknowledge (Ledger.outcomesBy deadline line.now reply)) := by
  have sameTopic := keeps.topic_eq
  subst sameTopic
  rw [← keeps.held_eq]
  have asked := Timeline.makes_serve (.deliver producer.topic producer.buffer.toList) line
  have sameMoment :
      (line.serve (.deliver producer.topic producer.buffer.toList)).2.now = line.now := rfl
  simp only [deliverBy]
  generalize line.serve (.deliver producer.topic producer.buffer.toList) = served
    at asked sameMoment ⊢
  rcases served with ⟨⟨delay, answer⟩, later⟩
  simp only at asked sameMoment ⊢
  cases answer with
  | none =>
      rcases Timeline.makes_pauseUntil deadline later with ⟨made, waits, quiet⟩
      exact ⟨⟨delay, none⟩, made, asked.trans waits, quiet, keeps.late⟩
  | some report =>
      refine ⟨⟨delay, some report⟩, ?_⟩
      rw [sameMoment]
      by_cases inTime : line.now + delay ≤ deadline
      · rcases Timeline.makes_pauseUntil (line.now + delay) later with ⟨made, waits, quiet⟩
        refine ⟨made, ?_⟩
        have settled := keeps.settle report
        simp only [Ledger.outcomesBy, if_pos inTime]
        split
        · rename_i changed isChanged
          rw [isChanged] at settled
          exact ⟨asked.trans waits, quiet, settled⟩
        · rename_i fault changed isChanged
          rw [isChanged] at settled
          exact ⟨asked.trans waits, quiet, settled⟩
      · rcases Timeline.makes_pauseUntil deadline later with ⟨made, waits, quiet⟩
        refine ⟨made, ?_⟩
        simp only [Ledger.outcomesBy, if_neg inTime]
        exact ⟨asked.trans waits, quiet, keeps.late⟩

theorem deliverBy_delivered (keeps : producer.Keeps topic connection ledger) (deadline : Nat)
    (line : Timeline Log) :
    Delivered topic connection deadline ledger line (producer.deliverBy deadline line).2.1
      (producer.deliverBy deadline line).2.2 := by
  rcases deliverBy_keeps keeps deadline line with ⟨reply, made, makes, quiet, kept⟩
  exact ⟨reply, made, _, makes, .delivered (.quiet quiet), kept⟩

theorem deliveries_delivered (keeps : producer.Keeps topic connection ledger)
    (deadline spare attempt : Nat) (line : Timeline Log) :
    Delivered topic connection deadline ledger line
      (producer.deliveries deadline spare attempt line).2.1
      (producer.deliveries deadline spare attempt line).2.2 := by
  fun_induction deliveries deadline spare attempt producer line generalizing ledger with
  | case1 spare attempt producer line changed later delivered =>
      have first := deliverBy_delivered keeps deadline line
      rw [delivered] at first
      exact first
  | case2 spare attempt producer line changed later delivered =>
      have first := deliverBy_delivered keeps deadline line
      rw [delivered] at first
      exact first
  | case3 attempt producer line fault changed later delivered transient =>
      have first := deliverBy_delivered keeps deadline line
      rw [delivered] at first
      exact first
  | case4 attempt producer line fault changed later delivered transient spare next =>
      have first := deliverBy_delivered keeps deadline line
      rw [delivered] at first
      exact (first.reckon next).wait deadline
  | case5 attempt producer line fault changed later delivered transient spare next =>
      rename_i hypothesis
      have first := deliverBy_delivered keeps deadline line
      rw [delivered] at first
      exact ((first.reckon next).wait next).again fun after kept => hypothesis kept
  | case6 spare attempt producer line fault changed later delivered permanent =>
      have first := deliverBy_delivered keeps deadline line
      rw [delivered] at first
      exact first

/-- A flush keeps the producer in step with its ledger. -/
theorem flush_keeps (keeps : producer.Keeps topic connection ledger) (line : Timeline Log) :
    ∃ (made : List Exchange) (after : Ledger), line.Makes made (producer.flush line).2.2 ∧
      ledger.Flushes topic connection.maxBlock made after ∧
      (producer.flush line).2.1.Keeps topic connection after := by
  simp only [flush]
  split
  · exact ⟨[], ledger, .nothing line, .nothing _ _ _, keeps⟩
  · rcases deliveries_delivered keeps (line.now + producer.connection.maxBlock)
      (producer.backoff.maxAttempts - 1) 1 (line.reckon _) with
      ⟨reply, made, after, makes, settles, kept⟩
    rw [keeps.connection_eq] at settles
    exact ⟨_, after, makes, .started settles, kept⟩

theorem tries_keeps {answer : Except Fault Unit}
    (keeps : producer.Keeps topic connection ledger)
    (tries : producer.Tries line answer changed ended) :
    ∃ (made : List Exchange) (after : Ledger), line.Makes made ended ∧
      ledger.Flushes topic connection.maxBlock made after ∧
      changed.Keeps topic connection after := by
  cases tries with
  | nothing => exact ⟨[], ledger, .nothing line, .nothing _ _ _, keeps⟩
  | flushed => exact flush_keeps keeps line

/-- Whatever the course of a call, the ledger follows it. -/
theorem course_keeps {call : Call} {records : List Record} {answer : Except Fault Unit}
    (keeps : producer.Keeps topic connection ledger)
    (course : producer.Course line call records answer changed ended) :
    ∃ (made : List Exchange) (after : Ledger), line.Makes made ended ∧
      ledger.Follows topic connection.maxBlock ⟨call, records, answer, made⟩ after ∧
      changed.Keeps topic connection after := by
  cases course with
  | refused fault => exact ⟨[], ledger, .nothing line, .flushed rfl (.nothing _ _ _), keeps⟩
  | again isClosed => exact ⟨[], ledger, .nothing line, .flushed rfl (.nothing _ _ _), keeps⟩
  | flushed nothingTaken =>
      rcases flush_keeps keeps line with ⟨made, after, makes, flushes, kept⟩
      refine ⟨made, after, makes, .flushed ?_ flushes, kept⟩
      simp only [Episode.accepted]
      split
      · rename_i answered
        exact nothingTaken answered
      · rfl
  | took _ room behind =>
      rcases tries_keeps keeps room with ⟨front, between, makes, flushes, kept⟩
      rcases tries_keeps (kept.hold records) behind with
        ⟨back, after, makesBack, flushesBack, keptBack⟩
      exact ⟨front ++ back, after, makes.trans makesBack, .sent flushes flushesBack, keptBack⟩
  | closed answered =>
      rcases flush_keeps keeps line with ⟨made, after, makes, flushes, kept⟩
      rcases Timeline.makes_ask (.closeProducer (producer.flush line).2.1.topic) (fun _ _ => rfl)
        (producer.flush line).2.2 with ⟨closing, asks, quiet⟩
      exact ⟨made ++ closing, after, makes.trans asks, .flushed rfl (flushes.append_quiet quiet),
        ⟨kept.topic_eq, kept.connection_eq, kept.held_eq⟩⟩

end Producer

namespace StreamProducer

variable {Log : Type} [Transport Log] {topic : String} {connection : Connection}
  {producer : StreamProducer} {ledger : Ledger}

theorem performAll_keeps (keeps : producer.core.Keeps topic connection ledger)
    (steps : List (Call × Timeline Log)) :
    ∃ after, ledger.FollowsAll topic connection.maxBlock (producer.performAll steps).2 after ∧
      (producer.performAll steps).1.core.Keeps topic connection after := by
  induction steps generalizing producer ledger with
  | nil => exact ⟨ledger, .done ledger, keeps⟩
  | cons step steps hypothesis =>
      rcases step with ⟨call, line⟩
      rcases Producer.course_keeps keeps (course_perform call producer line) with
        ⟨made, between, makes, follows, kept⟩
      rcases hypothesis kept with ⟨after, followsRest, keptRest⟩
      rw [← makes.since_eq] at follows
      exact ⟨after, .called follows followsRest, keptRest⟩

theorem create_keeps (topic : String) (connection : Connection)
    (routing : Option (Partitioning × Nat)) :
    (create topic connection routing).core.Keeps topic connection .empty := by
  cases routing with
  | none => exact ⟨rfl, rfl, rfl⟩
  | some routing => exact ⟨rfl, rfl, rfl⟩

/-- After any calls a producer holds back, in the order in which they were sent, the records of the
calls to send that succeeded, without those that a report in time acknowledged; every delivery was
handed just what was held back at the time. -/
theorem buffer_eq_outstanding (topic : String) (connection : Connection)
    (routing : Option (Partitioning × Nat)) (steps : List (Call × Timeline Log)) :
    ∃ ledger : Ledger,
      Ledger.empty.FollowsAll topic connection.maxBlock
        ((create topic connection routing).performAll steps).2 ledger ∧
      ledger.taken =
        (((create topic connection routing).performAll steps).2.map Episode.accepted).flatten ∧
      ((create topic connection routing).performAll steps).1.core.buffer.toList =
        ledger.outstanding ∧
      ((create topic connection routing).performAll steps).1.core.buffer.bytes =
        Record.sizeOfAll ledger.outstanding := by
  rcases performAll_keeps (create_keeps topic connection routing) steps with
    ⟨ledger, follows, kept⟩
  refine ⟨ledger, follows, ?_, kept.held_eq, ?_⟩
  · rw [follows.taken_eq]
    rfl
  · rw [← kept.held_eq]
    exact Buffer.bytes_eq _

end StreamProducer

end FrontierBus
