import FrontierBus.Command.Run
import FrontierBus.Proofs.Bus.Presence
import FrontierBus.Proofs.Bus.Sending
import FrontierBus.Proofs.Producer.Promptness

/-!
# Sending lines

The lines of an input are sent one after the other and the producer is closed behind the last one.
On a broker that answers, a line that is taken has then arrived. If a line is not taken, or cannot be
read, the producer is given up instead, and what it still holds back is lost.
-/

namespace FrontierBus

open Broker

namespace Command

/-- The record of a line: routed under the key, or else under the line itself. -/
def recordOf (key : Option String) (text : String) : Option (Partitioning × Nat) → Record
  | none => ⟨none, none, text.toUTF8⟩
  | some (partitioning, count) =>
    let key := (key.getD text).toUTF8
    ⟨some (partitioning.route key count), some key, text.toUTF8⟩

/-- The lines that are to be sent, if all of them can be read. -/
def written (texts : List (Except InputFault String)) : List String :=
  (texts.filterMap Except.toOption).filter fun text => !text.isEmpty

/-- An input of which all lines can be read has not broken off. -/
theorem Input.broken_eq_none {input : Input} (readable : ∀ text ∈ input.lines, text.isOk = true) :
    input.broken = none := by
  cases broken : input.broken with
  | none => rfl
  | some reason =>
      have last : .error (.broken reason) ∈ input.lines := by simp [lines, broken]
      cases readable _ last

section Lines

variable {Log : Type} [Transport Log]

/-- To send a line is to call the producer. -/
theorem sendLine_eq (key : Option String) (text : String) (producer : StreamProducer)
    (line : Timeline Log) :
    sendLine key text producer line =
      producer.perform (.send (key.getD text).toUTF8 [text.toUTF8]) line := by
  cases producer with
  | plain core => rfl
  | keyed keyed => rfl

theorem records_sendLine (key : Option String) (text : String) (producer : StreamProducer) :
    producer.records (.send (key.getD text).toUTF8 [text.toUTF8]) =
      [recordOf key text producer.routing] := by
  cases producer with
  | plain core => rfl
  | keyed keyed => rfl

theorem perform_send (key : ByteArray) (messages : List ByteArray) (producer : StreamProducer)
    (line : Timeline Log) :
    let sent := producer.core.send (producer.records (.send key messages)) line
    (producer.perform (.send key messages) line).1 = sent.1 ∧
      (producer.perform (.send key messages) line).2.1.core = sent.2.1 ∧
      (producer.perform (.send key messages) line).2.2 = sent.2.2 := by
  cases producer with
  | plain core => exact ⟨rfl, rfl, rfl⟩
  | keyed keyed => exact ⟨rfl, rfl, rfl⟩

/-- Lines are taken from the first one on, and if none is refused all of them are. -/
theorem taken_prefix (key : Option String) (texts : List (Except InputFault String))
    (producer : StreamProducer) (line : Timeline Log) :
    (sendLines key texts producer line).1.taken <+: written texts ∧
      ((sendLines key texts producer line).1.failure = none →
        (sendLines key texts producer line).1.taken = written texts ∧
          ∀ text ∈ texts, text.isOk = true) := by
  fun_induction sendLines key texts producer line with
  | case1 => exact ⟨List.prefix_rfl, fun _ => ⟨rfl, List.forall_mem_nil _⟩⟩
  | case2 => exact ⟨List.nil_prefix, fun noFailure => by cases noFailure⟩
  | case3 text texts producer line isEmpty hypothesis =>
      have same : written (.ok text :: texts) = written texts := by
        simp [written, Except.toOption, isEmpty]
      rw [same, List.forall_mem_cons]
      exact ⟨hypothesis.1, fun noFailure => ⟨(hypothesis.2 noFailure).1, rfl,
        (hypothesis.2 noFailure).2⟩⟩
  | case4 => exact ⟨List.nil_prefix, fun noFailure => by cases noFailure⟩
  | case5 text texts producer line notEmpty _ changed later sent sending after rest hypothesis =>
      rw [rest] at hypothesis
      have next : written (.ok text :: texts) = text :: written texts := by
        simp [written, Except.toOption, notEmpty]
      rw [next, List.forall_mem_cons, List.cons_prefix_cons]
      refine ⟨⟨rfl, hypothesis.1⟩, fun noFailure => ?_⟩
      rcases hypothesis.2 noFailure with ⟨all, areTexts⟩
      exact ⟨congrArg _ all, rfl, areTexts⟩

theorem taken_prefix_of_sendAll (bus : Bus) (stream : Stream) (key : Option String)
    (texts : List (Except InputFault String)) (line : Timeline Log) :
    (sendAll bus stream key texts line).1.taken <+: written texts ∧
      ((sendAll bus stream key texts line).1.failure = none →
        (sendAll bus stream key texts line).1.taken = written texts ∧
          ∀ text ∈ texts, text.isOk = true) := by
  simp only [sendAll]
  split
  · exact ⟨List.nil_prefix, fun noFailure => by cases noFailure⟩
  · rename_i producer later _
    have taken := taken_prefix key texts producer later
    generalize sendLines key texts producer later = sent at taken ⊢
    rcases sent with ⟨⟨lines, failure⟩, changed, between⟩
    cases failure with
    | some failure => exact ⟨taken.1, fun noFailure => by cases noFailure⟩
    | none =>
        simp only
        split
        · exact ⟨taken.1, fun noFailure => by cases noFailure⟩
        · exact taken

end Lines

/-- What a producer has taken until now, on a broker that answers. -/
structure Carries (topic : String) (count : Nat) (partitioning : Option Partitioning)
    (connection : Connection) (start : Broker) (journal : List (Occurrence Broker))
    (accepted : List Record) (producer : StreamProducer) (line : Timeline Broker) : Prop where
  sends : Sends topic count partitioning start journal accepted producer
  holds : producer.core.HoldsBack connection (connection.heldOf accepted)
  present : line.log = journal.foldl Occurrence.befall start
  calm : line.Calm

namespace Carries

variable {topic : String} {count : Nat} {partitioning : Option Partitioning}
  {connection : Connection} {start : Broker} {journal : List (Occurrence Broker)}
  {accepted : List Record} {producer : StreamProducer} {line : Timeline Broker}

theorem opened (offers : start.Offers topic count) (connection : Connection)
    (partitioning : Option Partitioning) (calm : line.Calm) (present : line.log = start) :
    Carries topic count partitioning connection start [] [] (.create topic connection
      (partitioning.map fun partitioning => (partitioning, count))) line where
  sends := .opened offers connection partitioning
  holds := by
    rw [StreamProducer.core_create]
    exact ⟨rfl, rfl, rfl⟩
  present := present
  calm := calm

/-- A line that is not too large is taken, and held back or sent. -/
theorem sendLine (carries : Carries topic count partitioning connection start journal accepted
      producer line) (key : Option String) (text : String) :
    ∃ occurred, line.Comes occurred (sendLine key text producer line).2.2 ∧
      Carries topic count partitioning connection start (journal ++ occurred)
        (accepted ++ if (sendLine key text producer line).1.isOk then
          [recordOf key text (partitioning.map fun partitioning => (partitioning, count))] else [])
        (sendLine key text producer line).2.1 (sendLine key text producer line).2.2 := by
  let call : Call := .send (key.getD text).toUTF8 [text.toUTF8]
  have isRecord := records_sendLine key text producer
  have fits := fun record (isSent : record ∈ producer.records call) => carries.sends.fits isSent
  have ready := carries.sends.ready
  have core := perform_send (key.getD text).toUTF8 [text.toUTF8] producer line
  rw [carries.sends.routing_eq] at isRecord
  rw [isRecord] at fits core
  rw [← carries.present] at ready
  rw [sendLine_eq]
  rcases carries.sends.exists_forwards call carries.present with ⟨occurred, forwards⟩
  have called := carries.sends.called carries.present forwards.comes
  have isTaken : producer.taken call line = if (producer.perform call line).1.isOk then
      [recordOf key text (partitioning.map fun partitioning => (partitioning, count))] else [] := by
    rw [StreamProducer.taken, isRecord]
  rw [isTaken] at called
  refine ⟨occurred, forwards.comes, called, ?_, ?_, carries.calm.comes forwards.comes⟩
  · generalize recordOf key text (partitioning.map fun partitioning => (partitioning, count)) =
      record at fits core ⊢
    rcases Nat.lt_or_ge connection.maxRequestSize record.size with tooLarge | small
    · have refused := carries.holds.send_tooLarge tooLarge line
      rw [refused] at core
      rw [core.1, core.2.1]
      simpa [Except.isOk, Except.toBool] using carries.holds
    · have taken := carries.holds.send ready carries.calm (fits record (List.mem_singleton_self _))
        small
      rw [core.1, core.2.1, taken.1]
      have later := taken.2
      rw [← Connection.heldOf_concat] at later
      exact later
  · rw [forwards.comes.log_eq, carries.present, List.foldl_append]

theorem sendLines (carries : Carries topic count partitioning connection start journal accepted
      producer line) (key : Option String) (texts : List (Except InputFault String)) :
    ∃ occurred, line.Comes occurred (sendLines key texts producer line).2.2 ∧
      Carries topic count partitioning connection start (journal ++ occurred)
        (accepted ++ (sendLines key texts producer line).1.taken.map fun text =>
          recordOf key text (partitioning.map fun partitioning => (partitioning, count)))
        (sendLines key texts producer line).2.1 (sendLines key texts producer line).2.2 := by
  fun_induction Command.sendLines key texts producer line generalizing journal accepted with
  | case1 producer line
  | case2 fault texts producer line =>
      refine ⟨[], .nothing line, ?_⟩
      rw [List.append_nil, List.map_nil, List.append_nil]
      exact carries
  | case3 text texts producer line isEmpty hypothesis => exact hypothesis carries
  | case4 text texts producer line notEmpty fault changed later refused =>
      have sent := carries.sendLine key text
      rw [refused] at sent
      exact sent
  | case5 text texts producer line notEmpty _ changed later taken sending after rest hypothesis =>
      rcases carries.sendLine key text with ⟨front, comes, carried⟩
      rw [taken] at comes carried
      rcases hypothesis carried with ⟨back, comesMore, carriedMore⟩
      rw [rest] at comesMore carriedMore
      refine ⟨front ++ back, comes.append comesMore, ?_⟩
      rw [List.append_assoc, List.append_assoc] at carriedMore
      exact carriedMore

/-- What a producer has taken has arrived, but for what it holds back. -/
theorem arrived (carries : Carries topic count partitioning connection start journal accepted
      producer line) :
    ∃ arrived, Arrived topic start journal arrived ∧
      arrived ++ connection.heldOf accepted = accepted := by
  have all := carries.sends.arrived
  rw [carries.holds.held_eq] at all
  exact all

/-- A producer that is closed has brought all that it has taken. -/
theorem close (carries : Carries topic count partitioning connection start journal accepted
      producer line) :
    (producer.core.close line).1 = .ok () ∧
      ∃ occurred, line.Comes occurred (producer.core.close line).2.2 ∧
        Arrived topic start (journal ++ occurred) accepted := by
  have ready := carries.sends.ready
  rw [← carries.present] at ready
  have answered := carries.holds.close ready carries.calm.reachable
  rcases carries.sends.exists_forwards .close carries.present with ⟨occurred, forwards⟩
  exact ⟨answered, occurred, forwards.comes,
    carries.sends.arrived_of_emptied carries.present forwards.comes answered (.inr rfl)⟩

/-- A producer that is given up brings nothing more. -/
theorem drop (carries : Carries topic count partitioning connection start journal accepted
      producer line) :
    ∃ occurred, line.Comes occurred (producer.core.drop line) ∧
      ∃ arrived, Arrived topic start (journal ++ occurred) arrived ∧
        arrived ++ connection.heldOf accepted = accepted := by
  rcases carries.arrived with ⟨arrived, isArrived, all⟩
  simp only [Producer.drop, carries.holds.isOpen, Bool.false_eq_true, if_false]
  rcases Timeline.comes_ask (.closeProducer producer.core.topic) line with ⟨aside, comes, isAside⟩
  refine ⟨_, comes, arrived, isArrived.append_quiet ?_, all⟩
  rw [List.forall_mem_cons]
  exact ⟨rfl, fun occurrence present => Occurrence.isDelivery_of_isAside (isAside _ present)⟩

end Carries

section Sending

variable {bus : Bus} {stream : Stream} {line later : Timeline Broker}

/-- From an opened producer on, what arrives is what is taken if it is closed behind the last line.
If it is given up after a failure, it is what is taken but for what is held back then. -/
theorem sendAll_of_opened {topic : String} {count : Nat} {partitioning : Option Partitioning}
    {connection : Connection} {producer : StreamProducer}
    (opens : bus.producer stream line = (.ok producer, later))
    (carries : Carries topic count partitioning connection later.log [] [] producer later)
    (key : Option String) (texts : List (Except InputFault String)) :
    let sending := (sendLines key texts producer later).1
    let records := sending.taken.map fun text =>
      recordOf key text (partitioning.map fun partitioning => (partitioning, count))
    (sendAll bus stream key texts line).1 = sending ∧
      ∃ occurred, later.Comes occurred (sendAll bus stream key texts line).2 ∧
        ∃ arrived, Arrived topic later.log occurred arrived ∧
          arrived ++ (if sending.failure = none then [] else connection.heldOf records) =
            records := by
  rcases carries.sendLines key texts with ⟨front, comes, carried⟩
  rw [List.nil_append, List.nil_append] at carried
  simp only [sendAll, opens]
  generalize sendLines key texts producer later = sent at comes carried ⊢
  rcases sent with ⟨⟨taken, failure⟩, changed, between⟩
  cases failure with
  | none =>
      rcases carried.close with ⟨closed, back, closes, arrived⟩
      simp only
      generalize changed.core.close between = ended at closed closes
      rcases ended with ⟨answer, core, ended⟩
      cases closed
      exact ⟨rfl, front ++ back, comes.append closes, _, arrived, List.append_nil _⟩
  | some failure =>
      rcases carried.drop with ⟨back, drops, arrived, isArrived, all⟩
      refine ⟨rfl, front ++ back, comes.append drops, arrived, isArrived, ?_⟩
      rw [if_neg (by simp)]
      exact all

theorem exists_arrived (reached : Reached line.log) (calm : line.Calm) (bus : Bus)
    (stream : Stream) (key : Option String) (texts : List (Except InputFault String)) :
    let topic := stream.topic bus.settings
    let start := (bus.producer stream line).2
    let result := sendAll bus stream key texts line
    let records := result.1.taken.map fun text => recordOf key text
      ((stream.partitioning bus.settings).map fun partitioning =>
        (partitioning, start.log.width topic))
    ∃ occurred, start.Comes occurred result.2 ∧
      ∃ arrived, Arrived topic start.log occurred arrived ∧
        arrived ++ (if result.1.failure = none then []
          else bus.settings.connection.heldOf records) = records := by
  intro topic start result records
  rcases bus.exists_comes_producer stream line with ⟨opening, opens⟩
  have startCalm : start.Calm := calm.comes opens
  cases isOpened : bus.producer stream line with
  | mk answer later =>
      obtain rfl : start = later := congrArg Prod.snd isOpened
      cases answer with
      | error fault =>
          have isResult : result = (⟨[], some (.bus fault)⟩, start) := by
            simp only [result, sendAll, isOpened]
          have nothing : records = [] := by
            simp only [records, isResult, List.map_nil]
          rw [isResult, nothing]
          exact ⟨[], .nothing start, [], ⟨[], rfl, fun _ => rfl⟩, rfl⟩
      | ok producer =>
          rcases Bus.offers_of_producer reached (congrArg Prod.fst isOpened) with
            ⟨count, offers, rfl⟩
          have isWidth : start.log.width topic = count := by
            rcases offers with ⟨_, found, exist, isCount⟩
            rw [width_eq_of_topic? exist, isCount]
          have carries := Carries.opened offers bus.settings.connection
            (stream.partitioning bus.settings) startCalm rfl
          rcases sendAll_of_opened isOpened carries key texts with ⟨sameSending, rest⟩
          rw [← sameSending, ← isWidth] at rest
          exact rest

/-- On a broker that answers, the lines of an input are taken from the first one on. If the command
succeeds, all of them could be read, all but the empty ones were taken, and those have arrived. If
it fails, those that were taken have arrived up to the last delivery, so all of them have just if
nothing was held back then. -/
theorem arrived_but_held (reached : Reached line.log) (calm : line.Calm) (bus : Bus)
    (stream : Stream) (key : Option String) (input : Input) :
    let topic := stream.topic bus.settings
    let start := (bus.producer stream line).2
    let result := sendAll bus stream key input.lines line
    let records := result.1.taken.map fun text => recordOf key text
      ((stream.partitioning bus.settings).map fun partitioning =>
        (partitioning, start.log.width topic))
    let lost := if result.1.failure = none then [] else bus.settings.connection.heldOf records
    sendInput bus stream key input line =
        (if key.isSome && !stream.isKeyed then (.failed .keyNotSupported, line)
          else (⟨[], result.1.failure⟩, result.2)) ∧
      result.1.taken <+: written input.lines ∧
      (result.1.failure = none → input.broken = none ∧ result.1.taken = written input.lines ∧
        ∀ text ∈ input.lines, text.isOk = true) ∧
      ∃ occurred, start.Comes occurred result.2 ∧
        (∃ arrived, Arrived topic start.log occurred arrived ∧ arrived ++ lost = records) ∧
        (Arrived topic start.log occurred records ↔ lost = []) ∧
        ∀ partition, (start.log.messages topic partition ++
          start.log.delivered topic partition occurred).Sublist
            (result.2.log.messages topic partition) := by
  intro topic start result records lost
  rcases taken_prefix_of_sendAll bus stream key input.lines line with ⟨beginning, all⟩
  rcases exists_arrived reached calm bus stream key input.lines with
    ⟨occurred, comes, arrived, isArrived, rest⟩
  refine ⟨rfl, beginning, ?_, occurred, comes, ⟨arrived, isArrived, rest⟩, ?_, ?_⟩
  · intro noFailure
    exact ⟨Input.broken_eq_none (all noFailure).2, all noFailure⟩
  · rw [← isArrived.append_iff, rest]
  · intro partition
    rw [comes.log_eq]
    exact messages_append_delivered_sublist topic partition start.log occurred

/-- A bus whose producers deliver as soon as they hold back two octets. -/
def smallBatches : Bus where
  settings := { Settings.standard with
    connection := { Connection.standard with batchSize := 2 } }
  valid := ⟨fun _ => true, by decide +kernel⟩

/-- A broker with the topic of the statistics. -/
def statsLine : Timeline Broker :=
  .start (empty.run [.createTopic "frontier-stats" 1])

theorem calm_statsLine : statsLine.Calm :=
  ⟨reachable_iff.mpr (by decide +kernel), List.forall_mem_nil _⟩

/-- A record of the statistics. -/
def statsRecord (text : String) : Record :=
  ⟨none, none, text.toUTF8⟩

/-- Three lines and one that is no text. The first two make a batch; the third is lost. -/
theorem arrived_but_held_thirdLine :
    let input : Input := ⟨⟨#[0x61, 0x0A, 0x62, 0x0A, 0x63, 0x0A, 0xFF, 0x0A]⟩, none⟩
    let start := (smallBatches.producer .stats statsLine).2
    let result := sendAll smallBatches .stats none input.lines statsLine
    Reached statsLine.log ∧ statsLine.Calm ∧ result.1.taken = ["a", "b", "c"] ∧
      result.1.failure = some (.input (.malformed ⟨0, 1, false⟩)) ∧
      ∃ occurred, start.Comes occurred result.2 ∧
        Arrived "frontier-stats" start.log occurred [statsRecord "a", statsRecord "b"] ∧
        ¬ Arrived "frontier-stats" start.log occurred
          [statsRecord "a", statsRecord "b", statsRecord "c"] := by
  intro input start result
  let records := result.1.taken.map fun text => recordOf none text
    ((Stream.stats.partitioning smallBatches.settings).map fun partitioning =>
      (partitioning, start.log.width "frontier-stats"))
  have reached : Reached statsLine.log := ⟨_, rfl⟩
  have isTaken : result.1.taken = ["a", "b", "c"] := by decide +kernel
  have fails : result.1.failure = some (.input (.malformed ⟨0, 1, false⟩)) := by decide +kernel
  have areRecords : records = [statsRecord "a", statsRecord "b", statsRecord "c"] := by
    simp only [records, isTaken]
    rfl
  have isLost : smallBatches.settings.connection.heldOf
      [statsRecord "a", statsRecord "b", statsRecord "c"] = [statsRecord "c"] := by
    decide +kernel
  rcases arrived_but_held reached calm_statsLine smallBatches .stats none input with
    ⟨_, _, _, occurred, comes, ⟨arrived, isArrived, all⟩, whole, _⟩
  change arrived ++ (if result.1.failure = none then []
    else smallBatches.settings.connection.heldOf records) = records at all
  change Arrived "frontier-stats" start.log occurred records ↔
    (if result.1.failure = none then []
      else smallBatches.settings.connection.heldOf records) = [] at whole
  rw [fails, if_neg (by simp), areRecords, isLost] at all whole
  have firstTwo : arrived = [statsRecord "a", statsRecord "b"] := List.append_cancel_right all
  rw [firstTwo] at isArrived
  exact ⟨reached, calm_statsLine, isTaken, fails, occurred, comes, isArrived,
    fun allArrived => List.cons_ne_nil _ _ (whole.mp allArrived)⟩

/-- A line that was taken is lost when the next one is no text, although nothing is in the way of
requests. -/
theorem lost_before_malformed :
    let input : Input := ⟨⟨#[0x61, 0x0A, 0xFF, 0x0A]⟩, none⟩
    let result := sendAll twoLanes .stats none input.lines statsLine
    statsLine.Calm ∧ result.1.taken = ["a"] ∧
      sendInput twoLanes .stats none input statsLine =
        (.failed (.input (.malformed ⟨0, 1, false⟩)), result.2) ∧
      result.2.log.messages "frontier-stats" 0 = [] := by
  intro input result
  have fails : result.1.failure = some (.input (.malformed ⟨0, 1, false⟩)) := by decide +kernel
  have ends : sendInput twoLanes .stats none input statsLine =
      (⟨[], result.1.failure⟩, result.2) := rfl
  rw [fails] at ends
  exact ⟨calm_statsLine, by decide +kernel, ends, by decide +kernel⟩

end Sending

end Command

end FrontierBus
