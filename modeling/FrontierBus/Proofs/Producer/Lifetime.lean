import FrontierBus.Proofs.Producer.Draining
import FrontierBus.Proofs.Timeline.Asking

/-!
# The life of a producer

An open producer asks its session only to deliver. A close ends the session once a flush has left
nothing behind; a close whose flush fails leaves the producer open with what it still holds back. A
closed producer holds nothing back, so a flush of it delivers nothing, although a flush never looks
whether the producer is closed.
-/

namespace FrontierBus

/-- Records are to be delivered to a topic. -/
def Request.isDeliveryTo (topic : String) : Request → Bool
  | deliver delivered _ => delivered = topic
  | _ => false

/-- What a closed producer answers. -/
def Call.whenClosed : Call → Except Fault Unit
  | send .. => .error .closed
  | flush | close => .ok ()

/-- The requests of a call, the first one first, without the looks of watches. -/
def Episode.asked (episode : Episode) : List Request :=
  episode.made.filterMap Exchange.asked?

namespace Producer

variable {Log : Type} [Transport Log] {producer changed last : Producer}
  {line between ended : Timeline Log} {deadline spare attempt : Nat} {records : List Record}

section Leftovers

theorem toList_of_deliverBy_incomplete {delivery : Delivery}
    (delivered : producer.deliverBy deadline line = (delivery, changed, ended))
    (incomplete : delivery ≠ .complete) (held : producer.buffer.toList ≠ []) :
    changed.buffer.toList ≠ [] := by
  simp only [deliverBy] at delivered
  split at delivered
  · cases delivered
    exact held
  · split at delivered
    · split at delivered
      · cases delivered
        exact absurd rfl incomplete
      · rename_i fault settled isSettled
        cases delivered
        simp only [settle, Prod.mk.injEq] at isSettled
        rcases isSettled with ⟨isFault, rfl⟩
        split at isFault
        · cases isFault
        · rename_i someKept
          simpa [Buffer.ofRecords, Buffer.toList] using someKept
    · cases delivered
      exact held

theorem toList_of_deliveries_error {fault : Fault}
    (failed : (producer.deliveries deadline spare attempt line).1 = .error fault)
    (held : producer.buffer.toList ≠ []) :
    (producer.deliveries deadline spare attempt line).2.1.buffer.toList ≠ [] := by
  fun_induction deliveries deadline spare attempt producer line with
  | case1 => cases failed
  | case2 spare attempt producer line changed later delivered =>
      exact toList_of_deliverBy_incomplete delivered (by simp) held
  | case5 attempt producer line fault changed later delivered transient spare next reckoned
      notBeyond hypothesis =>
      exact hypothesis failed (toList_of_deliverBy_incomplete delivered (by simp) held)
  | case3 attempt producer line fault changed later delivered transient
  | case4 attempt producer line fault changed later delivered transient spare next reckoned beyond
  | case6 spare attempt producer line fault changed later delivered permanent =>
      exact toList_of_deliverBy_incomplete delivered (by simp) held

/-- A flush that fails leaves something behind. -/
theorem toList_of_flush_error {fault : Fault} (failed : (producer.flush line).1 = .error fault) :
    (producer.flush line).2.1.buffer.toList ≠ [] := by
  simp only [flush] at failed ⊢
  split at failed
  · cases failed
  · rename_i notEmpty
    rw [if_neg notEmpty]
    exact toList_of_deliveries_error failed (by simpa [Buffer.isEmpty, Buffer.toList] using notEmpty)

end Leftovers

section Requests

/-- From one timeline to a later one a producer at most delivers. -/
structure Delivers (producer : Producer) (line : Timeline Log) (changed : Producer)
    (ended : Timeline Log) : Prop where
  asks : ∃ deliveries, (∀ request ∈ deliveries, request.isDeliveryTo producer.topic = true) ∧
    line.Asks deliveries ended
  topic_eq : changed.topic = producer.topic
  closed_eq : changed.closed = producer.closed

namespace Delivers

theorem nothing (producer : Producer) (line : Timeline Log) :
    producer.Delivers line producer line where
  asks := ⟨[], List.forall_mem_nil _, .nothing line⟩
  topic_eq := rfl
  closed_eq := rfl

theorem reckoned (moment : Nat) (producer : Producer) (line : Timeline Log) :
    producer.Delivers line producer (line.reckon moment) where
  asks := ⟨[], List.forall_mem_nil _, .nothing line⟩
  topic_eq := rfl
  closed_eq := rfl

theorem trans (first : producer.Delivers line changed between)
    (second : changed.Delivers between last ended) : producer.Delivers line last ended where
  asks := by
    rcases first.asks with ⟨front, frontOwn, asksFront⟩
    rcases second.asks with ⟨back, backOwn, asksBack⟩
    rw [first.topic_eq] at backOwn
    exact ⟨front ++ back, List.forall_mem_append.mpr ⟨frontOwn, backOwn⟩, asksFront.trans asksBack⟩
  topic_eq := second.topic_eq.trans first.topic_eq
  closed_eq := second.closed_eq.trans first.closed_eq

theorem wait (delivers : producer.Delivers line changed ended) (moment : Nat) :
    producer.Delivers line changed (ended.pauseUntil moment) where
  asks := by
    rcases delivers.asks with ⟨deliveries, own, asks⟩
    exact ⟨deliveries, own, asks.wait moment⟩
  topic_eq := delivers.topic_eq
  closed_eq := delivers.closed_eq

/-- A report changes only what is held back. -/
theorem settle (delivers : producer.Delivers line changed ended) (report : Report) :
    producer.Delivers line (changed.settle report).2 ended :=
  ⟨delivers.asks, delivers.topic_eq, delivers.closed_eq⟩

/-- The records that a producer holds back do not matter for what it may ask. -/
theorem of_hold (delivers : (producer.hold records).Delivers line changed ended) :
    producer.Delivers line changed ended :=
  ⟨delivers.asks, delivers.topic_eq, delivers.closed_eq⟩

end Delivers

theorem deliverBy_delivers (deadline : Nat) (producer : Producer) (line : Timeline Log) :
    producer.Delivers line (producer.deliverBy deadline line).2.1
      (producer.deliverBy deadline line).2.2 := by
  have asked : producer.Delivers line producer
      (line.serve (.deliver producer.topic producer.buffer.toList)).2 := by
    refine ⟨⟨_, ?_, line.asks_serve _ fun _ _ => rfl⟩, rfl, rfl⟩
    exact List.forall_mem_singleton.mpr (decide_eq_true rfl)
  simp only [deliverBy]
  split
  · exact asked.wait deadline
  · rename_i report _
    have settled := (asked.wait ((line.serve (.deliver producer.topic
      producer.buffer.toList)).2.now +
        (line.serve (.deliver producer.topic producer.buffer.toList)).1.delay)).settle report
    split
    · split
      · rename_i changed isChanged
        rwa [isChanged] at settled
      · rename_i fault changed isChanged
        rwa [isChanged] at settled
    · exact asked.wait deadline

theorem deliveries_delivers (deadline spare attempt : Nat) (producer : Producer)
    (line : Timeline Log) :
    producer.Delivers line (producer.deliveries deadline spare attempt line).2.1
      (producer.deliveries deadline spare attempt line).2.2 := by
  fun_induction deliveries deadline spare attempt producer line with
  | case1 spare attempt producer line changed later delivered
  | case2 spare attempt producer line changed later delivered
  | case3 attempt producer line fault changed later delivered transient
  | case6 spare attempt producer line fault changed later delivered permanent =>
      have delivers := deliverBy_delivers deadline producer line
      rwa [delivered] at delivers
  | case4 attempt producer line fault changed later delivered transient spare next reckoned
      beyond =>
      have delivers := deliverBy_delivers deadline producer line
      rw [delivered] at delivers
      exact (delivers.trans (.reckoned next changed later)).wait deadline
  | case5 attempt producer line fault changed later delivered transient spare next reckoned
      notBeyond hypothesis =>
      have delivers := deliverBy_delivers deadline producer line
      rw [delivered] at delivers
      exact ((delivers.trans (.reckoned next changed later)).wait next).trans hypothesis

theorem flush_delivers (producer : Producer) (line : Timeline Log) :
    producer.Delivers line (producer.flush line).2.1 (producer.flush line).2.2 := by
  simp only [flush]
  split
  · exact .nothing producer line
  · exact (Delivers.reckoned _ producer line).trans (deliveries_delivers _ _ _ producer _)

theorem tries_delivers {answer : Except Fault Unit}
    (tries : producer.Tries line answer changed ended) : producer.Delivers line changed ended := by
  cases tries with
  | nothing => exact .nothing producer line
  | flushed => exact flush_delivers producer line

/-- Short of closing, a producer at most delivers. -/
theorem course_delivers {call : Call} {answer : Except Fault Unit} (stays : call ≠ .close)
    (course : producer.Course line call records answer changed ended) :
    producer.Delivers line changed ended := by
  cases course with
  | refused => exact .nothing producer line
  | again => exact absurd rfl stays
  | flushed => exact flush_delivers producer line
  | took _ room behind =>
      exact (tries_delivers room).trans (tries_delivers behind).of_hold
  | closed => exact absurd rfl stays

/-- A close of an open producer is a flush, and if that fails it is no more; else the session ends
with it. -/
theorem close_cases (isOpen : producer.closed = false) (line : Timeline Log) :
    ((producer.flush line).1 = .ok () ∧ (producer.close line) =
        (.ok (), { (producer.flush line).2.1 with closed := true },
          ((producer.flush line).2.2.ask (.closeProducer (producer.flush line).2.1.topic)).2)) ∨
      ∃ fault, (producer.flush line).1 = .error fault ∧
        producer.close line = (.error fault, (producer.flush line).2) := by
  simp only [close, isOpen]
  rcases producer.flush line with ⟨answer, flushed, later⟩
  cases answer with
  | ok _ => exact .inl ⟨rfl, rfl⟩
  | error fault => exact .inr ⟨fault, rfl, rfl⟩

theorem asks_drop (producer : Producer) (line : Timeline Log) :
    line.Asks (if producer.closed then [] else [.closeProducer producer.topic])
      (producer.drop line) := by
  simp only [drop]
  split
  · exact .nothing line
  · exact line.asks_ask _ fun _ _ => rfl

end Requests

/-- A producer that is closed holds nothing back. -/
def EmptyOnceClosed (producer : Producer) : Prop :=
  producer.closed = true → producer.buffer.toList = []

end Producer

namespace StreamProducer

variable {Log : Type} [Transport Log] {producer : StreamProducer} {line : Timeline Log}

theorem core_withCore (core : Producer) (producer : StreamProducer) :
    (producer.withCore core).core = core := by
  cases producer with
  | plain _ => rfl
  | keyed _ => rfl

theorem withCore_core (producer : StreamProducer) : producer.withCore producer.core = producer := by
  cases producer with
  | plain _ => rfl
  | keyed _ => rfl

/-- A closed producer that holds nothing back answers without asking anything. -/
theorem perform_of_closed (isClosed : producer.core.closed = true)
    (nothing : producer.core.buffer.toList = []) (call : Call) (line : Timeline Log) :
    producer.perform call line = (call.whenClosed, producer, line) := by
  cases call with
  | send key messages =>
      cases producer with
      | plain core =>
          have closed : core.closed = true := isClosed
          simp [perform, Producer.sendMessages, Producer.send, closed, Call.whenClosed]
      | keyed routing =>
          have closed : routing.core.closed = true := isClosed
          simp [perform, KeyedProducer.send, Producer.send, closed, Call.whenClosed]
  | flush =>
      have isEmpty : producer.core.buffer.isEmpty = true := by
        simpa [Buffer.isEmpty, Buffer.toList] using nothing
      simp [perform, Producer.flush, isEmpty, Call.whenClosed, withCore_core]
  | close => simp [perform, Producer.close, isClosed, Call.whenClosed, withCore_core]

/-- A close whose flush succeeds ends the session behind it. -/
theorem perform_close_of_ok (isOpen : producer.core.closed = false)
    (flushed : (producer.core.flush line).1 = .ok ()) :
    (producer.perform .close line).1 = .ok () ∧
      (producer.perform .close line).2.1.core =
        { (producer.core.flush line).2.1 with closed := true } ∧
      line.asked (producer.perform .close line).2.2 =
        line.asked (producer.core.flush line).2.2 ++ [.closeProducer producer.core.topic] := by
  rcases Producer.close_cases isOpen line with ⟨_, closes⟩ | ⟨fault, failed, _⟩
  · have delivers := Producer.flush_delivers producer.core line
    rcases delivers.asks with ⟨deliveries, _, asks⟩
    have ends := asks.trans (Timeline.asks_ask
      (.closeProducer (producer.core.flush line).2.1.topic) _ fun _ _ => rfl)
    simp only [perform, closes, core_withCore]
    rw [ends.asked_eq, asks.asked_eq, delivers.topic_eq]
    exact ⟨trivial, trivial, rfl⟩
  · rw [failed] at flushed
    cases flushed

/-- A close whose flush fails is the flush and no more. -/
theorem perform_close_of_error (isOpen : producer.core.closed = false) {fault : Fault}
    (failed : (producer.core.flush line).1 = .error fault) :
    (producer.perform .close line).1 = .error fault ∧
      (producer.perform .close line).2.1.core = (producer.core.flush line).2.1 ∧
      (producer.perform .close line).2.2 = (producer.core.flush line).2.2 := by
  rcases Producer.close_cases isOpen line with ⟨flushed, _⟩ | ⟨other, sameFailed, closes⟩
  · rw [flushed] at failed
    cases failed
  · rw [failed] at sameFailed
    cases sameFailed
    simp [perform, closes, core_withCore]

/-- What a call comes to: a closed producer answers at once, an open one closes behind a flush that
succeeds, or at most delivers. -/
theorem perform_cases (settled : producer.core.EmptyOnceClosed) (call : Call) (line : Timeline Log) :
    (producer.core.closed = true ∧
        producer.perform call line = (call.whenClosed, producer, line)) ∨
      (producer.core.closed = false ∧ call = .close ∧ (producer.core.flush line).1 = .ok () ∧
        (producer.perform call line).2.1.core =
          { (producer.core.flush line).2.1 with closed := true } ∧
        line.asked (producer.perform call line).2.2 =
          line.asked (producer.core.flush line).2.2 ++ [.closeProducer producer.core.topic]) ∨
      (producer.core.closed = false ∧
        producer.core.Delivers line (producer.perform call line).2.1.core
          (producer.perform call line).2.2) := by
  cases isClosed : producer.core.closed with
  | true => exact .inl ⟨rfl, perform_of_closed isClosed (settled isClosed) call line⟩
  | false =>
      refine .inr ?_
      by_cases closes : call = .close
      · subst closes
        rcases Producer.close_cases isClosed line with ⟨flushed, _⟩ | ⟨fault, failed, _⟩
        · exact .inl ⟨rfl, rfl, flushed, (perform_close_of_ok isClosed flushed).2⟩
        · rcases perform_close_of_error isClosed failed with ⟨_, changed, ended⟩
          rw [changed, ended]
          exact .inr ⟨rfl, Producer.flush_delivers producer.core line⟩
      · exact .inr ⟨rfl, Producer.course_delivers closes (course_perform call producer line)⟩

/-- Only a close ends the session, and only behind a flush that has left nothing behind. -/
theorem closes_of_closeProducer_mem (settled : producer.core.EmptyOnceClosed) {call : Call}
    {topic : String}
    (ends : .closeProducer topic ∈ line.asked (producer.perform call line).2.2) :
    call = .close ∧ producer.core.closed = false ∧ (producer.core.flush line).1 = .ok () ∧
      (producer.core.flush line).2.1.buffer.toList = [] ∧
      line.asked (producer.perform call line).2.2 =
        line.asked (producer.core.flush line).2.2 ++ [.closeProducer producer.core.topic] ∧
      (producer.perform call line).2.1.core.closed = true := by
  rcases perform_cases settled call line with
    ⟨_, same⟩ | ⟨isOpen, closes, flushed, changed, closing⟩ | ⟨_, delivers⟩
  · rw [same, (Timeline.Asks.nothing line).asked_eq] at ends
    cases ends
  · refine ⟨closes, isOpen, flushed, Producer.toList_of_flush_ok flushed, closing, ?_⟩
    rw [changed]
  · rcases delivers.asks with ⟨deliveries, own, asks⟩
    rw [asks.asked_eq] at ends
    cases own _ ends

/-- A close whose flush fails leaves the producer open, with something held back, and its session goes
on. -/
theorem open_of_flush_error (settled : producer.core.EmptyOnceClosed)
    (isOpen : producer.core.closed = false) {fault : Fault}
    (failed : (producer.core.flush line).1 = .error fault) (topic : String) :
    (producer.perform .close line).2.1.core.closed = false ∧
      .closeProducer topic ∉ line.asked (producer.perform .close line).2.2 ∧
      (producer.perform .close line).2.1.core.buffer.toList ≠ [] := by
  rcases perform_close_of_error isOpen failed with ⟨_, changed, _⟩
  refine ⟨?_, ?_, ?_⟩
  · rw [changed, (Producer.flush_delivers producer.core line).closed_eq]
    exact isOpen
  · intro ends
    have succeeded := (closes_of_closeProducer_mem settled ends).2.2.1
    rw [failed] at succeeded
    cases succeeded
  · rw [changed]
    exact Producer.toList_of_flush_error failed

theorem emptyOnceClosed_perform (settled : producer.core.EmptyOnceClosed) (call : Call)
    (line : Timeline Log) : (producer.perform call line).2.1.core.EmptyOnceClosed := by
  rcases perform_cases settled call line with
    ⟨_, same⟩ | ⟨_, _, flushed, changed, _⟩ | ⟨isOpen, delivers⟩
  · rw [same]
    exact settled
  · rw [changed]
    intro _
    exact Producer.toList_of_flush_ok flushed
  · intro isClosed
    rw [delivers.closed_eq, isOpen] at isClosed
    cases isClosed

theorem emptyOnceClosed_performAll (settled : producer.core.EmptyOnceClosed)
    (steps : List (Call × Timeline Log)) :
    (producer.performAll steps).1.core.EmptyOnceClosed := by
  induction steps generalizing producer with
  | nil => exact settled
  | cons step steps hypothesis =>
      rcases step with ⟨call, line⟩
      exact hypothesis (emptyOnceClosed_perform settled call line)

/-- A producer that is closed stays as it is, and asks nothing any more. -/
theorem performAll_of_closed (isClosed : producer.core.closed = true)
    (nothing : producer.core.buffer.toList = []) (steps : List (Call × Timeline Log)) :
    (producer.performAll steps).1 = producer ∧
      (producer.performAll steps).2.flatMap Episode.asked = [] := by
  induction steps with
  | nil => exact ⟨rfl, rfl⟩
  | cons step steps hypothesis =>
      rcases step with ⟨call, line⟩
      rcases hypothesis with ⟨same, quiet⟩
      change ((producer.perform call line).2.1.performAll steps).1 = producer ∧
        line.asked (producer.perform call line).2.2 ++
          ((producer.perform call line).2.1.performAll steps).2.flatMap Episode.asked = []
      rw [perform_of_closed isClosed nothing, same, quiet, (Timeline.Asks.nothing line).asked_eq]
      exact ⟨rfl, rfl⟩

/-- Over any calls an open producer delivers; if it is closed in the end, it has ended its session
behind all deliveries. -/
theorem asked_performAll (isOpen : producer.core.closed = false)
    (steps : List (Call × Timeline Log)) :
    (producer.performAll steps).1.core.topic = producer.core.topic ∧
      ∃ deliveries, (∀ request ∈ deliveries, request.isDeliveryTo producer.core.topic = true) ∧
        (producer.performAll steps).2.flatMap Episode.asked = deliveries ++
          if (producer.performAll steps).1.core.closed then [.closeProducer producer.core.topic]
          else [] := by
  induction steps generalizing producer with
  | nil =>
      refine ⟨rfl, [], List.forall_mem_nil _, ?_⟩
      simp [performAll, isOpen]
  | cons step steps hypothesis =>
      rcases step with ⟨call, line⟩
      change ((producer.perform call line).2.1.performAll steps).1.core.topic = _ ∧
        ∃ deliveries, _ ∧ line.asked (producer.perform call line).2.2 ++
          ((producer.perform call line).2.1.performAll steps).2.flatMap Episode.asked =
          deliveries ++ if ((producer.perform call line).2.1.performAll steps).1.core.closed then _
            else _
      have settled : producer.core.EmptyOnceClosed := by
        intro isClosed
        rw [isOpen] at isClosed
        cases isClosed
      rcases perform_cases settled call line with
        ⟨isClosed, _⟩ | ⟨_, rfl, flushed, changed, closing⟩ | ⟨_, delivers⟩
      · rw [isOpen] at isClosed
        cases isClosed
      · have flushes := Producer.flush_delivers producer.core line
        rcases flushes.asks with ⟨deliveries, own, asks⟩
        have closed : (producer.perform .close line).2.1.core.closed = true := by rw [changed]
        have nothing : (producer.perform .close line).2.1.core.buffer.toList = [] := by
          rw [changed]
          exact Producer.toList_of_flush_ok flushed
        rcases performAll_of_closed closed nothing steps with ⟨same, quiet⟩
        rw [same, quiet, closing, asks.asked_eq, closed, List.append_nil, changed]
        exact ⟨flushes.topic_eq, deliveries, own, rfl⟩
      · rcases delivers.asks with ⟨front, frontOwn, asks⟩
        rcases hypothesis (delivers.closed_eq.trans isOpen) with ⟨sameTopic, back, backOwn, all⟩
        rw [delivers.topic_eq] at sameTopic backOwn all
        refine ⟨sameTopic, front ++ back, List.forall_mem_append.mpr ⟨frontOwn, backOwn⟩, ?_⟩
        rw [asks.asked_eq, all, List.append_assoc]

theorem emptyOnceClosed_of_create (topic : String) (connection : Connection)
    (routing : Option (Partitioning × Nat)) (steps : List (Call × Timeline Log)) :
    ((create topic connection routing).performAll steps).1.core.EmptyOnceClosed := by
  apply emptyOnceClosed_performAll
  rw [core_create]
  intro isClosed
  cases isClosed

/-- However it was called, a producer delivers to its topic; if it is closed by then, it has ended its
session behind all deliveries. -/
theorem asked_of_create (topic : String) (connection : Connection)
    (routing : Option (Partitioning × Nat)) (steps : List (Call × Timeline Log)) :
    ((create topic connection routing).performAll steps).1.core.topic = topic ∧
      ∃ deliveries, (∀ request ∈ deliveries, request.isDeliveryTo topic = true) ∧
        ((create topic connection routing).performAll steps).2.flatMap Episode.asked =
          deliveries ++
            if ((create topic connection routing).performAll steps).1.core.closed then
              [.closeProducer topic]
            else [] := by
  have isOpen : (create topic connection routing).core.closed = false := by
    rw [core_create]
    rfl
  have isTopic : (create topic connection routing).core.topic = topic := by
    rw [core_create]
    rfl
  have all := asked_performAll isOpen steps
  rwa [isTopic] at all

/-- From its beginning to the end of its life a producer delivers, and then its session ends. -/
theorem asked_lifetime (topic : String) (connection : Connection)
    (routing : Option (Partitioning × Nat)) (steps : List (Call × Timeline Log))
    (ending : Timeline Log) :
    ∃ deliveries, (∀ request ∈ deliveries, request.isDeliveryTo topic = true) ∧
      ((create topic connection routing).performAll steps).2.flatMap Episode.asked ++
          ending.asked (((create topic connection routing).performAll steps).1.core.drop ending) =
        deliveries ++ [.closeProducer topic] := by
  rcases asked_of_create topic connection routing steps with ⟨sameTopic, deliveries, own, all⟩
  refine ⟨deliveries, own, ?_⟩
  rw [all, (Producer.asks_drop _ ending).asked_eq, sameTopic, List.append_assoc]
  cases ((create topic connection routing).performAll steps).1.core.closed with
  | true => rfl
  | false => rfl

theorem performAll_concat (producer : StreamProducer) (steps : List (Call × Timeline Log))
    (call : Call) (line : Timeline Log) :
    (producer.performAll (steps ++ [(call, line)])).1 =
      ((producer.performAll steps).1.perform call line).2.1 := by
  induction steps generalizing producer with
  | nil => rfl
  | cons step steps hypothesis => exact hypothesis _

end StreamProducer

end FrontierBus
