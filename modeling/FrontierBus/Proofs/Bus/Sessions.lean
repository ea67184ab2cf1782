import FrontierBus.Proofs.Consumer.Lifetime
import FrontierBus.Proofs.Producer.Lifetime
import FrontierBus.Script

/-!
# Sessions

Whatever is called on a consumer or a producer before it is given up, and whatever its session
answers, the session ends once and is asked nothing any more.
-/

namespace FrontierBus

/-- Over its whole life, whatever it is called to do and whatever is answered, a consumer reads, then
commits if it was called to close, and then its session ends. Once it was called to close it answers
every call without a request; the first close answers as its commit does, and the session ends behind
the commit whatever that answer is.

A producer delivers over its whole life, and then its session ends. Once it is closed it holds nothing
back and answers every call without a request. A call that ends the session is a close whose flush has
left nothing behind. A close whose flush fails leaves the producer open, with the records that are
outstanding, and there are some. -/
theorem ends_session_once (Log : Type) [Transport Log] :
    (∀ (reader : Reader) (steps : List (Consumer.Call × Timeline Log)) (line : Timeline Log),
      let consumer := ((⟨reader, false⟩ : Consumer).performAll steps).1
      let visits := ((⟨reader, false⟩ : Consumer).performAll steps).2
      (∃ reads, (∀ request ∈ reads, request.isReadOf reader = true) ∧
        visits.flatMap Consumer.Visit.asked ++ line.asked (consumer.drop line) = reads ++
          if Consumer.closesIn steps then [.commit reader, .leave reader] else [.leave reader]) ∧
      (Consumer.closesIn steps = false →
        (consumer.close line).1 = (line.ask (.commit reader)).1 ∧
        line.asked (consumer.close line).2.2 = [.commit reader, .leave reader]) ∧
      ∀ call : Consumer.Call,
        let result := consumer.perform line call
        (Consumer.closesIn steps = false → call ≠ .close → result.2.1 = consumer ∧
          ∀ request ∈ line.asked result.2.2, request.isReadOf reader = true) ∧
        (Consumer.closesIn steps = true → result = (call.whenClosed reader, consumer, line))) ∧
    ∀ (topic : String) (connection : Connection) (routing : Option (Partitioning × Nat))
      (steps : List (Call × Timeline Log)) (line : Timeline Log),
      let producer := ((StreamProducer.create topic connection routing).performAll steps).1
      let episodes := ((StreamProducer.create topic connection routing).performAll steps).2
      let flushed := producer.core.flush line
      let closing := producer.perform .close line
      (∃ deliveries, (∀ request ∈ deliveries, request.isDeliveryTo topic = true) ∧
        episodes.flatMap Episode.asked ++ line.asked (producer.core.drop line) =
          deliveries ++ [.closeProducer topic]) ∧
      (∀ call : Call,
        let result := producer.perform call line
        (producer.core.closed = true → producer.core.buffer.toList = [] ∧
          result = (call.whenClosed, producer, line)) ∧
        (.closeProducer topic ∈ line.asked result.2.2 →
          call = .close ∧ producer.core.closed = false ∧
          flushed.1 = .ok () ∧ flushed.2.1.buffer.toList = [] ∧
          line.asked result.2.2 = line.asked flushed.2.2 ++ [.closeProducer topic] ∧
          result.2.1.core.closed = true)) ∧
      ∀ fault, producer.core.closed = false → flushed.1 = .error fault →
        closing.1 = .error fault ∧ closing.2.1.core.closed = false ∧
        .closeProducer topic ∉ line.asked closing.2.2 ∧
        closing.2.1.core.buffer.toList ≠ [] ∧
        ∃ ledger : Ledger,
          Ledger.empty.FollowsAll topic connection.maxBlock
            ((StreamProducer.create topic connection routing).performAll
              (steps ++ [(.close, line)])).2 ledger ∧
          closing.2.1.core.buffer.toList = ledger.outstanding := by
  constructor
  · intro reader steps line consumer visits
    have state : consumer = ⟨reader, Consumer.closesIn steps⟩ :=
      Consumer.performAll_state ⟨reader, false⟩ steps
    have isReader : consumer.reader = reader := by rw [state]
    have isClosed : consumer.closed = Consumer.closesIn steps := by rw [state]
    refine ⟨Consumer.asked_lifetime reader steps line, ?_, ?_⟩
    · intro closesNot
      have commits := Consumer.fst_close (isClosed.trans closesNot) line
      rcases Consumer.asks_close (isClosed.trans closesNot) line with ⟨_, asks⟩
      rw [isReader] at commits asks
      exact ⟨commits, asks.asked_eq⟩
    · intro call result
      constructor
      · intro closesNot stays
        rcases Consumer.asks_perform_of_ne_close stays consumer line with ⟨same, reads, own, asks⟩
        rw [isReader, ← asks.asked_eq] at own
        exact ⟨same, own⟩
      · intro closes
        have done := Consumer.perform_of_closed (isClosed.trans closes) line call
        rwa [isReader] at done
  · intro topic connection routing steps line producer episodes flushed closing
    have settled : producer.core.EmptyOnceClosed :=
      StreamProducer.emptyOnceClosed_of_create topic connection routing steps
    have isTopic : producer.core.topic = topic :=
      (StreamProducer.asked_of_create topic connection routing steps).1
    refine ⟨StreamProducer.asked_lifetime topic connection routing steps line, ?_, ?_⟩
    · intro call result
      constructor
      · intro isClosed
        exact ⟨settled isClosed,
          StreamProducer.perform_of_closed isClosed (settled isClosed) call line⟩
      · intro ends
        have closes := StreamProducer.closes_of_closeProducer_mem settled ends
        rwa [isTopic] at closes
    · intro fault isOpen failed
      have answered := (StreamProducer.perform_close_of_error isOpen failed).1
      rcases StreamProducer.open_of_flush_error settled isOpen failed topic with
        ⟨stillOpen, goesOn, held⟩
      rcases StreamProducer.buffer_eq_outstanding topic connection routing
        (steps ++ [(.close, line)]) with ⟨ledger, follows, _, outstanding, _⟩
      rw [StreamProducer.performAll_concat] at outstanding
      exact ⟨answered, stillOpen, goesOn, held, ledger, follows, outstanding⟩

/-- A session whose commits fail and whose first delivery is refused. -/
def failingOnce : Script where
  partitionCount := []
  join := []
  openProducer := []
  openProbe := []
  poll := []
  position := []
  committed := []
  commit := [⟨0, .error (.unavailable .injected)⟩]
  deliver := [.uniform 0 (.error (.refused .missingOutcome)), .uniform 0 (.ok ())]
  offsets := []
  assigned := [0]

theorem ends_session_once_failing :
    let line : Timeline Script := .start failingOnce
    let reader : Reader := ⟨"t", "g", 0⟩
    let reading := ((⟨reader, false⟩ : Consumer).performAll [(.pull 1 0, line)]).1
    let closed := ((⟨reader, false⟩ : Consumer).performAll [(.pull 1 0, line), (.close, line)]).1
    let sends : List (Call × Timeline Script) := [(.send .empty [⟨#[97]⟩], line)]
    let again := (line.serve (.deliver "t" [])).2
    let create := StreamProducer.create "t" .standard none
    let sending := (create.performAll sends).1
    let done := (create.performAll (sends ++ [(.close, line), (.close, again)])).1
    line.asked (reading.close line).2.2 = [.commit reader, .leave reader] ∧
      closed.perform line (.position 0) = (.error (.notAssigned "t" 0), closed, line) ∧
      (sending.core.flush line).1 = .error (.refused .missingOutcome) ∧
      (sending.perform .close line).2.1.core.buffer.toList ≠ [] ∧
      .closeProducer "t" ∈ again.asked (sending.perform .close again).2.2 ∧
      (sending.core.flush again).2.1.buffer.toList = [] ∧
      done.core.closed = true ∧ done.perform .flush line = (.ok (), done, line) := by
  intro line reader reading closed sends again create sending done
  have consumers := (ends_session_once Script).1 reader
  have producers := (ends_session_once Script).2 "t" .standard none
  have refused : (sending.core.flush line).1 = .error (.refused .missingOutcome) := by
    decide +kernel
  have ends : .closeProducer "t" ∈ again.asked (sending.perform .close again).2.2 := by
    decide +kernel
  have isClosed : done.core.closed = true := by decide +kernel
  have kept := (producers sends line).2.2 _ rfl refused
  have left := ((producers sends again).2.1 .close).2 ends
  have idle := ((producers (sends ++ [(.close, line), (.close, again)]) line).2.1 .flush).1 isClosed
  refine ⟨((consumers [(.pull 1 0, line)] line).2.1 rfl).2,
    ((consumers [(.pull 1 0, line), (.close, line)] line).2.2 (.position 0)).2 rfl,
    refused, kept.2.2.2.1, ends, left.2.2.2.1, isClosed, idle.2⟩

end FrontierBus
