import FrontierBus.Proofs.Consumer.Calls
import FrontierBus.Proofs.Timeline.Asking

/-!
# The life of a consumer

An open consumer asks its session only to read. The first close commits and ends the session, whatever
the answer to the commit is; a closed consumer asks nothing, and one that is given up while it is open
ends its session without a commit. So over any calls the session ends once, and nothing follows.
-/

namespace FrontierBus

/-- A session reads: it polls, or asks for its position or for a checkpoint. -/
def Request.isReadOf (reader : Reader) : Request → Bool
  | poll asking _ _ => asking = reader
  | position asking _ => asking = reader
  | committed asking _ => asking = reader
  | _ => false

namespace Consumer

/-- A call of a consumer. -/
inductive Call where
  | assigned
  | pull (limit patience : Nat)
  | committedOffset (partition : Nat)
  | position (partition : Nat)
  | close
  deriving DecidableEq

namespace Call

/-- What a call asks for. -/
@[reducible]
def Answer : Call → Type
  | assigned => List Nat
  | pull .. => Except Fault (List Message)
  | committedOffset _ => Except Fault Nat
  | position _ => Except Fault Nat
  | close => Except Fault Unit

/-- What a consumer of a session answers once it is closed. -/
def whenClosed (reader : Reader) : (call : Call) → call.Answer
  | assigned => ([] : List Nat)
  | pull .. => (.error .closed : Except Fault (List Message))
  | committedOffset partition =>
      (.error (.notAssigned reader.topic partition) : Except Fault Nat)
  | position partition => (.error (.notAssigned reader.topic partition) : Except Fault Nat)
  | close => (.ok () : Except Fault Unit)

end Call

/-- What came of a call. -/
structure Visit where
  call : Call
  answer : call.Answer
  /-- The requests that were made during the call, the first one first. -/
  asked : List Request

variable {Log : Type} [Transport Log] {consumer : Consumer} {line : Timeline Log}

/-- Makes a call. -/
def perform (consumer : Consumer) (line : Timeline Log) :
    (call : Call) → call.Answer × Consumer × Timeline Log
  | .assigned => (consumer.assigned line, consumer, line)
  | .pull limit patience =>
      let (answer, line) := consumer.pull limit patience line
      (answer, consumer, line)
  | .committedOffset partition =>
      let (answer, line) := consumer.committedOffset partition line
      (answer, consumer, line)
  | .position partition =>
      let (answer, line) := consumer.position partition line
      (answer, consumer, line)
  | .close => consumer.close line

/-- Makes calls one after the other, each on a timeline of its own, and tells what came of each. -/
def performAll (consumer : Consumer) : List (Call × Timeline Log) → Consumer × List Visit
  | [] => (consumer, [])
  | (call, line) :: steps =>
    let (answer, changed, ended) := consumer.perform line call
    let (last, visits) := changed.performAll steps
    (last, ⟨call, answer, line.asked ended⟩ :: visits)

/-- Some of the calls is one to close. -/
def closesIn (steps : List (Call × Timeline Log)) : Bool :=
  steps.any fun step => step.1 = .close

theorem asks_pull (limit patience : Nat) (consumer : Consumer) (line : Timeline Log) :
    ∃ reads, (∀ request ∈ reads, request.isReadOf consumer.reader = true) ∧
      line.Asks reads (consumer.pull limit patience line).2 := by
  rcases polls_pull limit patience consumer line with ⟨occurred, comes, own, _⟩
  refine ⟨_, ?_, _, comes.makes, rfl⟩
  intro request asked
  rcases List.mem_filterMap.mp asked with ⟨⟨moment, made, reply⟩, isMade, isAsked⟩
  have polls := own _ (Occurrence.mem_exchanges.mp isMade)
  cases made with
  | poll reader limit patience =>
      cases isAsked
      have own : reader = consumer.reader := by
        simpa [Occurrence.isPollOrAside, Exchange.isPollOf, Occurrence.isAside] using polls
      simp [Request.isReadOf, own]
  | offsets => cases isAsked
  | _ => simp [Occurrence.isPollOrAside, Exchange.isPollOf, Occurrence.isAside] at polls

theorem asks_askOwned {Answer : Type} {request : Request} {partition : Nat}
    {question : Timeline Log → Except Fault Answer × Timeline Log}
    (asks : line.Asks [request] (question line).2) (reads : request.isReadOf consumer.reader = true) :
    ∃ reads, (∀ request ∈ reads, request.isReadOf consumer.reader = true) ∧
      line.Asks reads (consumer.askOwned partition question line).2 := by
  simp only [askOwned]
  split
  · exact ⟨[request], List.forall_mem_singleton.mpr reads, asks⟩
  · exact ⟨[], List.forall_mem_nil _, .nothing line⟩

/-- Short of closing, a consumer only reads, and is the same afterwards. -/
theorem asks_perform_of_ne_close {call : Call} (stays : call ≠ .close) (consumer : Consumer)
    (line : Timeline Log) :
    (consumer.perform line call).2.1 = consumer ∧
      ∃ reads, (∀ request ∈ reads, request.isReadOf consumer.reader = true) ∧
        line.Asks reads (consumer.perform line call).2.2 := by
  cases call with
  | assigned => exact ⟨rfl, [], List.forall_mem_nil _, .nothing line⟩
  | pull limit patience => exact ⟨rfl, asks_pull limit patience consumer line⟩
  | committedOffset partition =>
      refine ⟨rfl, ?_⟩
      simp only [perform, committedOffset]
      have asks := line.asks_ask (.committed consumer.reader partition) fun _ _ => rfl
      exact asks_askOwned asks (decide_eq_true rfl)
  | position partition =>
      have asks := line.asks_ask (.position consumer.reader partition) fun _ _ => rfl
      exact ⟨rfl, asks_askOwned asks (decide_eq_true rfl)⟩
  | close => exact absurd rfl stays

theorem fst_close (isOpen : consumer.closed = false) (line : Timeline Log) :
    (consumer.close line).1 = (line.ask (.commit consumer.reader)).1 := by
  rw [close, isOpen]
  rfl

/-- The first close commits and ends the session, whatever is answered. -/
theorem asks_close (isOpen : consumer.closed = false) (line : Timeline Log) :
    (consumer.close line).2.1 = { consumer with closed := true } ∧
      line.Asks [.commit consumer.reader, .leave consumer.reader] (consumer.close line).2.2 := by
  have commits := line.asks_ask (.commit consumer.reader) fun _ _ => rfl
  have leaves := (line.ask (.commit consumer.reader)).2.asks_ask (.leave consumer.reader)
    fun _ _ => rfl
  simp only [close, isOpen]
  exact ⟨rfl, commits.trans leaves⟩

/-- A closed consumer answers without asking anything. -/
theorem perform_of_closed (isClosed : consumer.closed = true) (line : Timeline Log) (call : Call) :
    consumer.perform line call = (call.whenClosed consumer.reader, consumer, line) := by
  cases call with
  | assigned => simp [perform, assigned, isClosed, Call.whenClosed]
  | pull => simp [perform, pull, isClosed, Call.whenClosed]
  | committedOffset =>
      simp [perform, committedOffset, askOwned, assigned, isClosed, Call.whenClosed]
  | position => simp [perform, position, askOwned, assigned, isClosed, Call.whenClosed]
  | close => simp [perform, close, isClosed, Call.whenClosed]

theorem asks_drop (consumer : Consumer) (line : Timeline Log) :
    line.Asks (if consumer.closed then [] else [.leave consumer.reader]) (consumer.drop line) := by
  simp only [drop]
  split
  · exact .nothing line
  · exact line.asks_ask _ fun _ _ => rfl

/-- What a call comes to: a closed consumer answers at once, an open one closes or reads. -/
theorem perform_cases (consumer : Consumer) (line : Timeline Log) (call : Call) :
    (consumer.closed = true ∧
        consumer.perform line call = (call.whenClosed consumer.reader, consumer, line)) ∨
      (consumer.closed = false ∧ call = .close ∧
        (consumer.perform line call).2.1 = { consumer with closed := true } ∧
        line.asked (consumer.perform line call).2.2 =
          [.commit consumer.reader, .leave consumer.reader]) ∨
      (consumer.closed = false ∧ call ≠ .close ∧
        (consumer.perform line call).2.1 = consumer ∧
        ∀ request ∈ line.asked (consumer.perform line call).2.2,
          request.isReadOf consumer.reader = true) := by
  cases isClosed : consumer.closed with
  | true => exact .inl ⟨rfl, perform_of_closed isClosed line call⟩
  | false =>
      refine .inr ?_
      by_cases closes : call = .close
      · subst closes
        rcases asks_close isClosed line with ⟨changed, asks⟩
        exact .inl ⟨rfl, rfl, changed, asks.asked_eq⟩
      · rcases asks_perform_of_ne_close closes consumer line with ⟨same, reads, areReads, asks⟩
        rw [← asks.asked_eq] at areReads
        exact .inr ⟨rfl, closes, same, areReads⟩

theorem closesIn_cons (call : Call) (line : Timeline Log) (steps : List (Call × Timeline Log)) :
    closesIn ((call, line) :: steps) = (decide (call = .close) || closesIn steps) := rfl

/-- A consumer keeps its session, and is closed once it was called to close. -/
theorem performAll_state (consumer : Consumer) (steps : List (Call × Timeline Log)) :
    (consumer.performAll steps).1 = ⟨consumer.reader, consumer.closed || closesIn steps⟩ := by
  induction steps generalizing consumer with
  | nil => simp [performAll, closesIn]
  | cons step steps hypothesis =>
      rcases step with ⟨call, line⟩
      have rest := hypothesis (consumer.perform line call).2.1
      change ((consumer.perform line call).2.1.performAll steps).1 = _
      rw [rest, closesIn_cons]
      rcases perform_cases consumer line call with
        ⟨isClosed, same⟩ | ⟨isOpen, rfl, changed, _⟩ | ⟨isOpen, stays, same, _⟩
      · rw [same, isClosed, Bool.true_or, Bool.true_or]
      · rw [changed, isOpen, decide_eq_true rfl]
        rfl
      · rw [same, isOpen, decide_eq_false stays, Bool.false_or, Bool.false_or]

theorem asked_performAll_of_closed (isClosed : consumer.closed = true)
    (steps : List (Call × Timeline Log)) :
    (consumer.performAll steps).2.flatMap Visit.asked = [] := by
  induction steps with
  | nil => rfl
  | cons step steps hypothesis =>
      rcases step with ⟨call, line⟩
      change line.asked (consumer.perform line call).2.2 ++
        ((consumer.perform line call).2.1.performAll steps).2.flatMap Visit.asked = []
      rw [perform_of_closed isClosed, hypothesis, (Timeline.Asks.nothing line).asked_eq]
      rfl

/-- Over any calls an open consumer reads; if it is called to close, it commits and ends its session
then, and that is all. -/
theorem asked_performAll_of_open (isOpen : consumer.closed = false)
    (steps : List (Call × Timeline Log)) :
    ∃ reads, (∀ request ∈ reads, request.isReadOf consumer.reader = true) ∧
      (consumer.performAll steps).2.flatMap Visit.asked = reads ++
        if closesIn steps then [.commit consumer.reader, .leave consumer.reader] else [] := by
  induction steps with
  | nil => exact ⟨[], List.forall_mem_nil _, rfl⟩
  | cons step steps hypothesis =>
      rcases step with ⟨call, line⟩
      change ∃ reads, _ ∧ line.asked (consumer.perform line call).2.2 ++
        ((consumer.perform line call).2.1.performAll steps).2.flatMap Visit.asked = _
      rw [closesIn_cons]
      rcases perform_cases consumer line call with
        ⟨isClosed, _⟩ | ⟨_, rfl, changed, closing⟩ | ⟨_, stays, same, reading⟩
      · rw [isOpen] at isClosed
        cases isClosed
      · refine ⟨[], List.forall_mem_nil _, ?_⟩
        rw [closing, changed, asked_performAll_of_closed rfl]
        rfl
      · rcases hypothesis with ⟨reads, areReads, all⟩
        refine ⟨line.asked (consumer.perform line call).2.2 ++ reads,
          List.forall_mem_append.mpr ⟨reading, areReads⟩, ?_⟩
        rw [same, all, decide_eq_false stays, Bool.false_or, List.append_assoc]

/-- From its beginning to the end of its life a consumer reads, commits if it was called to close, and
then its session ends. -/
theorem asked_lifetime (reader : Reader) (steps : List (Call × Timeline Log))
    (ending : Timeline Log) :
    ∃ reads, (∀ request ∈ reads, request.isReadOf reader = true) ∧
      ((⟨reader, false⟩ : Consumer).performAll steps).2.flatMap Visit.asked ++
          ending.asked (((⟨reader, false⟩ : Consumer).performAll steps).1.drop ending) =
        reads ++ if closesIn steps then [.commit reader, .leave reader] else [.leave reader] := by
  have isOpen : (⟨reader, false⟩ : Consumer).closed = false := rfl
  rcases asked_performAll_of_open isOpen steps with ⟨reads, areReads, all⟩
  refine ⟨reads, areReads, ?_⟩
  rw [all, (asks_drop _ ending).asked_eq, performAll_state, Bool.false_or, List.append_assoc]
  cases closesIn steps with
  | true => rfl
  | false => rfl

end Consumer

end FrontierBus
