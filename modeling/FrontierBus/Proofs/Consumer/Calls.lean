import FrontierBus.Consumer
import FrontierBus.Proofs.Timeline.Chronicle

/-!
# Calls of a consumer

A pull is one poll or several with waits in between, and only the last poll hands out messages. A
close that succeeds is a commit that succeeds and then the end of the session. Nothing else that
comes to pass meanwhile is the doing of the consumer.
-/

namespace FrontierBus

/-- The messages that the answer to a poll hands out. -/
def handedBy : Except Fault (Option (List Message)) → List Message
  | .ok (some messages) => messages
  | .ok none | .error _ => []

/-- The messages that a request is answered with. -/
def Exchange.messages : Exchange → List Message
  | ⟨_, .poll .., reply⟩ => handedBy reply.answer
  | _ => []

/-- A session polls. -/
def Exchange.isPollOf (reader : Reader) (exchange : Exchange) : Bool :=
  match exchange.request with
  | .poll poller _ _ => poller = reader
  | _ => false

namespace Occurrence

variable {Log : Type} [Transport Log]

/-- The messages that are handed out with it. -/
def messages : Occurrence Log → List Message
  | request exchange => exchange.messages
  | event _ => []

/-- A session polls, or whoever waits has no part in it. -/
def isPollOrAside (reader : Reader) : Occurrence Log → Bool
  | request exchange => exchange.isPollOf reader || (request exchange : Occurrence Log).isAside
  | event _ => true

theorem isPollOrAside_of_isAside (reader : Reader) {occurrence : Occurrence Log}
    (aside : occurrence.isAside = true) : occurrence.isPollOrAside reader = true := by
  cases occurrence with
  | request exchange => simp [isPollOrAside, aside]
  | event _ => rfl

theorem messages_of_isAside {occurrence : Occurrence Log} (aside : occurrence.isAside = true) :
    occurrence.messages = [] := by
  cases occurrence with
  | event _ => rfl
  | request exchange =>
      rcases exchange with ⟨moment, request, reply⟩
      cases request with
      | offsets => rfl
      | _ => simp [isAside] at aside

theorem flatMap_messages (occurred : List (Occurrence Log)) :
    occurred.flatMap messages = (occurred.filterMap exchange?).flatMap Exchange.messages := by
  induction occurred with
  | nil => rfl
  | cons occurrence occurred hypothesis =>
      cases occurrence with
      | request exchange => simp [messages, exchange?, hypothesis]
      | event _ => exact hypothesis

end Occurrence

namespace Timeline

variable {Log : Type} [Transport Log] {before between after line : Timeline Log}
  {front back occurred : List (Occurrence Log)} {reader : Reader} {messages : List Message}

/-- From one timeline to a later one a session polls and waits, and is handed these messages. -/
def Polls (reader : Reader) (before : Timeline Log) (messages : List Message)
    (after : Timeline Log) : Prop :=
  ∃ occurred, before.Comes occurred after ∧
    (∀ occurrence ∈ occurred, occurrence.isPollOrAside reader = true) ∧
    occurred.flatMap Occurrence.messages = messages

theorem Polls.wait (comes : before.Comes occurred after) (aside : Aside occurred) :
    Polls reader before [] after := by
  refine ⟨occurred, comes, ?_, ?_⟩
  · intro occurrence present
    exact Occurrence.isPollOrAside_of_isAside reader (aside occurrence present)
  · rw [List.flatMap_eq_nil_iff]
    intro occurrence present
    exact Occurrence.messages_of_isAside (aside occurrence present)

theorem Polls.append {more : List Message} (first : Polls reader before messages between)
    (second : Polls reader between more after) :
    Polls reader before (messages ++ more) after := by
  rcases first with ⟨front, comes, ownFront, handed⟩
  rcases second with ⟨back, comesBack, ownBack, handedBack⟩
  refine ⟨front ++ back, comes.append comesBack, ?_, ?_⟩
  · intro occurrence present
    rcases List.mem_append.mp present with inFront | inBack
    · exact ownFront occurrence inFront
    · exact ownBack occurrence inBack
  · rw [List.flatMap_append, handed, handedBack]

theorem polls_serve {limit patience : Nat} {answer : Except Fault (Option (List Message))}
    (answered : (line.serve (.poll reader limit patience)).1.answer = answer) :
    Polls reader line (handedBy answer) (line.serve (.poll reader limit patience)).2 := by
  refine ⟨_, .asked (.poll reader limit patience) line, ?_, ?_⟩
  · intro occurrence present
    rw [List.mem_singleton.mp present]
    simp [Occurrence.isPollOrAside, Exchange.isPollOf]
  · simp [Occurrence.messages, Exchange.messages, answered]

/-- A session polls, with a gap before the poll is served. -/
theorem polls_gap_serve {limit patience : Nat} {answer : Except Fault (Option (List Message))}
    (answered : ((line.gap 0).serve (.poll reader limit patience)).1.answer = answer) :
    Polls reader line (handedBy answer) ((line.gap 0).serve (.poll reader limit patience)).2 := by
  rcases comes_gap 0 line with ⟨occurred, passes, aside⟩
  exact (Polls.wait passes aside).append (polls_serve answered)

/-- What a poll with waits in between returns is what its last request was answered with; those
before it found nothing. -/
theorem polls_pollUntil (reader : Reader) (limit patience deadline : Nat) (line : Timeline Log) :
    Polls reader line ((line.pollUntil reader limit patience deadline).1.toOption.getD [])
      (line.pollUntil reader limit patience deadline).2 := by
  fun_induction pollUntil reader limit patience deadline line with
  | case1 line asked answered fault failed =>
      have first : Polls reader line [] asked.2 := polls_gap_serve failed
      rcases comes_pauseUntil (asked.2.now + asked.1.delay) asked.2 with ⟨occurred, waits, aside⟩
      exact first.append (.wait waits aside)
  | case2 line asked answered messages succeeded =>
      have first : Polls reader line messages asked.2 := polls_gap_serve succeeded
      rcases comes_pauseUntil (asked.2.now + asked.1.delay) asked.2 with ⟨occurred, waits, aside⟩
      have both := first.append (.wait waits aside)
      rwa [List.append_nil] at both
  | case3 line seen asked found later late =>
      have first : Polls reader line [] asked.2 := polls_gap_serve found
      rcases comes_gap_awaitArrival seen deadline asked.2 with ⟨occurred, waits, aside⟩
      rw [late] at waits
      exact first.append (.wait waits aside)
  | case4 line seen asked found later arrived hypothesis =>
      have first : Polls reader line [] asked.2 := polls_gap_serve found
      rcases comes_gap_awaitArrival seen deadline asked.2 with ⟨occurred, waits, aside⟩
      rw [arrived] at waits
      exact (first.append (.wait waits aside)).append hypothesis

/-- A poll may panic when it sets its deadline; otherwise it is one until then. -/
theorem poll_eq_pollUntil (reader : Reader) (limit patience : Nat) (line : Timeline Log) :
    ∃ panicked, line.poll reader limit patience =
      ({ line with panicked } : Timeline Log).pollUntil reader limit patience
        (line.now + patience) := by
  simp only [poll]
  split
  · exact ⟨_, rfl⟩
  · exact ⟨line.panicked, rfl⟩

theorem polls_poll (reader : Reader) (limit patience : Nat) (line : Timeline Log) :
    Polls reader line ((line.poll reader limit patience).1.toOption.getD [])
      (line.poll reader limit patience).2 := by
  rcases line.poll_eq_pollUntil reader limit patience with ⟨panicked, isPollUntil⟩
  have begins : line.Comes [] { line with panicked } := .still rfl rfl rfl rfl
  rw [isPollUntil]
  exact (Polls.wait begins .nothing).append (polls_pollUntil ..)

end Timeline

namespace Consumer

open Timeline

variable {Log : Type} [Transport Log] {line : Timeline Log} {occurred : List (Occurrence Log)}

theorem polls_pull (limit patience : Nat) (consumer : Consumer) (line : Timeline Log) :
    Polls consumer.reader line ((consumer.pull limit patience line).1.toOption.getD [])
      (consumer.pull limit patience line).2 := by
  simp only [pull]
  split
  · exact .wait (.nothing line) .nothing
  · exact line.polls_poll consumer.reader limit patience

/-- Whatever comes to pass during a pull, the consumer only polls, and what it returns is what it
was handed. -/
theorem of_comes_pull {limit patience : Nat} {consumer : Consumer}
    (comes : line.Comes occurred (consumer.pull limit patience line).2) :
    (∀ occurrence ∈ occurred, occurrence.isPollOrAside consumer.reader = true) ∧
      occurred.flatMap Occurrence.messages =
        (consumer.pull limit patience line).1.toOption.getD [] := by
  rcases polls_pull limit patience consumer line with ⟨others, comesSo, own, handed⟩
  have same := comes.exchanges_eq comesSo
  constructor
  · intro occurrence present
    cases occurrence with
    | event _ => rfl
    | request exchange =>
        have made := Occurrence.mem_exchanges.mpr present
        rw [same] at made
        exact own _ (Occurrence.mem_exchanges.mp made)
  · rw [← handed, Occurrence.flatMap_messages, same, ← Occurrence.flatMap_messages]

/-- What comes to pass while an open consumer closes: a commit, answered as the close is, and behind
it the end of the session. -/
theorem comes_close {consumer : Consumer} (isOpen : consumer.closed = false)
    (line : Timeline Log) :
    ∃ (moment : Nat) (reply : Reply (.commit consumer.reader)) (later : Nat)
      (released : Reply (.leave consumer.reader)) (between behind : List (Occurrence Log)),
      line.Comes (.request ⟨moment, .commit consumer.reader, reply⟩ :: between ++
          .request ⟨later, .leave consumer.reader, released⟩ :: behind)
        (consumer.close line).2.2 ∧
      Aside between ∧ Aside behind ∧ reply.answer = (consumer.close line).1 := by
  rcases comes_ask (.commit consumer.reader) line with ⟨between, commits, betweenAside⟩
  rcases comes_ask (.leave consumer.reader) (line.ask (.commit consumer.reader)).2 with
    ⟨behind, leaves, behindAside⟩
  have both := commits.append leaves
  simp only [close, isOpen]
  exact ⟨_, _, _, _, between, behind, both, betweenAside, behindAside, rfl⟩

/-- Whatever comes to pass while an open consumer closes, it commits, with the answer that the close
has, and then it ends its session. -/
theorem of_comes_close {consumer : Consumer} (isOpen : consumer.closed = false)
    (comes : line.Comes occurred (consumer.close line).2.2) :
    ∃ (moment : Nat) (reply : Reply (.commit consumer.reader)) (later : Nat)
      (released : Reply (.leave consumer.reader)) (front between behind : List (Occurrence Log)),
      occurred = front ++ .request ⟨moment, .commit consumer.reader, reply⟩ ::
          (between ++ .request ⟨later, .leave consumer.reader, released⟩ :: behind) ∧
      Aside front ∧ Aside between ∧ Aside behind ∧ reply.answer = (consumer.close line).1 := by
  rcases comes_close isOpen line with
    ⟨moment, reply, later, released, waited, ended, comesSo, waitedAside, endedAside, answered⟩
  have same := comes.exchanges_eq comesSo
  simp only [List.filterMap_append, List.filterMap_cons, Occurrence.exchange?,
    List.cons_append] at same
  rcases List.filterMap_eq_cons_iff.mp same with
    ⟨front, commits, rest, rfl, noRequest, isCommit, restSame⟩
  rcases List.filterMap_eq_append_iff.mp restSame with ⟨between, back, rfl, betweenSame, backSame⟩
  rcases List.filterMap_eq_cons_iff.mp backSame with
    ⟨gap, leaves, behind, rfl, noRequestInGap, isLeave, behindSame⟩
  have frontAside : Aside front := by
    apply Aside.nothing.of_exchanges
    exact List.filterMap_eq_nil_iff.mpr noRequest
  have gapAside : Aside gap := by
    apply Aside.nothing.of_exchanges
    exact List.filterMap_eq_nil_iff.mpr noRequestInGap
  have betweenAside := (waitedAside.of_exchanges betweenSame).append gapAside
  refine ⟨moment, reply, later, released, front, between ++ gap, behind, ?_, frontAside,
    betweenAside, endedAside.of_exchanges behindSame, answered⟩
  rw [Occurrence.exchange?_eq_some.mp isCommit, Occurrence.exchange?_eq_some.mp isLeave,
    List.append_assoc]

end Consumer

end FrontierBus
