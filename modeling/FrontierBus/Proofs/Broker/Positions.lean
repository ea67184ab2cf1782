import FrontierBus.Proofs.Broker.Bystanders
import FrontierBus.Proofs.Broker.Portions

/-!
# Positions

A session is asked for its position, it polls, and it checks off, and each time the position is
found anew: from what the session remembers of the partition, or from the checkpoint of its group.
They are the same position. The next message from a partition is the one that the position names,
and what a close checks off is where the last poll has led.
-/

namespace FrontierBus

namespace Broker

variable {broker : Broker} {reader : Reader} {partition place deadline limit patience : Nat}
  {line : Timeline Broker} {messages : List Message} {ended : Timeline Broker}

/-- A session stands at a place of a partition, and until a deadline nobody else changes that. -/
structure StandsAt (reader : Reader) (partition place deadline : Nat) (line : Timeline Broker) :
    Prop where
  reached : Reached line.log
  stands : line.log.position reader partition = .ok place
  beside : ∀ action ∈ line.ahead deadline, action.isBeside reader = true
  inTime : line.now ≤ deadline

theorem position_eq_ok_iff :
    (∃ place, broker.position reader partition = .ok place) ↔
      partition ∈ broker.assigned reader := by
  simp only [position, List.contains_eq_mem, decide_eq_true_eq]
  split
  · simp_all
  · simp_all

/-- What a commit checks off is where its session stands, whether the session has taken the
partition up or would start at the checkpoint. -/
theorem checkpoint?_of_position (reached : Reached broker)
    (stands : broker.position reader partition = .ok place)
    (answered : (broker.step (.ask (.commit reader))).1 = .ok ()) :
    ((broker.step (.ask (.commit reader))).2.checkpoint? reader.topic reader.group
      partition).getD 0 = place := by
  rcases reached with ⟨actions, rfl⟩
  have owned := position_eq_ok_iff.mp ⟨place, stands⟩
  rw [position_of_owned owned, Except.ok.injEq] at stands
  rw [assigned_eq] at owned
  rw [checkpoint?, group_of_commit answered, Group.checkpoint?_commit (wellFormed_run actions _ _),
    if_pos owned, ← stands]
  simp only [Group.standing, Group.startOffset]
  cases Group.remembered? _ reader.member partition with
  | none => rfl
  | some position => rfl

/-- Whoever leaves moves no checkpoint. -/
theorem checkpoint?_leave (reached : Reached broker) (reader other : Reader) (partition : Nat) :
    (broker.step (.ask (.leave other))).2.checkpoint? reader.topic reader.group partition =
      broker.checkpoint? reader.topic reader.group partition := by
  rcases reached with ⟨actions, rfl⟩
  rcases checkpoint?_cases actions (.ask (.leave other)) reader.topic reader.group partition with
    unmoved | ⟨_, _, isCommit, _⟩
  · exact unmoved
  · cases isCommit

/-- The log answers at once, so a request takes no time if nothing else is due. -/
theorem log_ask (request : Request) (none_left : line.nextTurn line.now = none) :
    (line.ask request).1 = (line.log.step (.ask request)).1 ∧
      (line.ask request).2.log = (line.log.step (.ask request)).2 ∧
      (line.ask request).2.nextTurn (line.ask request).2.now = none := by
  have atOnce : (line.serve request).1.delay = 0 := by
    cases request with
    | _ => rfl
  have stays : (line.ask request).2 = (line.serve request).2 := by
    simp only [Timeline.ask, atOnce]
    exact Timeline.pauseUntil_now none_left
  rw [stays]
  exact ⟨rfl, rfl, none_left⟩

/-- What a session that stands at a place, with nothing else due, checks off when it closes. -/
theorem checkpoint?_close (reached : Reached line.log)
    (none_left : line.nextTurn line.now = none)
    (stands : line.log.position reader partition = .ok place)
    (closes : (Consumer.close ⟨reader, false⟩ line).1 = .ok ()) :
    ((Consumer.close ⟨reader, false⟩ line).2.2.log.checkpoint? reader.topic reader.group
      partition).getD 0 = place := by
  rcases log_ask (.commit reader) none_left with ⟨answer_eq, log_eq, still_none⟩
  rcases log_ask (.leave reader) still_none with ⟨_, left_eq, _⟩
  have committed : (line.log.step (.ask (.commit reader))).1 = .ok () := answer_eq.symm.trans closes
  change ((((line.ask (.commit reader)).2.ask (.leave reader)).2.log).checkpoint? _ _ _).getD 0 = _
  rw [left_eq, log_eq, checkpoint?_leave (Reached.lasting line.log _ reached)]
  exact checkpoint?_of_position reached stands committed

namespace StandsAt

variable (standsAt : StandsAt reader partition place deadline line)

include standsAt

theorem take {turn : Timeline.Turn} (next : line.nextTurn deadline = some turn) :
    StandsAt reader partition place deadline (line.take turn) := by
  rcases exists_action_of_turn (fun _ _ _ => rfl) standsAt.beside next standsAt.inTime with
    ⟨inTime, beside, action, isBeside, log_eq⟩
  refine ⟨?_, ?_, beside, inTime⟩
  · rw [log_eq]
    exact Reached.lasting line.log action standsAt.reached
  · rw [log_eq, position_of_beside isBeside standsAt.reached]
    exact standsAt.stands

theorem moveTo {moment : Nat} (notLater : moment ≤ deadline) :
    StandsAt reader partition place deadline (line.moveTo moment) :=
  ⟨standsAt.reached, standsAt.stands, standsAt.beside, Nat.max_le.mpr ⟨standsAt.inTime, notLater⟩⟩

theorem pauseUntil {moment : Nat} (notLater : moment ≤ deadline) :
    StandsAt reader partition place deadline (line.pauseUntil moment) :=
  Timeline.keeps_pauseUntil _ (fun _ _ next standsAt => standsAt.take next)
    (fun _ _ notLater standsAt => standsAt.moveTo notLater) notLater standsAt

theorem gap (usual : Nat) : StandsAt reader partition place deadline (line.gap usual) :=
  Timeline.keeps_gap _
    (fun _ _ stands => ⟨stands.reached, stands.stands, stands.beside, stands.inTime⟩)
    (fun _ _ next stands => stands.take (Timeline.nextTurn_of_earlier next stands.inTime))
    standsAt usual

theorem awaitArrival (seen : Nat) :
    StandsAt reader partition place deadline (line.awaitArrival seen deadline).2 :=
  Timeline.keeps_awaitArrival _
    (fun _ _ stands => ⟨stands.reached, stands.stands, stands.beside, stands.inTime⟩)
    (fun _ _ next standsAt => standsAt.take next)
    (fun _ _ notLater standsAt => standsAt.moveTo notLater) seen standsAt.inTime standsAt

/-- A poll hands out the messages from the place on, and the session stands behind them. -/
theorem poll {handed : Option (List Message)}
    (answered : (line.log.step (.ask (.poll reader limit patience))).1 = .ok handed) :
    (portion (handedBy (.ok handed)) partition).map Message.offset =
        List.range' place (portion (handedBy (.ok handed)) partition).length ∧
      StandsAt reader partition (place + (portion (handedBy (.ok handed)) partition).length)
        deadline (line.serve (.poll reader limit patience)).2 := by
  have portioned := portioned_of_poll answered
  rw [answered] at portioned
  have owned := position_eq_ok_iff.mp ⟨place, standsAt.stands⟩
  rcases portioned.goesOn partition owned with ⟨start, stood, stands, _, offsets⟩
  rw [standsAt.stands, Except.ok.injEq] at stood
  subst stood
  exact ⟨offsets, Reached.lasting line.log (.ask (.poll reader limit patience)) standsAt.reached,
    stands, standsAt.beside, standsAt.inTime⟩

/-- However often a poll is repeated, it hands out the messages from the place on. -/
theorem pollUntil
    (returned : line.pollUntil reader limit patience deadline = (.ok messages, ended)) :
    (portion messages partition).map Message.offset =
        List.range' place (portion messages partition).length ∧
      StandsAt reader partition (place + (portion messages partition).length) deadline ended ∧
      ended.nextTurn ended.now = none := by
  fun_induction Timeline.pollUntil reader limit patience deadline line with
  | case1 line asked answered fault failed => cases returned
  | case2 line asked answered handed succeeded =>
      have served : ((line.gap 0).log.step (.ask (.poll reader limit patience))).1 =
          .ok (some handed) := succeeded
      obtain ⟨rfl, rfl⟩ : handed = messages ∧ answered = ended := by simpa using returned
      rcases (standsAt.gap 0).poll served with ⟨offsets, stands⟩
      exact ⟨offsets, stands.pauseUntil stands.inTime, Timeline.nextTurn_pauseUntil_now asked.2⟩
  | case3 line seen asked found later late =>
      have served : ((line.gap 0).log.step (.ask (.poll reader limit patience))).1 = .ok none :=
        found
      obtain ⟨rfl, rfl⟩ : [] = messages ∧ later = ended := by simpa using returned
      have stands := ((standsAt.gap 0).poll served).2.gap 0
      have waited := stands.awaitArrival seen
      have none_left := Timeline.nextTurn_awaitArrival stands.inTime late
      rw [late] at waited
      exact ⟨rfl, waited, none_left⟩
  | case4 line seen asked found later arrived hypothesis =>
      have served : ((line.gap 0).log.step (.ask (.poll reader limit patience))).1 = .ok none :=
        found
      have stands := ((standsAt.gap 0).poll served).2.gap 0
      have samePlace := stands.awaitArrival seen
      rw [arrived] at samePlace
      exact hypothesis samePlace returned

end StandsAt

/-- A session has a position in just the partitions that it owns. Its next poll, if nobody else
moves it meanwhile, hands out from such a partition the messages from this position on, one offset
after the other; then the session stands behind them, and if it closes successfully at that point,
this is what its group has checked off. -/
theorem position_agrees (reached : Reached line.log) (reader : Reader) (partition : Nat) :
    ((∃ place, line.log.position reader partition = .ok place) ↔
      partition ∈ line.log.assigned reader) ∧
    ∀ place limit patience messages ended,
      line.log.position reader partition = .ok place →
      (∀ action ∈ line.ahead (line.now + patience), action.isBeside reader = true) →
      line.poll reader limit patience = (.ok messages, ended) →
        let next := place + (portion messages partition).length
        let closed := Consumer.close ⟨reader, false⟩ ended
        (portion messages partition).map Message.offset =
            List.range' place (portion messages partition).length ∧
          ended.log.position reader partition = .ok next ∧
          (closed.1 = .ok () →
            (closed.2.2.log.checkpoint? reader.topic reader.group partition).getD 0 = next) := by
  refine ⟨position_eq_ok_iff, ?_⟩
  intro place limit patience messages ended stands beside returned next closed
  rcases line.poll_eq_pollUntil reader limit patience with ⟨panicked, isPollUntil⟩
  rw [isPollUntil] at returned
  have standsAt : StandsAt reader partition place (line.now + patience) { line with panicked } :=
    ⟨reached, stands, beside, Nat.le_add_right _ _⟩
  rcases standsAt.pollUntil returned with ⟨offsets, behind, none_left⟩
  exact ⟨offsets, behind.stands, checkpoint?_close behind.reached none_left behind.stands⟩

/-- A session has checked off two records and left. Another one takes over, which has never read; it
waits, and meanwhile there are two more records. -/
def takenOver : Timeline Broker :=
  { Timeline.start (empty.run [.createTopic "t" 2,
      .append "t" [⟨some 0, none, ⟨#[97]⟩⟩, ⟨some 0, none, ⟨#[98]⟩⟩],
      .ask (.join "t" "g" .dynamic), .ask (.poll ⟨"t", "g", 0⟩ 2 0),
      .ask (.commit ⟨"t", "g", 0⟩), .ask (.leave ⟨"t", "g", 0⟩),
      .ask (.join "t" "g" .dynamic)]) with
    upcoming := [(5, .append "t" [⟨some 0, none, ⟨#[99]⟩⟩, ⟨some 0, none, ⟨#[100]⟩⟩])] }

theorem position_agrees_takenOver :
    let polled := takenOver.poll ⟨"t", "g", 1⟩ 4 10
    let messages := polled.1.toOption.getD []
    let closed := Consumer.close ⟨⟨"t", "g", 1⟩, false⟩ polled.2
    takenOver.log.position ⟨"t", "g", 1⟩ 0 = .ok 2 ∧
      (portion messages 0).map Message.offset = List.range' 2 (portion messages 0).length ∧
      (portion messages 0).length = 2 ∧ closed.1 = .ok () ∧
      (closed.2.2.log.checkpoint? "t" "g" 0).getD 0 = 2 + (portion messages 0).length := by
  intro polled messages closed
  have stands : takenOver.log.position ⟨"t", "g", 1⟩ 0 = .ok 2 := by decide +kernel
  have beside : ∀ action ∈ takenOver.ahead (0 + 10), action.isBeside ⟨"t", "g", 1⟩ = true := by
    decide +kernel
  have answered : polled.1 = .ok messages := by decide +kernel
  have closes : closed.1 = .ok () := by decide +kernel
  rcases (position_agrees ⟨_, rfl⟩ ⟨"t", "g", 1⟩ 0).2 2 4 10 messages polled.2 stands beside
    (Prod.ext answered rfl) with ⟨offsets, _, checkedOff⟩
  exact ⟨stands, offsets, by decide +kernel, closes, checkedOff closes⟩

end Broker

end FrontierBus
