import FrontierBus.Proofs.Broker.Log
import FrontierBus.Proofs.Topic.Turns

/-!
# Even shares

Along a run a topic is created, and records are delivered to it by whoever likes, in deliveries of
any size, some of which do not reach it. What it holds is what was acknowledged, and the records that
leave their partition to it are shared out in turn, over all deliveries and all producers.
-/

namespace FrontierBus.Broker

/-- The records that an action has put into a topic, by what its author is told. -/
def Action.acknowledged (topic : String) : (action : Action) → action.Outcome → List Record
  | .append name records, .ok report => if name = topic then report.accepted records else []
  | .ask (.deliver name records), some report =>
    if name = topic then report.accepted records else []
  | _, _ => []

/-- The records that a run has put into a topic, by what the authors of its actions are told. -/
def acknowledged (topic : String) (broker : Broker) : List Action → List Record
  | [] => []
  | action :: actions =>
    action.acknowledged topic (broker.step action).1 ++
      acknowledged topic (broker.step action).2 actions

/-- The entries are all that the topic holds; it holds none as long as it is not there. -/
structure Holds (topic : String) (entries : List (Record × Nat)) (broker : Broker) : Prop where
  absent : broker.topic? topic = none → entries = []
  present : ∀ found, broker.topic? topic = some found →
    0 < found.count ∧ found.Holds found.count entries

variable {before after broker : Broker} {topic name : String} {entries : List (Record × Nat)}
  {action : Action}

namespace Holds

theorem adds_nothing (holds : broker.Holds topic entries) :
    ∃ more : List (Record × Nat), more.map Prod.fst = [] ∧ broker.Holds topic (entries ++ more) := by
  refine ⟨[], rfl, ?_⟩
  rw [List.append_nil]
  exact holds

theorem initial (topic : String) : empty.Holds topic [] where
  absent := fun _ => rfl
  present := by
    intro found exist
    cases exist

theorem congr (holds : before.Holds topic entries)
    (same : after.topic? topic = before.topic? topic) : after.Holds topic entries where
  absent := by
    rw [same]
    exact holds.absent
  present := by
    rw [same]
    exact holds.present

theorem interrupted (holds : before.Holds topic entries) (left : Nat) :
    ({ before with failuresLeft := left } : Broker).Holds topic entries :=
  holds.congr rfl

/-- A change to a group of a topic leaves what any topic holds. -/
theorem exchange (holds : before.Holds topic entries) {found : Topic}
    (exist : before.topic? name = some found) {groupName : String} {changed : Group}
    (topics_eq : after.topics = (before.setTopic name (found.setGroup groupName changed)).topics) :
    after.Holds topic entries := by
  have exchanged := (topic?_congr topics_eq topic).trans (topic?_setTopic before name topic _)
  by_cases same : topic = name
  · subst same
    rw [if_pos rfl] at exchanged
    refine ⟨by simp [exchanged], ?_⟩
    intro later isLater
    rw [exchanged] at isLater
    cases isLater
    rcases holds.present found exist with ⟨positive, held⟩
    exact ⟨positive, held.congr rfl rfl⟩
  · rw [if_neg same] at exchanged
    exact holds.congr exchanged

/-- Nothing has gone to a topic that was not there before. -/
theorem create (holds : before.Holds topic entries) (name : String) (count : Nat) :
    (before.createTopic name count).2.Holds topic entries := by
  simp only [createTopic]
  split
  · exact holds
  · rename_i some_count
    split
    · exact holds
    · rename_i absent
      by_cases same : topic = name
      · subst same
        have exist : (before.setTopic topic (.create count)).topic? topic = some (.create count) := by
          rw [topic?_setTopic, if_pos rfl]
        have nothing : entries = [] := by
          apply holds.absent
          simpa using absent
        refine ⟨by simp [exist], ?_⟩
        intro found isFound
        rw [exist] at isFound
        cases isFound
        rw [nothing, Topic.count_create]
        exact ⟨Nat.pos_of_ne_zero some_count, .create count⟩
      · apply holds.congr
        rw [topic?_setTopic, if_neg same]

/-- A delivery to the topic adds just what its report acknowledges. -/
theorem deliver (holds : before.Holds topic entries) (records : List Record) :
    ∃ more, more.map Prod.fst = (before.deliver topic records).1.accepted records ∧
      (before.deliver topic records).2.Holds topic (entries ++ more) := by
  rcases interruption_cases before with reached | ⟨fault, left, interrupted⟩
  · cases exist : before.topic? topic with
    | none =>
        simp only [Broker.deliver, reached, exist, Report.accepted_uniform_error]
        exact holds.adds_nothing
    | some found =>
        rcases holds.present found exist with ⟨positive, held⟩
        rcases held.appendAll positive topic records with ⟨more, areAccepted, heldMore⟩
        simp only [Broker.deliver, reached, exist]
        refine ⟨more, areAccepted, ?_⟩
        have changed : (({ before with arrivals := before.arrivals + 1 } : Broker).setTopic topic
            (found.appendAll topic records).2).topic? topic =
              some (found.appendAll topic records).2 := by
          rw [topic?_setTopic, if_pos rfl]
        refine ⟨by simp [changed], ?_⟩
        intro later isLater
        rw [changed] at isLater
        cases isLater
        rw [heldMore.count_eq]
        exact ⟨positive, heldMore⟩
  · simp only [Broker.deliver, interrupted, Report.accepted_uniform_error]
    exact (holds.interrupted left).adds_nothing

/-- A delivery to another topic adds nothing. -/
theorem deliver_of_ne (holds : before.Holds topic entries) (elsewhere : name ≠ topic)
    (records : List Record) : (before.deliver name records).2.Holds topic entries := by
  apply holds.congr
  rcases deliver_cases name records before with ⟨found, _, stored⟩ | ⟨left, refused⟩
  · rw [stored, topic?_setTopic, if_neg elsewhere.symm]
    rfl
  · rw [refused]
    rfl

/-- What is not a delivery adds nothing: whatever is laid into a log counts as an arrival, and there
is none. -/
theorem beside (holds : before.Holds topic entries) (noDelivery : action.deliveredTo? = none) :
    (before.step action).2.Holds topic entries := by
  cases action with
  | createTopic name count => exact holds.create name count
  | append => cases noDelivery
  | ask request =>
      have noArrival := arrivals_of_no_delivery noDelivery before
      have effect := effect_step (.ask request) before
      generalize (before.step (.ask request)).2 = after at effect noArrival
      cases effect with
      | nothing topics_eq => exact holds.congr (topic?_congr topics_eq topic)
      | extended _ _ _ _ arrived => omega
      | joined exist _ topics_eq => exact holds.exchange exist topics_eq
      | polled exist _ _ topics_eq => exact holds.exchange exist topics_eq
      | committed exist _ topics_eq => exact holds.exchange exist topics_eq
      | left exist topics_eq => exact holds.exchange exist topics_eq
  | _ => exact holds.congr rfl

/-- A delivery adds what its report acknowledges, if it is one to the topic. -/
theorem deliverTo (holds : before.Holds topic entries) (name : String) (records : List Record) :
    ∃ more, more.map Prod.fst =
        (if name = topic then (before.deliver name records).1.accepted records else []) ∧
      (before.deliver name records).2.Holds topic (entries ++ more) := by
  split
  · rename_i here
    subst here
    exact holds.deliver records
  · rename_i elsewhere
    exact (holds.deliver_of_ne elsewhere records).adds_nothing

/-- Each action adds what its author is told that it has put into the topic. -/
theorem step (holds : before.Holds topic entries) (action : Action) :
    ∃ more, more.map Prod.fst = action.acknowledged topic (before.step action).1 ∧
      (before.step action).2.Holds topic (entries ++ more) := by
  cases action with
  | append name records =>
      simp only [Broker.step, openOn]
      rcases reachingTopic_cases name (fun _ broker => (Except.ok (), broker)) before with
        ⟨found, _, served⟩ | ⟨fault, left, refused⟩
      · rw [served]
        exact holds.deliverTo name records
      · rw [refused]
        exact (holds.interrupted left).adds_nothing
  | ask request =>
      cases request with
      | deliver name records => exact holds.deliverTo name records
      | _ => exact (holds.beside rfl).adds_nothing
  | _ => exact (holds.beside rfl).adds_nothing

/-- Along a run the topic comes to hold what is acknowledged, in this order. -/
theorem run (holds : before.Holds topic entries) (actions : List Action) :
    ∃ more, more.map Prod.fst = before.acknowledged topic actions ∧
      (before.run actions).Holds topic (entries ++ more) := by
  induction actions generalizing before entries with
  | nil => exact holds.adds_nothing
  | cons action actions hypothesis =>
      rcases holds.step action with ⟨first, isFirst, between⟩
      rcases hypothesis between with ⟨rest, areRest, after⟩
      refine ⟨first ++ rest, ?_, ?_⟩
      · rw [List.map_append, isFirst, areRest]
        rfl
      · rw [← List.append_assoc]
        exact after

end Holds

/-- After a run each partition of a topic holds what was acknowledged and went to it. Of the records
that leave their partition to the topic, as long as they are not more than a word counts, the first
so many have gone to the partitions in turn, so that no partition has got two more of them than
another. -/
theorem shared_in_turn {actions : List Action} {found : Topic}
    (exist : (empty.run actions).topic? topic = some found)
    (few : ((empty.acknowledged topic actions).filter fun record =>
      record.partition = none).length < Word.count64) :
    ∃ entries, entries.map Prod.fst = empty.acknowledged topic actions ∧
      (∀ entry ∈ entries, Topic.Placed found.count entry) ∧
      (∀ partition, (found.records partition).toList = Topic.laidIn partition entries) ∧
      ∀ early, early <+: Topic.turnsIn entries →
        (∀ partition, early.count partition =
          Nat.count (fun turn => turn % found.count = partition) early.length) ∧
        ∀ first < found.count, ∀ second < found.count,
          early.count first ≤ early.count second + 1 := by
  rcases (Holds.initial topic).run actions with ⟨entries, areAcknowledged, holds⟩
  rw [List.nil_append] at holds
  have held := (holds.present found exist).2
  have fewTurns : (Topic.turnsIn entries).length < Word.count64 := by
    rw [Topic.length_turnsIn, areAcknowledged]
    exact few
  refine ⟨entries, areAcknowledged, fun entry present => ?_, held.records_eq, ?_⟩
  · have placed := held.lays.placed entry present
    rwa [Topic.count_create] at placed
  · intro early isEarly
    have shares : ∀ partition, early.count partition =
        Nat.count (fun turn => turn % found.count = partition) early.length := by
      intro partition
      rw [← Topic.count_range_mod, ← held.prefix_eq fewTurns isEarly]
    refine ⟨shares, ?_⟩
    intro first isFirst second isSecond
    rw [shares, shares]
    exact Topic.count_turns_le_succ isFirst isSecond early.length

/-- Two producers, a record that is refused, two deliveries that do not arrive, and one that begins in
the middle of a round. -/
def mixedDeliveries : List Action :=
  [.createTopic "t" 3,
    .append "t" [⟨none, none, ⟨#[97]⟩⟩, ⟨some 2, none, ⟨#[98]⟩⟩, ⟨some 7, none, ⟨#[99]⟩⟩,
      ⟨none, some ⟨#[1]⟩, ⟨#[100]⟩⟩],
    .disconnect, .append "t" [⟨none, none, ⟨#[101]⟩⟩], .reconnect, .failNext 1,
    .ask (.deliver "t" [⟨none, none, ⟨#[102]⟩⟩]),
    .ask (.deliver "t" [⟨none, none, ⟨#[103]⟩⟩, ⟨none, none, ⟨#[104]⟩⟩])]

theorem shared_in_turn_mixedDeliveries :
    ∃ found, (empty.run mixedDeliveries).topic? "t" = some found ∧ found.count = 3 ∧
      ((empty.acknowledged "t" mixedDeliveries).filter fun record =>
        record.partition = none).length < Word.count64 ∧
      ∃ entries, entries.map Prod.fst = empty.acknowledged "t" mixedDeliveries ∧
        (Topic.turnsIn entries).count 0 = 2 ∧ (Topic.turnsIn entries).count 1 = 1 ∧
        (Topic.turnsIn entries).count 2 = 1 := by
  have isThere : ((empty.run mixedDeliveries).topic? "t").map Topic.count = some 3 := by
    decide +kernel
  have four : ((empty.acknowledged "t" mixedDeliveries).filter fun record =>
      record.partition = none).length = 4 := by
    decide +kernel
  have few : ((empty.acknowledged "t" mixedDeliveries).filter fun record =>
      record.partition = none).length < Word.count64 := by
    rw [four]
    decide
  rcases Option.map_eq_some_iff.mp isThere with ⟨found, exist, three⟩
  rcases shared_in_turn exist few with ⟨entries, areAcknowledged, _, _, shares⟩
  have length_eq : (Topic.turnsIn entries).length = 4 := by
    rw [Topic.length_turnsIn, areAcknowledged, four]
  have counts := (shares _ (List.prefix_refl _)).1
  rw [length_eq, three] at counts
  refine ⟨found, exist, three, few, entries, areAcknowledged, ?_⟩
  rw [counts, counts, counts]
  decide

end FrontierBus.Broker
