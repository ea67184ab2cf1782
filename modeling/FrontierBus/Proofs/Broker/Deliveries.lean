import FrontierBus.Proofs.Broker.Messages
import FrontierBus.Proofs.Topic.Appending

/-!
# Deliveries to a broker

A topic that is there stays there with its number of partitions. A delivery of records that fit it
is all or nothing: the broker cannot be reached and nothing changes, or every record is stored.
-/

namespace FrontierBus

/-- The content of a message, as it is stored. -/
def Message.stored (message : Message) : Broker.StoredRecord :=
  ⟨message.key, message.payload⟩

namespace Broker

theorem Topic.map_stored_messages (topic : Topic) (partition : Nat) :
    (topic.messages partition).map Message.stored = (topic.records partition).toList := by
  apply List.ext_getElem
  · simp [messages]
  · intro offset _ _
    simp [messages, Message.stored]

/-- A topic is there, with a positive number of partitions. -/
def Offers (topic : String) (count : Nat) (broker : Broker) : Prop :=
  0 < count ∧ ∃ found, broker.topic? topic = some found ∧ found.count = count

variable {before broker : Broker} {topic : String} {count : Nat} {records : List Record}

theorem Offers.step (offers : before.Offers topic count) (action : Action) :
    (before.step action).2.Offers topic count := by
  rcases offers with ⟨positive, found, exist, sameCount⟩
  rcases topic?_step exist action with ⟨later, stillExist, keeps⟩
  exact ⟨positive, later, stillExist, keeps.count_eq.trans sameCount⟩

theorem topic?_of_other {name other : String} {changed : Topic}
    (absent : before.topic? name = none) {source : Topic}
    (isThere : before.topic? other = some source)
    (topics_eq : broker.topics = (before.setTopic other changed).topics) :
    broker.topic? name = none := by
  rw [topic?_congr topics_eq, topic?_setTopic, if_neg]
  · exact absent
  · intro same
    rw [← same, absent] at isThere
    cases isThere

/-- A topic is only made by creating it. -/
theorem created_of_topic? {name : String} {action : Action} {found : Topic}
    (absent : before.topic? name = none)
    (exist : (before.step action).2.topic? name = some found) : 0 < found.count := by
  have effect := effect_step action before
  generalize stepped : (before.step action).2 = after at effect exist
  cases effect with
  | nothing topics_eq =>
      rw [topic?_congr topics_eq, absent] at exist
      cases exist
  | @created other count _ _ topics_eq =>
      have some_count : count ≠ 0 := by
        intro none
        have refused : (before.step (.createTopic other count)).2 = before := by
          simp [step, createTopic, none]
        rw [← stepped, refused, absent] at exist
        cases exist
      rw [topic?_congr topics_eq, topic?_setTopic] at exist
      split at exist
      · cases exist
        simp only [Topic.count, Topic.create, Array.size_replicate]
        omega
      · rw [absent] at exist
        cases exist
  | extended isThere _ topics_eq =>
      rw [topic?_of_other absent isThere topics_eq] at exist
      cases exist
  | joined isThere _ topics_eq =>
      rw [topic?_of_other absent isThere topics_eq] at exist
      cases exist
  | polled isThere _ _ topics_eq =>
      rw [topic?_of_other absent isThere topics_eq] at exist
      cases exist
  | committed isThere _ topics_eq =>
      rw [topic?_of_other absent isThere topics_eq] at exist
      cases exist
  | left isThere topics_eq =>
      rw [topic?_of_other absent isThere topics_eq] at exist
      cases exist

/-- After every run each topic has a partition. -/
theorem count_pos_run (actions : List Action) {name : String} {found : Topic}
    (exist : (empty.run actions).topic? name = some found) : 0 < found.count := by
  induction actions using List.reverseRecOn generalizing found with
  | nil => cases exist
  | append_singleton actions action hypothesis =>
      rw [run_concat] at exist
      cases known : (empty.run actions).topic? name with
      | none => exact created_of_topic? known exist
      | some before =>
          rcases topic?_step known action with ⟨kept, isKept, keeps⟩
          rw [isKept, Option.some.injEq] at exist
          rw [← exist, keeps.count_eq]
          exact hypothesis known

theorem unavailable_of_interruption {fault : Fault} {after : Broker}
    (interrupted : broker.interruption = (some fault, after)) :
    (∃ cause, fault = .unavailable cause) ∧ after.topics = broker.topics := by
  simp only [interruption] at interrupted
  split at interrupted
  · cases interrupted
    exact ⟨⟨_, rfl⟩, rfl⟩
  · split at interrupted
    · cases interrupted
    · cases interrupted
      exact ⟨⟨_, rfl⟩, rfl⟩

theorem messages_congr {other : Broker} (topics_eq : other.topics = broker.topics)
    (topic : String) (partition : Nat) :
    other.messages topic partition = broker.messages topic partition := by
  simp only [messages, topic?_congr topics_eq]

/-- A delivery of records that fit a topic fails as a whole because the broker cannot be reached, or
stores all of them. -/
theorem deliver_of_offers (offers : broker.Offers topic count)
    (fits : ∀ record ∈ records, record.Fits count) :
    (∃ cause, (broker.deliver topic records).1 =
          .uniform records.length (.error (.unavailable cause)) ∧
        (broker.deliver topic records).2.topics = broker.topics) ∨
      ((broker.deliver topic records).1 = .uniform records.length (.ok ()) ∧
        ∃ entries : List (Record × Nat), entries.map Prod.fst = records ∧
          (∀ entry ∈ entries, Topic.Placed count entry) ∧ ∀ partition,
            ((broker.deliver topic records).2.messages topic partition).map Message.stored =
              (broker.messages topic partition).map Message.stored ++
                Topic.laidIn partition entries) := by
  rcases offers with ⟨positive, found, exist, rfl⟩
  rcases Topic.appendAll_of_fits topic positive fits with ⟨outcomes, entries, isRecords, placed, grown⟩
  cases interrupted : broker.interruption with
  | mk fault? after =>
      cases fault? with
      | some fault =>
          rcases unavailable_of_interruption interrupted with ⟨⟨cause, rfl⟩, topics_eq⟩
          refine Or.inl ⟨cause, ?_, ?_⟩
          · simp [deliver, interrupted]
          · simp [deliver, interrupted, topics_eq]
      | none =>
          have reached : after = broker := by
            rcases interruption_cases broker with free | ⟨fault, left, notFree⟩
            · rw [free] at interrupted
              cases interrupted
              rfl
            · rw [notFree] at interrupted
              cases interrupted
          subst reached
          refine Or.inr ⟨?_, entries, isRecords, placed, ?_⟩
          · simp [deliver, interrupted, exist, outcomes, Report.uniform]
          · intro partition
            have changed : (after.deliver topic records).2.topic? topic =
                some (found.appendAll topic records).2 := by
              simp [deliver, interrupted, exist, topic?_setTopic]
            rw [messages_eq_of_topic? changed, messages_eq_of_topic? exist,
              Topic.map_stored_messages, Topic.map_stored_messages]
            exact grown partition

end Broker

end FrontierBus
