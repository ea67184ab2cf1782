import FrontierBus.Proofs.Broker.Independence
import FrontierBus.Proofs.Broker.Outages
import FrontierBus.Proofs.Broker.Stretches
import FrontierBus.Proofs.Timeline.Ahead

/-!
# Bystanders

What others do leaves a session where it is: as long as nobody joins or leaves its group, it owns
the same partitions and stands at the same offsets in them until it polls itself. Its own polls, on
the other hand, leave no trace in the records. What a topic holds after a run is the same with them
and without them, as long as no request is made to fail.
-/

namespace FrontierBus.Broker

variable {broker other : Broker} {reader : Reader} {action : Action} {actions : List Action}

/-- The action is no poll of the session, and nobody joins or leaves its group by it. -/
def Action.isBeside (reader : Reader) (action : Action) : Bool :=
  !action.changesRoster reader.topic reader.group && !action.isPollOf reader

/-- Requests may fail after the action that would not fail without it. -/
def Action.interrupts : Action → Bool
  | .disconnect => true
  | .failNext count => count ≠ 0
  | _ => false

theorem Action.isBeside_iff : action.isBeside reader = true ↔
    action.changesRoster reader.topic reader.group = false ∧ action.isPollOf reader = false := by
  simp [isBeside]

theorem live_of_unchanged (unchanged : action.changesRoster reader.topic reader.group = false)
    (live : (broker.member? reader).isSome) : ((broker.step action).2.member? reader).isSome := by
  have same := roster_of_unchanged unchanged broker
  have wants : ∀ group : Group,
      (group.member? reader.member).isSome = (group.wanted? reader.member).isSome := by
    simp [Group.wanted?]
  rw [member?, wants, Group.wanted?_eq_find?] at live ⊢
  rwa [same]

/-- What others do leaves a session where it is. -/
theorem position_of_beside (beside : action.isBeside reader = true) (reached : Reached broker)
    (partition : Nat) :
    (broker.step action).2.position reader partition = broker.position reader partition := by
  rcases Action.isBeside_iff.mp beside with ⟨unchanged, noPoll⟩
  rcases reached with ⟨actions, rfl⟩
  have sameOwned : ((empty.run actions).step action).2.assigned reader =
      (empty.run actions).assigned reader :=
    assigned_step_eq (roster_of_unchanged unchanged _) reader.member
  apply position_congr sameOwned
  intro owned
  rw [effectivePosition_eq, effectivePosition_eq]
  exact standing_of_noPoll noPoll owned (sameOwned ▸ owned)

theorem position_run_of_beside (reached : Reached broker)
    (beside : ∀ action ∈ actions, action.isBeside reader = true) (partition : Nat) :
    (broker.run actions).position reader partition = broker.position reader partition := by
  induction actions generalizing broker with
  | nil => rfl
  | cons action actions hypothesis =>
      rw [List.forall_mem_cons] at beside
      exact (hypothesis (Reached.lasting broker action reached) beside.2).trans
        (position_of_beside beside.1 reached partition)

theorem sameReach_createTopic (name : String) (count : Nat) (broker : Broker) :
    broker.SameReach (broker.createTopic name count).2 := by
  simp only [createTopic]
  split
  · exact .refl broker
  · split
    · exact .refl broker
    · exact ⟨rfl, rfl⟩

theorem sameReach_append (reached : broker.Reachable) (name : String) (records : List Record) :
    broker.SameReach (broker.step (.append name records)).2 := by
  have opens : (broker.openOn name).2 = broker :=
    question_of_calm (reachable_iff.mp reached).2 name fun _ => .ok ()
  simp only [step]
  generalize broker.openOn name = opened at opens ⊢
  rcases opened with ⟨_ | _, after⟩
  · rw [show after = broker from opens]
    exact .refl broker
  · rw [show after = broker from opens]
    exact sameReach_deliver reached name records

/-- What does not interrupt leaves nothing in the way of requests. -/
theorem reachable_step (reached : broker.Reachable) (calm : action.interrupts = false) :
    (broker.step action).2.Reachable := by
  rcases reachable_iff.mp reached with ⟨connected, noFailures⟩
  have still : ∀ after, broker.SameReach after → after.Reachable := fun after same =>
    reachable_iff.mpr ⟨same.connected_eq.trans connected, same.failuresLeft_eq.trans noFailures⟩
  cases action with
  | createTopic name count => exact still _ (sameReach_createTopic name count broker)
  | disconnect => cases calm
  | reconnect => exact reachable_iff.mpr ⟨rfl, noFailures⟩
  | failNext count =>
      have none : count = 0 := by simpa [Action.interrupts] using calm
      exact reachable_iff.mpr ⟨connected, none⟩
  | append name records => exact still _ (sameReach_append reached name records)
  | readWatermark | readCheckpoint | countMembers => exact reached
  | ask request => exact still _ (sameReach_step request fun _ => reached)

/-- The brokers have the same records, and no request is made to fail. -/
abbrev SameRecords : Broker → Broker → Prop :=
  Alike (fun _ _ => false) id

namespace SameRecords

theorem refl (calm : broker.failuresLeft = 0) : SameRecords broker broker :=
  ⟨rfl, calm, calm, fun _ => rfl, fun _ _ isKept => by cases isKept⟩

theorem symm (same : SameRecords broker other) : SameRecords other broker :=
  ⟨same.connected_eq.symm, same.otherCalm, same.calm, fun name => (same.records_eq name).symm,
    fun _ _ isKept => by cases isKept⟩

/-- A poll leaves no trace in the records. -/
theorem of_poll (calm : broker.failuresLeft = 0) (reader : Reader) (limit patience : Nat) :
    SameRecords broker (broker.step (.ask (.poll reader limit patience))).2 := by
  have polled : SameRecords (broker.step (.ask (.poll reader limit patience))).2 broker :=
    consumer_alike (SameRecords.refl calm) rfl rfl
  exact polled.symm

theorem concerned_step (same : SameRecords broker other) (calm : action.interrupts = false)
    (concerned : action.concerns (fun _ _ => false) = true) :
    SameRecords (broker.step action).2 (other.step action).2 := by
  have unnamed : action.rename id = action := by
    cases action with
    | ask request =>
        cases request with
        | _ => rfl
    | _ => rfl
  have noJoin : ∀ number, Entry.opened? ⟨action, (broker.step action).1⟩ = some number →
      id number = other.nextMember := by
    intro number isOpened
    cases action with
    | ask request =>
        cases request with
        | join => cases concerned
        | _ => cases isOpened
    | _ => cases isOpened
  by_cases counts : ∃ count, action = .failNext count
  · rcases counts with ⟨count, rfl⟩
    have none : count = 0 := by simpa [Action.interrupts] using calm
    exact ⟨same.connected_eq, none, none, same.records_eq, same.group_eq⟩
  · have after := action_alike Function.injective_id same concerned
      (fun count isCount => counts ⟨count, isCount⟩) noJoin
    rw [unnamed] at after
    exact after.2

/-- What consumers do befalls the two brokers one after the other; the rest is done alike. -/
theorem step (same : SameRecords broker other) (calm : action.interrupts = false) :
    SameRecords (broker.step action).2 (other.step action).2 := by
  cases concerned : action.concerns (fun _ _ => false) with
  | true => exact same.concerned_step calm concerned
  | false =>
      cases consumes : action.isOfConsumer with
      | true =>
          have left : SameRecords (broker.step action).2 other :=
            consumer_alike same concerned consumes
          have both : SameRecords (other.step action).2 (broker.step action).2 :=
            consumer_alike left.symm concerned consumes
          exact both.symm
      | false => exact (look_alike same concerned consumes).2

theorem run (same : SameRecords broker other)
    (calm : ∀ action ∈ actions, action.interrupts = false) :
    SameRecords (broker.run actions) (other.run actions) := by
  induction actions generalizing broker other with
  | nil => exact same
  | cons action actions hypothesis =>
      rw [List.forall_mem_cons] at calm
      exact hypothesis (same.step calm.1) calm.2

end SameRecords

/-- A turn is an action, one of those that lie ahead or the look of a watch. So what holds of all
these holds of it, and of those that lie ahead after it. -/
theorem exists_action_of_turn {line : Timeline Broker} {turn : Timeline.Turn} {deadline : Nat}
    {fits : Action → Bool}
    (looks : ∀ topic group count, fits (.ask (.offsets topic group count)) = true)
    (ahead : ∀ action ∈ line.ahead deadline, fits action = true)
    (next : line.nextTurn deadline = some turn) (inTime : line.now ≤ deadline) :
    (line.take turn).now ≤ deadline ∧
      (∀ action ∈ (line.take turn).ahead deadline, fits action = true) ∧
      ∃ action, fits action = true ∧ (line.take turn).log = (line.log.step action).2 := by
  have stillInTime : (line.take turn).now ≤ deadline := by
    have moved := (Timeline.now_take next).2
    omega
  refine ⟨stillInTime, ?_⟩
  rcases Timeline.take_cases next with ⟨action, log_eq, ahead_eq⟩ | ⟨watch, log_eq, ahead_eq⟩
  · rw [ahead_eq deadline stillInTime, List.forall_mem_cons] at ahead
    exact ⟨ahead.2, action, ahead.1, log_eq⟩
  · rw [← ahead_eq deadline] at ahead
    exact ⟨ahead, .ask watch.request, looks watch.topic watch.group watch.partitions, log_eq⟩

end FrontierBus.Broker
