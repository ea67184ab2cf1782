import FrontierBus.Proofs.Broker.Stretches
import FrontierBus.Proofs.Topic.Rounds

/-!
# Portions

What a poll hands out is made up of one portion from each partition that its session owns. A portion
goes on from where the session stands, and no partition falls behind another one by more than a
message while there is something left in it. This holds of every broker, whether a run leads to it or
not.
-/

namespace FrontierBus.Broker

variable {broker before after : Broker} {reader : Reader} {partition id limit patience : Nat}
  {found : Topic} {members : Group} {member : Member}

/-- The messages of a batch that are from a partition. -/
def portion (batch : List Message) (partition : Nat) : List Message :=
  batch.filter fun message => message.partition = partition

/-- A session stands at the end of a partition that it owns, or beyond. -/
def IsThrough (broker : Broker) (reader : Reader) (partition : Nat) : Prop :=
  ∃ position, broker.position reader partition = .ok position ∧
    (broker.messages reader.topic partition).length ≤ position

/-- A session has moved past these messages, which follow its position in a partition. -/
def MovesPast (before after : Broker) (reader : Reader) (partition : Nat)
    (messages : List Message) : Prop :=
  ∃ start, before.position reader partition = .ok start ∧
    after.position reader partition = .ok (start + messages.length) ∧
    messages = ((before.messages reader.topic partition).drop start).take messages.length ∧
    messages.map Message.offset = List.range' start messages.length

/-- A batch of at most `limit` messages is made up of portions, and its session moves past each of
them. -/
structure Portioned (before after : Broker) (reader : Reader) (limit : Nat) (batch : List Message) :
    Prop where
  length_le : batch.length ≤ limit
  owned : ∀ message ∈ batch, message.partition ∈ before.assigned reader
  goesOn : ∀ partition ∈ before.assigned reader,
    MovesPast before after reader partition (portion batch partition)
  complete : batch.length < limit →
    ∀ partition ∈ before.assigned reader, after.IsThrough reader partition
  even : ∀ first ∈ before.assigned reader, ∀ second ∈ before.assigned reader,
    (portion batch first).length + 2 ≤ (portion batch second).length →
      after.IsThrough reader first

/-- The portions of a batch come from the same number of rounds. -/
theorem exists_rounds (found : Topic) (live : members.member? id = some member) (limit : Nat) :
    ∃ rounds, ∀ partition ∈ members.assigned found.count id,
      let batch := batchFor found members member limit
      (portion batch.1 partition).length ≤ rounds ∧
        (rounds ≤ (portion batch.1 partition).length + 1 ∨
          (found.messages partition).length ≤
            (members.setCursors id batch.2).standing id partition) := by
  rcases found.takeBatch_dealt limit (members.freshCursors found.count member) with ⟨rounds, dealt⟩
  refine ⟨rounds, ?_⟩
  intro partition owned batch
  have moved := (batchFor_goesOn live limit owned).1
  rcases exists_cursor_of_owned live limit owned with ⟨cursor, isCursor, remembered⟩
  have here : cursor.partition = partition := by simpa using List.find?_some isCursor
  rcases Topic.find?_of_forall₂ dealt (fun _ _ dealt => dealt.partition_eq) isCursor with
    ⟨old, isOld, isDealt⟩
  have oldHere : old.partition = partition := by simpa using List.find?_some isOld
  have stood := (Group.of_mem_freshCursors (List.mem_of_find?_eq_some isOld)).2
  rw [oldHere, ← Group.remembered?_of_member? live] at stood
  have standing : old.position = members.standing id partition := stood
  have reached : cursor.position = members.standing id partition +
      (portion batch.1 partition).length := by
    rw [remembered, Option.some.injEq] at moved
    exact moved
  have atMost := isDealt.atMost
  refine ⟨by omega, ?_⟩
  rcases isDealt.atLeast with atLeast | nothing
  · exact Or.inl (by omega)
  · right
    rw [← Topic.getElem?_messages, here] at nothing
    rw [Group.standing_of_remembered? remembered]
    exact List.getElem?_eq_none_iff.mp nothing

/-- A poll is answered with a batch whenever its session is live and the broker can be reached. -/
theorem poll_eq_ok_iff :
    (∃ handed, (broker.step (.ask (.poll reader limit patience))).1 = .ok handed) ↔
      (broker.member? reader).isSome ∧ broker.interruption.1 = none := by
  have answer : broker.step (.ask (.poll reader limit patience)) = broker.poll reader limit := rfl
  rw [answer]
  cases live : broker.member? reader with
  | none => simp [Broker.poll, live]
  | some member =>
      have exist : (broker.topic? reader.topic).isSome := by
        rw [Option.isSome_iff_ne_none]
        intro absent
        rw [Broker.member?, group_eq_empty absent] at live
        cases live
      rcases Option.isSome_iff_exists.mp exist with ⟨found, isFound⟩
      simp only [Broker.poll, live, reachingTopic, reaching]
      rcases interruption_cases broker with reached | ⟨fault, left, interrupted⟩
      · simp [reached, isFound]
      · simp [interrupted]

/-- A poll leaves the messages of its topic, and what its session owns, as they are. -/
theorem kept_of_poll (broker : Broker) (reader : Reader) (limit patience : Nat) :
    let after := (broker.step (.ask (.poll reader limit patience))).2
    (∀ partition, after.messages reader.topic partition =
        broker.messages reader.topic partition) ∧
      after.assigned reader = broker.assigned reader := by
  intro after
  have noArrival : after.arrivals = broker.arrivals := arrivals_poll reader limit broker
  exact ⟨messages_step_eq noArrival reader.topic,
    assigned_step_eq (roster_of_unchanged rfl broker) reader.member⟩

theorem mem_assigned_of_mem_batchFor (live : members.member? id = some member) {message : Message}
    (handed : message ∈ (batchFor found members member limit).1) :
    message.partition ∈ members.assigned found.count id := by
  by_contra notOwned
  have nothing := filter_batchFor_of_not_owned live limit notOwned
  rw [List.filter_eq_nil_iff] at nothing
  exact nothing message handed (by simp)

/-- A portion is the beginning of what its session has not read of the partition. -/
theorem portion_eq_take (live : members.member? id = some member) (limit : Nat)
    (owned : partition ∈ members.assigned found.count id) :
    let messages := portion (batchFor found members member limit).1 partition
    messages = ((found.messages partition).drop (members.standing id partition)).take
      messages.length := by
  intro messages
  rcases filter_batchFor_of_owned live limit owned with ⟨stop, _, _, _, stretch⟩
  rw [List.drop_take] at stretch
  apply List.prefix_iff_eq_take.mp
  rw [show messages = _ from stretch]
  exact List.take_prefix _ _

/-- The batch of a member is made up of portions. -/
theorem portioned_of_moved (exist : before.topic? reader.topic = some found)
    (live : (before.group reader.topic reader.group).member? reader.member = some member)
    (changed : after.group reader.topic reader.group =
      (before.group reader.topic reader.group).setCursors reader.member
        (batchFor found (before.group reader.topic reader.group) member limit).2)
    (messages_eq : ∀ partition,
      after.messages reader.topic partition = before.messages reader.topic partition)
    (sameOwned : after.assigned reader = before.assigned reader) :
    Portioned before after reader limit
      (batchFor found (before.group reader.topic reader.group) member limit).1 := by
  have owned_iff : ∀ partition, partition ∈ before.assigned reader →
      partition ∈ (before.group reader.topic reader.group).assigned found.count reader.member := by
    intro partition owned
    rwa [assigned_eq, width_eq_of_topic? exist] at owned
  have stands : ∀ partition ∈ before.assigned reader, after.position reader partition =
      .ok (((before.group reader.topic reader.group).setCursors reader.member
        (batchFor found (before.group reader.topic reader.group) member limit).2).standing
          reader.member partition) := by
    intro partition owned
    rw [position_of_owned (sameOwned ▸ owned), changed]
  have through : ∀ partition ∈ before.assigned reader, (found.messages partition).length ≤
      ((before.group reader.topic reader.group).setCursors reader.member
        (batchFor found (before.group reader.topic reader.group) member limit).2).standing
          reader.member partition → after.IsThrough reader partition := by
    intro partition owned atEnd
    refine ⟨_, stands partition owned, ?_⟩
    rwa [messages_eq, messages_eq_of_topic? exist]
  refine ⟨Topic.length_takeBatch_le found limit _, ?_, ?_, ?_, ?_⟩
  · intro message handed
    rw [assigned_eq, width_eq_of_topic? exist]
    exact mem_assigned_of_mem_batchFor live handed
  · intro partition owned
    have isOwned := owned_iff partition owned
    rcases batchFor_goesOn live limit isOwned with ⟨moved, goesOn⟩
    refine ⟨_, position_of_owned owned, ?_, ?_, goesOn⟩
    · rw [stands partition owned, Group.standing_of_remembered? moved]
      rfl
    · rw [messages_eq_of_topic? exist]
      exact portion_eq_take live limit isOwned
  · intro short partition owned
    exact through partition owned
      (length_le_standing_of_short live (owned_iff partition owned) short)
  · intro first firstOwned second secondOwned behind
    rcases exists_rounds found live limit with ⟨rounds, dealt⟩
    have most := (dealt second (owned_iff second secondOwned)).1
    rcases (dealt first (owned_iff first firstOwned)).2 with least | atEnd
    · omega
    · exact through first firstOwned atEnd

theorem portioned_of_poll {handed : Option (List Message)}
    (answered : (broker.step (.ask (.poll reader limit patience))).1 = .ok handed) :
    Portioned broker (broker.step (.ask (.poll reader limit patience))).2 reader limit
      (handedBy (broker.step (.ask (.poll reader limit patience))).1) := by
  rcases kept_of_poll broker reader limit patience with ⟨messages_eq, sameOwned⟩
  rcases poll_cases reader limit patience broker with
    ⟨fault, failed, _⟩ | ⟨found, member, exist, live, isAnswered, changed⟩
  · rw [failed] at answered
    cases answered
  · rw [isAnswered, handedBy_handedOut]
    exact portioned_of_moved exist live changed messages_eq sameOwned

/-- Whenever the session is live and the broker can be reached, a poll is answered with a batch. It
is made up of one portion from each partition that the session owns: the messages that follow the
position of the session there, past which it moves. The batch is not larger than it may be; if it is
smaller, nothing is left in these partitions; and of two portions the one that is smaller by more
than a message leaves nothing in its partition. -/
theorem poll_portioned (broker : Broker) (reader : Reader) (limit patience : Nat) :
    let served := broker.step (.ask (.poll reader limit patience))
    ((∃ handed, served.1 = .ok handed) ↔
      (broker.member? reader).isSome ∧ broker.interruption.1 = none) ∧
    ((∃ handed, served.1 = .ok handed) →
      Portioned broker served.2 reader limit (handedBy served.1)) := by
  intro served
  refine ⟨poll_eq_ok_iff, ?_⟩
  rintro ⟨handed, answered⟩
  exact portioned_of_poll answered

/-- A session owns three partitions, with three records, one and none. -/
def unevenLog : List Action :=
  [.createTopic "t" 3,
    .append "t" [⟨some 0, none, ⟨#[97]⟩⟩, ⟨some 0, none, ⟨#[98]⟩⟩, ⟨some 0, none, ⟨#[99]⟩⟩,
      ⟨some 1, none, ⟨#[100]⟩⟩],
    .ask (.join "t" "g" .dynamic)]

/-- With room for three messages the second round is cut off behind the first partition. -/
theorem poll_portioned_unevenLog :
    let broker := empty.run unevenLog
    let served := broker.step (.ask (.poll ⟨"t", "g", 0⟩ 3 0))
    Portioned broker served.2 ⟨"t", "g", 0⟩ 3 (handedBy served.1) ∧
      (handedBy served.1).map (fun message => (message.partition, message.offset)) =
        [(0, 0), (1, 0), (0, 1)] := by
  intro broker served
  rcases poll_portioned broker ⟨"t", "g", 0⟩ 3 0 with ⟨answered_iff, portioned⟩
  exact ⟨portioned (answered_iff.mpr (by decide +kernel)), by decide +kernel⟩

end FrontierBus.Broker
