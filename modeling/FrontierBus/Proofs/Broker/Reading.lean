import FrontierBus.Proofs.Broker.Messages
import FrontierBus.Proofs.Consumer.Calls
import FrontierBus.Proofs.Group.Standing

/-!
# Reading a partition

A session that owns a partition all the while is handed its messages one after the other. Neither
what other sessions do nor the checkpoints that anyone sets move it.
-/

namespace FrontierBus.Broker

/-- A session polls. -/
def Action.isPollOf (reader : Reader) : Action → Bool
  | .ask (.poll poller _ _) => poller = reader
  | _ => false

theorem Action.isPollOf_eq_true {reader : Reader} {action : Action} :
    action.isPollOf reader = true ↔ ∃ limit patience, action = .ask (.poll reader limit patience) := by
  constructor
  · intro polls
    cases action with
    | ask request =>
        cases request with
        | poll poller limit patience =>
            have isReader : poller = reader := by simpa [isPollOf] using polls
            exact ⟨limit, patience, by rw [isReader]⟩
        | _ => cases polls
    | _ => cases polls
  · rintro ⟨limit, patience, rfl⟩
    simp [isPollOf]

/-- A run in which a session, from when it stands at the beginning of a partition, goes on owning
it, and the messages of the partition that it has been handed since. -/
inductive ReadThrough (reader : Reader) (partition : Nat) : List Action → List Message → Prop where
  | started {actions : List Action}
      (beginning : (empty.run actions).position reader partition = .ok 0) :
      ReadThrough reader partition actions []
  | beside {actions : List Action} {seen : List Message} {action : Action}
      (read : ReadThrough reader partition actions seen)
      (noPoll : action.isPollOf reader = false)
      (owned : partition ∈ (empty.run (actions ++ [action])).assigned reader) :
      ReadThrough reader partition (actions ++ [action]) seen
  | polled {actions : List Action} {seen : List Message} {limit patience : Nat}
      (read : ReadThrough reader partition actions seen)
      (owned : partition ∈
        (empty.run (actions ++ [.ask (.poll reader limit patience)])).assigned reader) :
      ReadThrough reader partition (actions ++ [.ask (.poll reader limit patience)])
        (seen ++ (handedBy ((empty.run actions).step (.ask (.poll reader limit patience))).1).filter
          fun message => message.partition = partition)

/-- The beginning of a list is continued by the stretch from its end to a place behind it. -/
theorem append_drop_take {Item : Type} {front whole : List Item} {stop : Nat}
    (beginning : front <+: whole) (notBefore : front.length ≤ stop) :
    front ++ (whole.take stop).drop front.length = whole.take stop := by
  rcases beginning with ⟨rest, rfl⟩
  rw [List.take_append, List.take_of_length_le notBefore, List.drop_left]

/-- A batch that its session is handed continues what the session, or those before it, have been
handed from a partition that it owns. -/
theorem batchFor_continues {found : Topic} {members : Group} {member : Member} {partition id : Nat}
    {taken : List Message} (live : members.member? id = some member) (limit : Nat)
    (owned : partition ∈ members.assigned found.count id)
    (beginning : taken <+: found.messages partition)
    (stood : members.standing id partition = taken.length) :
    let batch := batchFor found members member limit
    let more := batch.1.filter fun message => message.partition = partition
    taken ++ more <+: found.messages partition ∧
      (members.setCursors id batch.2).standing id partition = (taken ++ more).length := by
  intro batch more
  rcases filter_batchFor_of_owned live limit owned with
    ⟨stop, remembered, started, inside, stretch⟩
  rw [stood] at started inside stretch
  have all : taken ++ more = (found.messages partition).take stop := by
    simp only [more, batch]
    rw [stretch]
    exact append_drop_take beginning started
  constructor
  · rw [all]
    exact List.take_prefix stop _
  · have enough : stop ≤ (found.messages partition).length := by
      rcases Nat.lt_or_ge taken.length stop with moved | still
      · exact inside moved
      · have atMost := beginning.length_le
        omega
    rw [Group.standing_of_remembered? remembered, all, List.length_take]
    exact (Nat.min_eq_left enough).symm

theorem handedBy_handedOut (limit : Nat) (messages : List Message) :
    handedBy (.ok (handedOut limit messages)) = messages := by
  cases messages with
  | nil =>
      simp only [handedOut]
      split
      · rfl
      · rfl
  | cons message messages => rfl

theorem effectivePosition_eq (broker : Broker) (reader : Reader) (partition : Nat) :
    broker.effectivePosition reader partition =
      (broker.group reader.topic reader.group).standing reader.member partition := by
  simp only [effectivePosition]
  cases found : (broker.group reader.topic reader.group).member? reader.member with
  | none => exact (Group.standing_of_not_member found partition).symm
  | some member =>
      simp only [Group.position_cursor, Group.standing]
      rw [Group.remembered?_of_member? found]

theorem position_of_owned {broker : Broker} {reader : Reader} {partition : Nat}
    (owned : partition ∈ broker.assigned reader) :
    broker.position reader partition =
      .ok ((broker.group reader.topic reader.group).standing reader.member partition) := by
  rw [Broker.position, if_pos (by simpa using owned), effectivePosition_eq]

/-- What a session has been handed is the beginning of its partition, and it stands behind it. -/
structure StandsBehind (reader : Reader) (partition : Nat) (broker : Broker) (seen : List Message) :
    Prop where
  owned : partition ∈ broker.assigned reader
  inOrder : seen <+: broker.messages reader.topic partition
  standing_eq : (broker.group reader.topic reader.group).standing reader.member partition =
    seen.length

variable {topic group : String} {id partition limit patience : Nat} {actions : List Action}
  {action : Action} {seen : List Message}

/-- What is not a poll of the session leaves it where it stands. -/
theorem standing_of_noPoll (noPoll : action.isPollOf ⟨topic, group, id⟩ = false)
    (owned : partition ∈ (empty.run actions).assigned ⟨topic, group, id⟩)
    (stillOwned : partition ∈ ((empty.run actions).step action).2.assigned ⟨topic, group, id⟩) :
    (((empty.run actions).step action).2.group topic group).standing id partition =
      ((empty.run actions).group topic group).standing id partition := by
  have fit := wellFormed_run actions topic group
  rw [assigned_eq] at owned stillOwned
  cases groupStep (empty.run actions) action topic group with
  | kept changed => rw [changed]
  | joined admits changed _ => rw [changed, Group.standing_enlist]
  | @polled other _ _ _ _ _ _ _ changed =>
      have different : id ≠ other := by
        intro same
        simp [Action.isPollOf, same] at noPoll
      rw [changed, Group.standing_setCursors_of_ne different]
  | committed _ changed => rw [changed, Group.standing_commit fit owned]
  | @left gone changed =>
      have different : id ≠ gone := by
        intro same
        have absent : ((empty.run actions).group topic group |>.dismiss gone).member? id = none := by
          simp [Group.member?_dismiss, same]
        rw [changed, Group.assigned_of_member?_none absent] at stillOwned
        cases stillOwned
      rw [changed, Group.standing_dismiss different]

namespace StandsBehind

theorem initial
    (beginning : (empty.run actions).position ⟨topic, group, id⟩ partition = .ok 0) :
    StandsBehind ⟨topic, group, id⟩ partition (empty.run actions) [] := by
  simp only [position] at beginning
  split at beginning
  · rename_i owned
    rw [effectivePosition_eq, Except.ok.injEq] at beginning
    exact ⟨by simpa using owned, List.nil_prefix, beginning⟩
  · cases beginning

theorem beside (behind : StandsBehind ⟨topic, group, id⟩ partition (empty.run actions) seen)
    (noPoll : action.isPollOf ⟨topic, group, id⟩ = false)
    (owned : partition ∈ (empty.run (actions ++ [action])).assigned ⟨topic, group, id⟩) :
    StandsBehind ⟨topic, group, id⟩ partition (empty.run (actions ++ [action])) seen := by
  rw [run_concat] at owned ⊢
  refine ⟨owned, behind.inOrder.trans (messages_step _ action topic partition), ?_⟩
  exact (standing_of_noPoll noPoll behind.owned owned).trans behind.standing_eq

theorem polled (behind : StandsBehind ⟨topic, group, id⟩ partition (empty.run actions) seen)
    (owned : partition ∈ (empty.run
      (actions ++ [.ask (.poll ⟨topic, group, id⟩ limit patience)])).assigned ⟨topic, group, id⟩) :
    StandsBehind ⟨topic, group, id⟩ partition
      (empty.run (actions ++ [.ask (.poll ⟨topic, group, id⟩ limit patience)]))
      (seen ++ (handedBy ((empty.run actions).step
        (.ask (.poll ⟨topic, group, id⟩ limit patience))).1).filter
          fun message => message.partition = partition) := by
  rw [run_concat] at owned ⊢
  have grown := messages_step (empty.run actions) (.ask (.poll ⟨topic, group, id⟩ limit patience))
    topic partition
  rcases poll_cases ⟨topic, group, id⟩ limit patience (empty.run actions) with
    ⟨fault, failed, same⟩ | ⟨found, member, exist, live, answered, changed⟩
  · rw [failed]
    simp only [handedBy, List.filter_nil, List.append_nil]
    refine ⟨owned, behind.inOrder.trans grown, ?_⟩
    rw [group_congr same]
    exact behind.standing_eq
  · rw [answered, handedBy_handedOut]
    have owns := behind.owned
    have beginning := behind.inOrder
    rw [assigned_eq, width_eq_of_topic? exist] at owns
    rw [messages_eq_of_topic? exist] at beginning
    have continued := batchFor_continues live limit owns beginning behind.standing_eq
    rw [← messages_eq_of_topic? exist] at continued
    refine ⟨owned, continued.1.trans grown, ?_⟩
    rw [changed]
    exact continued.2

end StandsBehind

/-- A session that reads a partition through is handed the beginning of it, in order, without a gap
and without a repetition. -/
theorem standsBehind_of_readThrough {reader : Reader}
    (read : ReadThrough reader partition actions seen) :
    StandsBehind reader partition (empty.run actions) seen := by
  rcases reader with ⟨topic, group, id⟩
  induction read with
  | started beginning => exact .initial beginning
  | beside _ noPoll owned behind => exact behind.beside noPoll owned
  | polled _ owned behind => exact behind.polled owned

end FrontierBus.Broker
