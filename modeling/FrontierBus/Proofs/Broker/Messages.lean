import FrontierBus.Proofs.Broker.Runs
import FrontierBus.Proofs.Topic.Batches

/-!
# Messages of a broker

The messages of a partition are numbered by their offsets and only become more. A session that
polls goes on from where it stands, without a gap, in each partition that it owns.
-/

namespace FrontierBus.Broker

namespace Topic

theorem map_offset_messages (topic : Topic) (partition : Nat) :
    (topic.messages partition).map Message.offset =
      List.range (topic.messages partition).length := by
  apply List.ext_getElem
  · simp
  · intro offset _ _
    simp [messages]

theorem Keeps.messages {before after : Topic} (keeps : before.Keeps after) (partition : Nat) :
    before.messages partition <+: after.messages partition := by
  rcases keeps.records_prefix partition with ⟨more, appended⟩
  simp only [Topic.messages]
  rw [← appended, List.mapIdx_append]
  exact List.prefix_append _ _

end Topic

variable {before : Broker} {topic group : String} {partition id : Nat} {found : Topic}
  {members : Group} {member : Member}

/-- The messages of a partition, in the order of their offsets; none if there is no such topic. -/
def messages (broker : Broker) (topic : String) (partition : Nat) : List Message :=
  match broker.topic? topic with
  | none => []
  | some found => found.messages partition

theorem messages_eq_of_topic? {broker : Broker} (exist : broker.topic? topic = some found)
    (partition : Nat) : broker.messages topic partition = found.messages partition := by
  simp [messages, exist]

theorem map_offset_messages (broker : Broker) (topic : String) (partition : Nat) :
    (broker.messages topic partition).map Message.offset =
      List.range (broker.messages topic partition).length := by
  cases exist : broker.topic? topic with
  | none => simp [messages, exist]
  | some found =>
      rw [messages_eq_of_topic? exist]
      exact found.map_offset_messages partition

theorem messages_step (before : Broker) (action : Action) (topic : String) (partition : Nat) :
    before.messages topic partition <+: (before.step action).2.messages topic partition := by
  cases exist : before.topic? topic with
  | none => simp [messages, exist]
  | some found =>
      rcases topic?_step exist action with ⟨later, stillExist, keeps⟩
      rw [messages_eq_of_topic? exist, messages_eq_of_topic? stillExist]
      exact keeps.messages partition

theorem batchFor_drawn (topic : Topic) (group : Group) (member : Member) (limit : Nat) :
    List.Forall₂ (topic.Drawn (batchFor topic group member limit).1)
      (group.freshCursors topic.count member) (batchFor topic group member limit).2 := by
  apply Topic.takeBatch_drawn
  rw [Group.map_partition_freshCursors]
  exact Group.assigned_nodup group topic.count member.id

/-- From a partition that its session does not own a poll hands out nothing. -/
theorem filter_batchFor_of_not_owned (live : members.member? id = some member) (limit : Nat)
    (notOwned : partition ∉ members.assigned found.count id) :
    (batchFor found members member limit).1.filter (fun message => message.partition = partition) =
      [] := by
  apply Topic.filter_partition_eq_nil (Topic.from_takeBatch found limit _)
  rw [Group.map_partition_freshCursors, Group.id_of_member? live]
  exact notOwned

/-- A poll leaves its session with a cursor in each partition that it owns. -/
theorem exists_cursor_of_owned (live : members.member? id = some member) (limit : Nat)
    (owned : partition ∈ members.assigned found.count id) :
    ∃ moved, (batchFor found members member limit).2.find?
        (fun cursor => cursor.partition = partition) = some moved ∧
      (members.setCursors id (batchFor found members member limit).2).remembered? id partition =
        some moved.position := by
  rw [← Group.id_of_member? live, ← map_partition_batchFor found members member limit] at owned
  rcases List.mem_map.mp owned with ⟨present, amongThem, inPartition⟩
  have isThere : ((batchFor found members member limit).2.find?
      fun cursor => cursor.partition = partition).isSome := by
    rw [List.find?_isSome]
    exact ⟨present, amongThem, by simpa using inPartition⟩
  rcases Option.isSome_iff_exists.mp isThere with ⟨moved, isMoved⟩
  refine ⟨moved, isMoved, ?_⟩
  rw [Group.remembered?_setCursors_self live, isMoved]
  rfl

/-- From a partition that its session owns a poll hands out the stretch from where the session
stands to where it stands afterwards. -/
theorem filter_batchFor_of_owned (live : members.member? id = some member) (limit : Nat)
    (owned : partition ∈ members.assigned found.count id) :
    ∃ stop, (members.setCursors id (batchFor found members member limit).2).remembered? id
        partition = some stop ∧
      members.standing id partition ≤ stop ∧
      (members.standing id partition < stop → stop ≤ (found.messages partition).length) ∧
      (batchFor found members member limit).1.filter
          (fun message => message.partition = partition) =
        ((found.messages partition).take stop).drop (members.standing id partition) := by
  rcases exists_cursor_of_owned live limit owned with ⟨moved, isMoved, remembered⟩
  rcases Topic.find?_of_forall₂ (batchFor_drawn found members member limit)
      (fun _ _ drawn => drawn.partition_eq) isMoved with ⟨cursor, isCursor, stretch⟩
  have here : cursor.partition = partition := by simpa using List.find?_some isCursor
  have stood := (Group.of_mem_freshCursors (List.mem_of_find?_eq_some isCursor)).2
  rw [here, ← Group.remembered?_of_member? live] at stood
  have standing : cursor.position = members.standing id partition := stood
  refine ⟨moved.position, remembered, ?_, ?_, ?_⟩
  · rw [← standing]
    exact stretch.position_le
  · rw [← standing, ← here]
    exact stretch.inside
  · rw [← standing, ← here]
    exact stretch.filter_eq

/-- A poll that hands out less than it may leaves nothing behind in what its session owns. -/
theorem length_le_standing_of_short (live : members.member? id = some member) {limit : Nat}
    (owned : partition ∈ members.assigned found.count id)
    (short : (batchFor found members member limit).1.length < limit) :
    (found.messages partition).length ≤
      (members.setCursors id (batchFor found members member limit).2).standing id partition := by
  rcases exists_cursor_of_owned live limit owned with ⟨moved, isMoved, remembered⟩
  have here : moved.partition = partition := by simpa using List.find?_some isMoved
  have nothing := Topic.messageAt_of_takeBatch_short short moved (List.mem_of_find?_eq_some isMoved)
  rw [← Topic.getElem?_messages, here] at nothing
  rw [Group.standing_of_remembered? remembered]
  exact List.getElem?_eq_none_iff.mp nothing

/-- A poll fails and leaves the topics as they are, or it hands out a batch. -/
theorem poll_cases (reader : Reader) (limit patience : Nat) (before : Broker) :
    (∃ fault, (before.step (.ask (.poll reader limit patience))).1 = .error fault ∧
        (before.step (.ask (.poll reader limit patience))).2.topics = before.topics) ∨
      ∃ found member, before.topic? reader.topic = some found ∧
        (before.group reader.topic reader.group).member? reader.member = some member ∧
        (before.step (.ask (.poll reader limit patience))).1 = .ok (handedOut limit
          (batchFor found (before.group reader.topic reader.group) member limit).1) ∧
        (before.step (.ask (.poll reader limit patience))).2.group reader.topic reader.group =
          (before.group reader.topic reader.group).setCursors reader.member
            (batchFor found (before.group reader.topic reader.group) member limit).2 := by
  have answer : before.step (.ask (.poll reader limit patience)) = before.poll reader limit := rfl
  rw [answer]
  cases live : before.member? reader with
  | none =>
      refine Or.inl ⟨.closed, ?_, ?_⟩
      · simp only [Broker.poll, live]
      · simp only [Broker.poll, live]
  | some member =>
      simp only [Broker.poll, live]
      rcases reachingTopic_cases reader.topic _ before with
        ⟨found, exist, served⟩ | ⟨fault, left, refused⟩
      · rw [served]
        refine Or.inr ⟨found, member, exist, live, ?_, ?_⟩
        · rw [group_eq_of_topic? exist]
          rfl
        · have same : member.id = reader.member := Group.id_of_member? live
          rw [group_eq_of_topic? exist, ← same]
          change (before.setTopic reader.topic (found.setGroup reader.group _)).group _ _ = _
          rw [group_exchange exist, if_pos ⟨rfl, rfl⟩]
          rfl
      · rw [refused]
        exact Or.inl ⟨fault, rfl, rfl⟩

end FrontierBus.Broker
