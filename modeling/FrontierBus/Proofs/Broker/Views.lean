import FrontierBus.Broker.Action
import Mathlib.Data.List.Infix

/-!
# Views of a broker

Nothing beyond this file looks at how topics, groups and checkpoints are kept. A broker is seen
through the groups on its topics, the number of partitions of a topic, and the records of a
partition; what exchanging a part does to these views is stated here once.
-/

namespace FrontierBus.Broker

theorem lookup_cons_eq_ite {Key Value : Type} [DecidableEq Key] (key other : Key) (value : Value)
    (entries : List (Key × Value)) :
    ((key, value) :: entries).lookup other =
      if other = key then some value else entries.lookup other := by
  rw [List.lookup_cons]
  split <;> simp_all

/-- A list whose entry for one key is exchanged, or put at the end, has the new entry for that key
and the old ones for all others. -/
theorem lookup_exchange {Key Value : Type} [DecidableEq Key] {key : Key} {value : Value}
    (exchange : List (Key × Value) → List (Key × Value)) (atEnd : exchange [] = [(key, value)])
    (atHead : ∀ first firstValue rest, exchange ((first, firstValue) :: rest) =
      if first = key then (key, value) :: rest else (first, firstValue) :: exchange rest)
    (entries : List (Key × Value)) (other : Key) :
    (exchange entries).lookup other = if other = key then some value else entries.lookup other := by
  induction entries with
  | nil => rw [atEnd, lookup_cons_eq_ite]
  | cons entry rest hypothesis =>
      rcases entry with ⟨first, firstValue⟩
      rw [atHead, lookup_cons_eq_ite]
      by_cases found : first = key
      · rw [if_pos found, lookup_cons_eq_ite, found]
        split <;> rfl
      · rw [if_neg found, lookup_cons_eq_ite, hypothesis]
        by_cases same : other = first
        · rw [if_pos same, if_neg (same ▸ found), if_pos same]
        · rw [if_neg same, if_neg same]

theorem Group.lookup_setCheckpoint (partition offset : Nat) (committed : List (Nat × Nat))
    (other : Nat) :
    (setCheckpoint partition offset committed).lookup other =
      if other = partition then some offset else committed.lookup other :=
  lookup_exchange (setCheckpoint partition offset) rfl (fun _ _ _ => rfl) committed other

namespace Topic

theorem group_setGroup (topic : Topic) (name other : String) (group : Group) :
    (topic.setGroup name group).group other =
      if other = name then group else topic.group other := by
  have exchanged : (replaceGroup name group topic.groups).lookup other =
      if other = name then some group else topic.groups.lookup other :=
    lookup_exchange (replaceGroup name group) rfl (fun _ _ _ => rfl) topic.groups other
  simp only [Topic.group, setGroup]
  rw [exchanged]
  split <;> rfl

@[simp]
theorem group_create (count : Nat) (name : String) : (create count).group name = .empty := rfl

@[simp]
theorem count_push (topic : Topic) (partition : Nat) (record : StoredRecord) :
    (topic.push partition record).count = topic.count := by
  simp [push, count]

theorem records_push (topic : Topic) (target partition : Nat) (record : StoredRecord) :
    (topic.push target record).records partition =
      if target = partition ∧ partition < topic.count then
        (topic.records partition).push record
      else topic.records partition := by
  simp only [records, push, count]
  rw [Array.getD_eq_getD_getElem?, Array.getD_eq_getD_getElem?, Array.getElem?_modify]
  by_cases same : target = partition
  · by_cases inside : partition < topic.partitions.size
    · simp [same, inside]
    · simp [same, inside]
  · simp [same]

/-- Nothing is taken out of a topic: each partition keeps its records and may get more at its
end. -/
structure Keeps (before after : Topic) : Prop where
  count_eq : after.count = before.count
  records_prefix : ∀ partition,
    (before.records partition).toList <+: (after.records partition).toList

theorem Keeps.refl (topic : Topic) : topic.Keeps topic :=
  ⟨rfl, fun _ => List.prefix_refl _⟩

theorem Keeps.trans {before between after : Topic} (first : before.Keeps between)
    (second : between.Keeps after) : before.Keeps after :=
  ⟨second.count_eq.trans first.count_eq,
    fun partition => (first.records_prefix partition).trans (second.records_prefix partition)⟩

/-- A record keeps its offset. -/
theorem Keeps.messageAt {before after : Topic} (keeps : before.Keeps after) {cursor : Cursor}
    {message : Message} (stored : before.messageAt cursor = some message) :
    after.messageAt cursor = some message := by
  simp only [Topic.messageAt] at stored ⊢
  rw [Option.map_eq_some_iff] at stored ⊢
  rcases stored with ⟨record, isRecord, isMessage⟩
  refine ⟨record, ?_, isMessage⟩
  rcases keeps.records_prefix cursor.partition with ⟨more, appended⟩
  have inside : cursor.position < (before.records cursor.partition).toList.length :=
    (Array.getElem?_eq_some_iff.mp isRecord).1
  rw [← Array.getElem?_toList, ← appended, List.getElem?_append_left inside,
    Array.getElem?_toList, isRecord]

theorem partition_of_messageAt {topic : Topic} {cursor : Cursor} {message : Message}
    (stored : topic.messageAt cursor = some message) : message.partition = cursor.partition := by
  rcases Option.map_eq_some_iff.mp stored with ⟨record, _, rfl⟩
  rfl

/-- Groups are no part of what a topic keeps. -/
theorem Keeps.setGroup (topic : Topic) (name : String) (group : Group) :
    topic.Keeps (topic.setGroup name group) :=
  ⟨rfl, fun _ => List.prefix_refl _⟩

/-- Records are added to a topic, and nothing else happens to it. -/
structure Extends (before after : Topic) : Prop where
  keeps : before.Keeps after
  groups_eq : after.groups = before.groups

namespace Extends

theorem refl (topic : Topic) : topic.Extends topic :=
  ⟨.refl topic, rfl⟩

theorem trans {before between after : Topic} (first : before.Extends between)
    (second : between.Extends after) : before.Extends after :=
  ⟨first.keeps.trans second.keeps, second.groups_eq.trans first.groups_eq⟩

theorem group_eq {before after : Topic} (grown : before.Extends after) (name : String) :
    after.group name = before.group name := by
  simp [Topic.group, grown.groups_eq]

theorem push (topic : Topic) (partition : Nat) (record : StoredRecord) :
    topic.Extends (topic.push partition record) := by
  refine ⟨⟨count_push topic partition record, ?_⟩, rfl⟩
  intro other
  rw [records_push]
  split
  · rw [Array.toList_push]
    exact List.prefix_append _ _
  · exact List.prefix_refl _

theorem append (name : String) (topic : Topic) (record : Record) :
    topic.Extends (topic.append name record).2 := by
  cases target : record.partition with
  | none =>
      simp only [Topic.append, target]
      have pushed := Extends.push topic (topic.turn % topic.count) ⟨record.key, record.payload⟩
      exact ⟨⟨pushed.keeps.count_eq, pushed.keeps.records_prefix⟩, pushed.groups_eq⟩
  | some partition =>
      simp only [Topic.append, target]
      split
      · exact Extends.push topic partition _
      · exact refl topic

theorem appendAll (name : String) (topic : Topic) (records : List Record) :
    topic.Extends (topic.appendAll name records).2 := by
  induction records generalizing topic with
  | nil => exact refl topic
  | cons record records hypothesis => exact (append name topic record).trans (hypothesis _)

end Extends

end Topic

variable {broker : Broker} {topic group : String} {found : Topic}

/-- The number of partitions of a topic, none if it does not exist. -/
def width (broker : Broker) (topic : String) : Nat :=
  match broker.topic? topic with
  | none => 0
  | some found => found.count

/-- The record at an offset of a partition, as a message. -/
def messageAt? (broker : Broker) (topic : String) (partition offset : Nat) : Option Message :=
  (broker.topic? topic).bind fun found => found.messageAt ⟨partition, offset⟩

theorem topic?_setTopic (broker : Broker) (name other : String) (topic : Topic) :
    (broker.setTopic name topic).topic? other =
      if other = name then some topic else broker.topic? other :=
  lookup_exchange (replaceTopic name topic) rfl (fun _ _ _ => rfl) broker.topics other

theorem group_eq_of_topic? (exist : broker.topic? topic = some found) (group : String) :
    broker.group topic group = found.group group := by
  simp [Broker.group, exist]

theorem group_eq_empty (absent : broker.topic? topic = none) (group : String) :
    broker.group topic group = .empty := by
  simp [Broker.group, absent]

theorem width_eq_of_topic? (exist : broker.topic? topic = some found) :
    broker.width topic = found.count := by
  simp [width, exist]

theorem messageAt?_eq_of_topic? (exist : broker.topic? topic = some found)
    (partition offset : Nat) :
    broker.messageAt? topic partition offset = found.messageAt ⟨partition, offset⟩ := by
  simp [messageAt?, exist]

theorem group_setTopic (broker : Broker) (name other : String) (topic : Topic)
    (group : String) :
    (broker.setTopic name topic).group other group =
      if other = name then topic.group group else broker.group other group := by
  simp only [Broker.group]
  rw [topic?_setTopic]
  by_cases same : other = name
  · simp [same]
  · simp [same]

theorem startOffset_of_checkpoint? {partition checkpoint : Nat}
    (reached : broker.checkpoint? topic group partition = some checkpoint) :
    (broker.group topic group).startOffset partition = checkpoint := by
  rw [Broker.checkpoint?] at reached
  rw [Group.startOffset, reached, Option.getD_some]

/-- A session owns what its member is assigned in the group. -/
theorem assigned_eq (broker : Broker) (reader : Reader) :
    broker.assigned reader =
      (broker.group reader.topic reader.group).assigned (broker.width reader.topic)
        reader.member := by
  cases exist : broker.topic? reader.topic with
  | none =>
      rw [group_eq_empty exist]
      simp [assigned, exist, Group.assigned, Group.member?, Group.empty]
  | some found =>
      rw [group_eq_of_topic? exist, width_eq_of_topic? exist]
      simp [assigned, exist, Topic.assigned]

end FrontierBus.Broker
