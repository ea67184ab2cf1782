import FrontierBus.Proofs.Broker.Reading

/-!
# Offsets inside the log

Checkpoints become positions, positions move over records, and positions become checkpoints again.
No turn of this leads beyond the end of a partition, so the lag that a probe computes by a
subtraction is the number of records that are still to be checked off.
-/

namespace FrontierBus.Broker

variable {before broker : Broker} {topic group : String} {partition offset id count : Nat}

theorem Topic.highWatermark?_eq_some {found : Topic} {mark : Nat} :
    found.highWatermark? partition = some mark ↔
      partition < found.count ∧ mark = (found.messages partition).length := by
  simp only [Topic.highWatermark?, Topic.count, Topic.messages, Topic.records,
    Option.map_eq_some_iff, Array.getElem?_eq_some_iff, Array.getD_eq_getD_getElem?,
    List.length_mapIdx, Array.length_toList]
  constructor
  · rintro ⟨records, ⟨inside, isRecords⟩, rfl⟩
    simp [inside, isRecords]
  · rintro ⟨inside, rfl⟩
    exact ⟨found.partitions[partition], ⟨inside, rfl⟩, by simp [inside]⟩

theorem highWatermark?_eq_some {mark : Nat} :
    broker.highWatermark? topic partition = some mark ↔
      partition < broker.width topic ∧ mark = (broker.messages topic partition).length := by
  cases exist : broker.topic? topic with
  | none => simp [Broker.highWatermark?, width, exist]
  | some found =>
      rw [width_eq_of_topic? exist, messages_eq_of_topic? exist,
        ← Topic.highWatermark?_eq_some]
      simp [Broker.highWatermark?, exist]

/-- An offset in a partition that exists, not beyond the end of it. -/
def Inside (broker : Broker) (topic : String) (partition offset : Nat) : Prop :=
  ∃ mark, broker.highWatermark? topic partition = some mark ∧ offset ≤ mark

theorem inside_iff :
    broker.Inside topic partition offset ↔
      partition < broker.width topic ∧ offset ≤ (broker.messages topic partition).length := by
  simp only [Inside, highWatermark?_eq_some]
  constructor
  · rintro ⟨mark, ⟨isThere, rfl⟩, notBeyond⟩
    exact ⟨isThere, notBeyond⟩
  · rintro ⟨isThere, notBeyond⟩
    exact ⟨_, ⟨isThere, rfl⟩, notBeyond⟩

theorem Inside.step (inside : before.Inside topic partition offset) (action : Action) :
    (before.step action).2.Inside topic partition offset := by
  rw [inside_iff] at inside ⊢
  have wider := width_le_step before action topic
  have longer := (messages_step before action topic partition).length_le
  omega

/-- The checkpoints of a group and all that its members remember lie inside the log. -/
structure Bounded (broker : Broker) (topic group : String) : Prop where
  checkpoint : ∀ partition checkpoint,
    broker.checkpoint? topic group partition = some checkpoint →
      broker.Inside topic partition checkpoint
  cursor : ∀ member ∈ (broker.group topic group).members, ∀ cursor ∈ member.cursors,
    broker.Inside topic cursor.partition cursor.position

namespace Bounded

theorem remembered {position : Nat} (bounded : broker.Bounded topic group)
    (remembers : (broker.group topic group).remembered? id partition = some position) :
    broker.Inside topic partition position := by
  simp only [Group.remembered?, Member.remembered?, Option.bind_eq_some_iff,
    Option.map_eq_some_iff] at remembers
  rcases remembers with ⟨member, live, cursor, found, rfl⟩
  have here : cursor.partition = partition := by simpa using List.find?_some found
  rw [← here]
  exact bounded.cursor member (Group.mem_members_of_member? live) cursor
    (List.mem_of_find?_eq_some found)

theorem startOffset (bounded : broker.Bounded topic group)
    (isThere : partition < broker.width topic) :
    broker.Inside topic partition ((broker.group topic group).startOffset partition) := by
  cases reached : broker.checkpoint? topic group partition with
  | none =>
      rw [checkpoint?] at reached
      rw [Group.startOffset, reached, inside_iff]
      exact ⟨isThere, Nat.zero_le _⟩
  | some checkpoint =>
      rw [startOffset_of_checkpoint? reached]
      exact bounded.checkpoint partition checkpoint reached

theorem standing (bounded : broker.Bounded topic group)
    (isThere : partition < broker.width topic) (id : Nat) :
    broker.Inside topic partition ((broker.group topic group).standing id partition) := by
  cases recalled : (broker.group topic group).remembered? id partition with
  | none =>
      rw [Group.standing_of_not_remembered recalled]
      exact bounded.startOffset isThere
  | some position =>
      rw [Group.standing_of_remembered? recalled]
      exact bounded.remembered recalled

/-- A batch takes the cursors of its member no further than the ends of their partitions. -/
theorem of_mem_batchFor {found : Topic} {member : Member} {limit next : Nat} {cursor : Cursor}
    (bounded : broker.Bounded topic group) (exist : broker.topic? topic = some found)
    (fit : (broker.group topic group).WellFormed (broker.width topic) next)
    (live : (broker.group topic group).member? id = some member)
    (present : cursor ∈ (batchFor found (broker.group topic group) member limit).2) :
    broker.Inside topic cursor.partition cursor.position := by
  rcases Topic.exists_of_mem_of_forall₂
      (batchFor_drawn found (broker.group topic group) member limit) present with
    ⟨old, isFresh, drawn⟩
  rcases Group.of_mem_freshCursors isFresh with ⟨owned, stood⟩
  rw [← width_eq_of_topic? exist] at owned
  rw [← Group.remembered?_of_member? live] at stood
  have begun := bounded.standing (fit.lt_count_of_mem_assigned owned) id
  rw [Group.standing, ← stood, inside_iff, messages_eq_of_topic? exist] at begun
  rw [drawn.partition_eq, inside_iff, messages_eq_of_topic? exist]
  have notBefore := drawn.position_le
  have notBeyond := drawn.inside
  omega

/-- Only a poll moves positions and only a commit moves checkpoints, and what each moves it takes
from the other kind. -/
theorem step {next : Nat} (bounded : before.Bounded topic group)
    (fit : (before.group topic group).WellFormed (before.width topic) next) (action : Action) :
    (before.step action).2.Bounded topic group := by
  have kept : ∀ {changed : Group},
      (before.step action).2.group topic group = changed →
      (∀ partition, changed.checkpoint? partition =
        (before.group topic group).checkpoint? partition) →
      (∀ member ∈ changed.members, ∀ cursor ∈ member.cursors,
        before.Inside topic cursor.partition cursor.position) →
      (before.step action).2.Bounded topic group := by
    intro changed isChanged sameCheckpoints inside
    constructor
    · intro partition checkpoint reached
      rw [checkpoint?, isChanged, sameCheckpoints] at reached
      exact (bounded.checkpoint partition checkpoint reached).step action
    · intro member present cursor known
      rw [isChanged] at present
      exact (inside member present cursor known).step action
  cases groupStep before action topic group with
  | kept changed => exact kept changed (fun _ => rfl) bounded.cursor
  | joined _ changed _ =>
      refine kept changed (fun _ => rfl) ?_
      intro member present cursor known
      rcases List.mem_append.mp present with old | new
      · exact bounded.cursor member old cursor known
      · rw [List.mem_singleton.mp new] at known
        cases known
  | polled exist live _ changed =>
      refine kept changed (fun _ => rfl) ?_
      intro member present cursor known
      rcases Group.of_mem_setCursors present with ⟨old, oldPresent, _, _, same | new⟩
      · rw [same] at known
        exact bounded.cursor old oldPresent cursor known
      · rw [new] at known
        exact bounded.of_mem_batchFor exist fit live known
  | @committed committer _ changed =>
      constructor
      · intro partition checkpoint reached
        apply Inside.step
        rw [checkpoint?, changed, Group.checkpoint?_commit fit] at reached
        split at reached
        · rw [Option.or_eq_some_iff] at reached
          rcases reached with remembers | ⟨_, before⟩
          · exact bounded.remembered remembers
          · exact bounded.checkpoint partition checkpoint before
        · exact bounded.checkpoint partition checkpoint reached
      · intro member present cursor known
        rw [changed] at present
        apply Inside.step
        refine bounded.cursor member ?_ cursor known
        simp only [Group.commit] at present
        split at present
        · exact present
        · exact present
  | left changed =>
      refine kept changed (fun _ => rfl) ?_
      intro member present cursor known
      exact bounded.cursor member (List.mem_of_mem_filter present) cursor known

end Bounded

theorem bounded_run (actions : List Action) (topic group : String) :
    (empty.run actions).Bounded topic group := by
  induction actions using List.reverseRecOn with
  | nil =>
      constructor
      · intro partition checkpoint reached
        cases reached
      · intro member present
        cases present
  | append_singleton actions action hypothesis =>
      rw [run_concat]
      exact hypothesis.step (wellFormed_run actions topic group) action

theorem inside_of_position {actions : List Action}
    (answered : (empty.run actions).position ⟨topic, group, id⟩ partition = .ok offset) :
    (empty.run actions).Inside topic partition offset := by
  simp only [position] at answered
  split at answered
  · rename_i owned
    rw [effectivePosition_eq, Except.ok.injEq] at answered
    rw [← answered]
    apply (bounded_run actions topic group).standing
    apply (wellFormed_run actions topic group).lt_count_of_mem_assigned
    rw [← assigned_eq _ ⟨topic, group, id⟩]
    simpa using owned
  · cases answered

theorem countP_of_map_offset {messages : List Message} {start : Nat}
    (numbered : messages.map Message.offset = List.range messages.length) :
    messages.countP (fun message => start ≤ message.offset) = messages.length - start := by
  have counted : ∀ length,
      (List.range length).countP (fun offset => start ≤ offset) = length - start := by
    intro length
    induction length with
    | zero => simp
    | succ length hypothesis =>
        rw [List.range_succ, List.countP_append, hypothesis, List.countP_singleton]
        split
        · simp_all
          omega
        · simp_all
          omega
  rw [← counted, ← numbered, List.countP_map]
  rfl

/-- A probe is answered if it reaches the broker and asks for partitions that exist; it tells the
end of each and the checkpoint of the group. -/
theorem offsets_eq_ok {entries : List PartitionOffsets} :
    (before.step (.ask (.offsets topic group count))).1 = .ok entries ↔
      before.interruption.1 = none ∧ (before.topic? topic).isSome ∧ count ≤ before.width topic ∧
        entries = (List.range count).map fun partition =>
          ⟨partition, (before.messages topic partition).length,
            before.checkpoint? topic group partition⟩ := by
  have answer : (before.step (.ask (.offsets topic group count))).1 =
      (before.offsets topic group count).1 := rfl
  rw [answer, Broker.offsets, reachingTopic, reaching]
  rcases interruption_cases before with reached | ⟨fault, left, interrupted⟩
  · cases exist : before.topic? topic with
    | none => simp [reached, exist]
    | some found =>
        have isFound : (List.range count).map (fun partition =>
            (⟨partition, (before.messages topic partition).length,
              before.checkpoint? topic group partition⟩ : PartitionOffsets)) =
            (List.range count).map fun partition =>
              ⟨partition, (found.records partition).size,
                (found.group group).checkpoint? partition⟩ := by
          simp [messages_eq_of_topic? exist, Topic.messages, checkpoint?,
            group_eq_of_topic? exist]
        rw [isFound, width_eq_of_topic? exist]
        simp only [reached, exist, Topic.offsets]
        split
        · simp
          omega
        · simp [eq_comm]
          omega
  · simp [interrupted]

/-- After every run the checkpoints of a group, what its live sessions remember and whatever
position they tell lie inside the log. A probe of partitions that exist tells of one after the other
how many records stand at or past the checkpoint, and the subtraction that this comes from never
falls short. -/
theorem lag_eq_outstanding (actions : List Action) (topic group : String) :
    let broker := empty.run actions
    broker.Bounded topic group ∧
      (∀ id partition position,
        broker.position ⟨topic, group, id⟩ partition = .ok position →
          broker.Inside topic partition position) ∧
      ∀ count,
        (broker.interruption.1 = none → (broker.topic? topic).isSome → count ≤ broker.width topic →
          ∃ entries, (broker.step (.ask (.offsets topic group count))).1 = .ok entries) ∧
        ∀ entries, (broker.step (.ask (.offsets topic group count))).1 = .ok entries →
          count ≤ broker.width topic ∧
          entries.map PartitionOffsets.partition = List.range count ∧
          ∀ entry ∈ entries,
            broker.highWatermark? topic entry.partition = some entry.highWatermark ∧
            entry.committed = broker.checkpoint? topic group entry.partition ∧
            entry.committed.getD 0 + entry.lag = entry.highWatermark ∧
            entry.lag = (broker.messages topic entry.partition).countP
              fun message => entry.committed.getD 0 ≤ message.offset := by
  intro broker
  have bounded : broker.Bounded topic group := bounded_run actions topic group
  refine ⟨bounded, fun id partition position => inside_of_position, ?_⟩
  intro count
  constructor
  · intro reached exist noMore
    exact ⟨_, offsets_eq_ok.mpr ⟨reached, exist, noMore, rfl⟩⟩
  · intro entries answered
    rcases offsets_eq_ok.mp answered with ⟨_, _, noMore, rfl⟩
    refine ⟨noMore, by simp [Function.comp_def], ?_⟩
    intro entry present
    rcases List.mem_map.mp present with ⟨partition, below, rfl⟩
    have isThere : partition < broker.width topic := by
      rw [List.mem_range] at below
      omega
    have started := (inside_iff.mp (bounded.startOffset isThere)).2
    refine ⟨highWatermark?_eq_some.mpr ⟨isThere, rfl⟩, rfl, ?_, ?_⟩
    · simp only [PartitionOffsets.lag]
      rw [Group.startOffset] at started
      rw [checkpoint?]
      omega
    · rw [countP_of_map_offset (map_offset_messages broker topic partition)]
      rfl

/-- Of two partitions the first has three records, and two of them are checked off. -/
def partlyRead : List Action :=
  [.createTopic "t" 2,
    .append "t" [⟨some 0, none, ⟨#[97]⟩⟩, ⟨some 0, none, ⟨#[98]⟩⟩, ⟨some 0, none, ⟨#[99]⟩⟩],
    .ask (.join "t" "g" .dynamic), .ask (.poll ⟨"t", "g", 0⟩ 2 0), .ask (.commit ⟨"t", "g", 0⟩)]

theorem lag_after_partlyRead :
    let broker := empty.run partlyRead
    let entry : PartitionOffsets := ⟨0, 3, some 2⟩
    (broker.step (.ask (.offsets "t" "g" 2))).1 = .ok [entry, ⟨1, 0, some 0⟩] ∧
      broker.Inside "t" 0 2 ∧ 2 + entry.lag = 3 ∧
      entry.lag = (broker.messages "t" 0).countP fun message => 2 ≤ message.offset := by
  intro broker entry
  have answered : (broker.step (.ask (.offsets "t" "g" 2))).1 = .ok [entry, ⟨1, 0, some 0⟩] := by
    decide +kernel
  rcases lag_eq_outstanding partlyRead "t" "g" with ⟨_, inside, probed⟩
  rcases ((probed 2).2 _ answered).2.2 entry List.mem_cons_self with ⟨_, _, exact, counted⟩
  exact ⟨answered, inside 0 0 2 (by decide +kernel), exact, counted⟩

end FrontierBus.Broker
