import FrontierBus.Proofs.Broker.Moves
import FrontierBus.Proofs.Group.Changes
import FrontierBus.Proofs.Topic.Fetching

/-!
# Runs

A topic that exists is never lost, nor is any of its records, and member numbers only grow. With
that the members of every group fit together after every run, so that every partition has at most
one owner.
-/

namespace FrontierBus.Broker

variable {before : Broker} {topic group : String} {partition : Nat}

theorem run_append (broker : Broker) (earlier later : List Action) :
    broker.run (earlier ++ later) = (broker.run earlier).run later := by
  simp [run, List.foldl_append]

theorem run_concat (broker : Broker) (actions : List Action) (action : Action) :
    broker.run (actions ++ [action]) = ((broker.run actions).step action).2 :=
  run_append broker actions [action]

theorem nextMember_le_step (before : Broker) (action : Action) :
    before.nextMember ≤ (before.step action).2.nextMember := by
  have effect := effect_step action before
  generalize (before.step action).2 = after at effect
  cases effect with
  | joined _ _ _ nextMember_eq =>
      rw [nextMember_eq]
      exact Nat.le_succ _
  | nothing _ nextMember_eq => exact nextMember_eq.ge
  | created _ _ nextMember_eq => exact nextMember_eq.ge
  | extended _ _ _ nextMember_eq => exact nextMember_eq.ge
  | polled _ _ _ _ nextMember_eq => exact nextMember_eq.ge
  | committed _ _ _ nextMember_eq => exact nextMember_eq.ge
  | left _ _ nextMember_eq => exact nextMember_eq.ge

theorem nextMember_le_run (before : Broker) (actions : List Action) :
    before.nextMember ≤ (before.run actions).nextMember := by
  induction actions using List.reverseRecOn with
  | nil => exact Nat.le_refl _
  | append_singleton actions action hypothesis =>
      rw [run_concat]
      exact Nat.le_trans hypothesis (nextMember_le_step _ action)

/-- Exchanging a topic for one that keeps what it has, if it is there, keeps what every topic
has. -/
theorem keeps_of_exchange {after : Broker} {name : String} {found changed : Topic}
    (exist : before.topic? topic = some found)
    (keeps : ∀ old, before.topic? name = some old → old.Keeps changed)
    (topics_eq : after.topics = (before.setTopic name changed).topics) :
    ∃ later, after.topic? topic = some later ∧ found.Keeps later := by
  rw [topic?_congr topics_eq, topic?_setTopic]
  by_cases same : topic = name
  · subst same
    exact ⟨changed, if_pos rfl, keeps found exist⟩
  · exact ⟨found, by rw [if_neg same, exist], .refl found⟩

theorem topic?_step {found : Topic} (exist : before.topic? topic = some found) (action : Action) :
    ∃ later, (before.step action).2.topic? topic = some later ∧ found.Keeps later := by
  have effect := effect_step action before
  generalize (before.step action).2 = after at effect
  have keepsGroup : ∀ {name groupName : String} {source : Topic} {changed : Group},
      before.topic? name = some source → ∀ old, before.topic? name = some old →
        old.Keeps (source.setGroup groupName changed) := by
    intro name groupName source changed isSource old isOld
    rw [isSource, Option.some.injEq] at isOld
    subst isOld
    exact .setGroup source groupName changed
  cases effect with
  | nothing topics_eq => exact ⟨found, by rw [topic?_congr topics_eq, exist], .refl found⟩
  | created absent topics_eq =>
      refine keeps_of_exchange exist ?_ topics_eq
      intro old isOld
      rw [absent] at isOld
      cases isOld
  | extended isSource grown topics_eq =>
      refine keeps_of_exchange exist ?_ topics_eq
      intro old isOld
      rw [isSource, Option.some.injEq] at isOld
      subst isOld
      exact grown.keeps
  | joined isSource _ topics_eq => exact keeps_of_exchange exist (keepsGroup isSource) topics_eq
  | polled isSource _ _ topics_eq => exact keeps_of_exchange exist (keepsGroup isSource) topics_eq
  | committed isSource _ topics_eq =>
      exact keeps_of_exchange exist (keepsGroup isSource) topics_eq
  | left isSource topics_eq => exact keeps_of_exchange exist (keepsGroup isSource) topics_eq

theorem width_le_step (before : Broker) (action : Action) (topic : String) :
    before.width topic ≤ (before.step action).2.width topic := by
  cases exist : before.topic? topic with
  | none => simp [width, exist]
  | some found =>
      rcases topic?_step exist action with ⟨later, stillExist, keeps⟩
      rw [width_eq_of_topic? exist, width_eq_of_topic? stillExist, keeps.count_eq]

theorem messageAt?_step {offset : Nat} {message : Message}
    (stored : before.messageAt? topic partition offset = some message) (action : Action) :
    (before.step action).2.messageAt? topic partition offset = some message := by
  rcases Option.bind_eq_some_iff.mp stored with ⟨found, exist, isMessage⟩
  rcases topic?_step exist action with ⟨later, stillExist, keeps⟩
  rw [messageAt?_eq_of_topic? stillExist]
  exact keeps.messageAt isMessage

theorem batchFor_advanced (topic : Topic) (group : Group) (member : Member) (limit : Nat) :
    List.Forall₂ (topic.Advanced (batchFor topic group member limit).1)
      (group.freshCursors topic.count member) (batchFor topic group member limit).2 :=
  topic.takeBatch_advanced limit _

theorem map_partition_batchFor (topic : Topic) (group : Group) (member : Member) (limit : Nat) :
    (batchFor topic group member limit).2.map Cursor.partition =
      group.assigned topic.count member.id := by
  rw [Topic.map_partition_of_forall₂ (batchFor_advanced topic group member limit)
      fun _ _ advanced => advanced.partition_eq,
    Group.map_partition_freshCursors]

/-- What a member remembers after a poll lies ahead of where it stood, and it was handed all that
lies between. -/
theorem remembered?_batchFor {found : Topic} {members : Group} {member : Member}
    {id limit position : Nat} (live : members.member? id = some member)
    (remembered : (members.setCursors id (batchFor found members member limit).2).remembered? id
      partition = some position) :
    members.standing id partition ≤ position ∧
      ∀ offset, members.standing id partition ≤ offset → offset < position →
        ∃ message ∈ (batchFor found members member limit).1,
          found.messageAt ⟨partition, offset⟩ = some message := by
  rw [Group.remembered?_setCursors_self live, Option.map_eq_some_iff] at remembered
  rcases remembered with ⟨moved, isMoved, rfl⟩
  rcases Topic.find?_of_forall₂ (batchFor_advanced found members member limit)
      (fun _ _ advanced => advanced.partition_eq) isMoved with
    ⟨cursor, isCursor, advanced⟩
  have inPartition : cursor.partition = partition := by simpa using List.find?_some isCursor
  have stood := (Group.of_mem_freshCursors (List.mem_of_find?_eq_some isCursor)).2
  rw [inPartition, ← Group.remembered?_of_member? live] at stood
  rw [Group.standing, ← stood]
  refine ⟨advanced.position_le, ?_⟩
  intro offset started notReached
  rw [← inPartition]
  exact advanced.handed offset started notReached

theorem wellFormed_step (action : Action)
    (fit : (before.group topic group).WellFormed (before.width topic) before.nextMember) :
    ((before.step action).2.group topic group).WellFormed ((before.step action).2.width topic)
      (before.step action).2.nextMember := by
  have wider := width_le_step before action topic
  have later := nextMember_le_step before action
  cases groupStep before action topic group with
  | kept changed =>
      rw [changed]
      exact fit.mono wider later
  | joined admits changed numbered =>
      rw [changed, numbered]
      exact (fit.enlist admits).mono wider (Nat.le_refl _)
  | polled exist live answered changed =>
      rw [changed]
      refine (fit.setCursors ?_ _).mono wider later
      rw [map_partition_batchFor]
      exact Group.assigned_nodup _ _ _
  | committed answered changed =>
      rw [changed]
      exact (fit.commit _).mono wider later
  | left changed =>
      rw [changed]
      exact (fit.dismiss _).mono wider later

theorem wellFormed_run (actions : List Action) (topic group : String) :
    ((empty.run actions).group topic group).WellFormed ((empty.run actions).width topic)
      (empty.run actions).nextMember := by
  induction actions using List.reverseRecOn with
  | nil => exact .empty _ _
  | append_singleton actions action hypothesis =>
      rw [run_concat]
      exact wellFormed_step action hypothesis

/-- Only a commit that succeeds moves a checkpoint, in a partition that its session owns, and it
moves it to where the session has read to. -/
theorem checkpoint?_cases (actions : List Action) (action : Action) (topic group : String)
    (partition : Nat) :
    ((empty.run actions).step action).2.checkpoint? topic group partition =
        (empty.run actions).checkpoint? topic group partition ∨
      ∃ id position, action = .ask (.commit ⟨topic, group, id⟩) ∧
        ((empty.run actions).step (.ask (.commit ⟨topic, group, id⟩))).1 = .ok () ∧
        partition ∈ (empty.run actions).assigned ⟨topic, group, id⟩ ∧
        ((empty.run actions).group topic group).remembered? id partition = some position ∧
        ((empty.run actions).step action).2.checkpoint? topic group partition = some position := by
  simp only [checkpoint?]
  cases groupStep (empty.run actions) action topic group with
  | kept changed => exact Or.inl (by rw [changed])
  | joined admits changed _ => exact Or.inl (by rw [changed, Group.checkpoint?_enlist])
  | polled _ _ _ changed => exact Or.inl (by rw [changed, Group.checkpoint?_setCursors])
  | left changed => exact Or.inl (by rw [changed, Group.checkpoint?_dismiss])
  | @committed id answered changed =>
      rw [changed, Group.checkpoint?_commit (wellFormed_run actions topic group)]
      split
      · rename_i owned
        cases recalled : ((empty.run actions).group topic group).remembered? id partition with
        | none => exact Or.inl rfl
        | some position =>
            refine Or.inr ⟨id, position, rfl, answered, ?_, recalled, rfl⟩
            rw [assigned_eq]
            exact owned
      · exact Or.inl rfl

/-- After every run the partitions of every topic are shared out among the members of every group,
and what a session owns is what its member is assigned. -/
theorem sharedOut_run (actions : List Action) (topic group : String) :
    ((empty.run actions).group topic group).SharedOut ((empty.run actions).width topic) ∧
      ∀ id, (empty.run actions).assigned ⟨topic, group, id⟩ =
        ((empty.run actions).group topic group).assigned ((empty.run actions).width topic) id :=
  ⟨(wellFormed_run actions topic group).sharedOut, fun _ => assigned_eq _ _⟩

end FrontierBus.Broker
