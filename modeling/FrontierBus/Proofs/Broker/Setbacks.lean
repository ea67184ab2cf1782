import FrontierBus.Proofs.Broker.Runs

/-!
# Setbacks

A session forgets what it knows of a partition that it no longer owns, but only when it reads again.
If it gets the partition back before that, a commit writes a position from before another session
read and checked off more. This is the only way in which a checkpoint can go back.
-/

namespace FrontierBus.Broker

variable {actions : List Action} {action : Action} {topic group : String} {partition : Nat}

/-- Where a session has read to in a partition, if it remembers. -/
def remembered? (broker : Broker) (reader : Reader) (partition : Nat) : Option Nat :=
  (broker.group reader.topic reader.group).remembered? reader.member partition

/-- A session has kept its place in a partition since a time when it did not own it. -/
inductive CarriedOver (reader : Reader) (partition : Nat) : List Action → Prop where
  | lost {actions : List Action} {position : Nat}
      (remembers : (empty.run actions).remembered? reader partition = some position)
      (notOwned : partition ∉ (empty.run actions).assigned reader) :
      CarriedOver reader partition actions
  | later {actions : List Action} {action : Action} {position : Nat}
      (carried : CarriedOver reader partition actions)
      (remembers : (empty.run (actions ++ [action])).remembered? reader partition =
        some position) :
      CarriedOver reader partition (actions ++ [action])

/-- Sessions stand at the checkpoints of their group or past them, except where they have carried
their place over. -/
def UpToDate (actions : List Action) (topic group : String) : Prop :=
  ∀ id partition position,
    (empty.run actions).remembered? ⟨topic, group, id⟩ partition = some position →
      ((empty.run actions).group topic group).startOffset partition ≤ position ∨
        CarriedOver ⟨topic, group, id⟩ partition actions

namespace UpToDate

theorem initial (topic group : String) : UpToDate [] topic group := by
  intro id partition position isPosition
  cases isPosition

/-- What a session remembered before an action, and still remembers after it, is up to date or
carried over, unless the checkpoint has moved. -/
theorem later_of_kept {id position : Nat} (upToDate : UpToDate actions topic group)
    (isPosition : (empty.run (actions ++ [action])).remembered? ⟨topic, group, id⟩ partition =
      some position)
    (known : ((empty.run actions).group topic group).remembered? id partition = some position)
    (sameStart : ((empty.run (actions ++ [action])).group topic group).startOffset partition =
      ((empty.run actions).group topic group).startOffset partition) :
    ((empty.run (actions ++ [action])).group topic group).startOffset partition ≤ position ∨
      CarriedOver ⟨topic, group, id⟩ partition (actions ++ [action]) := by
  rcases upToDate id partition position known with ahead | carried
  · rw [sameStart]
    exact Or.inl ahead
  · exact Or.inr (.later carried isPosition)

/-- A poll takes a session from a place that is up to date to one that is. -/
theorem later_of_polled {id limit position : Nat} {found : Topic} {member : Member}
    (upToDate : UpToDate actions topic group)
    (live : ((empty.run actions).group topic group).member? id = some member)
    (changed : (empty.run (actions ++ [action])).group topic group =
      ((empty.run actions).group topic group).setCursors id
        (batchFor found ((empty.run actions).group topic group) member limit).2)
    (isPosition : (empty.run (actions ++ [action])).remembered? ⟨topic, group, id⟩ partition =
      some position) :
    ((empty.run (actions ++ [action])).group topic group).startOffset partition ≤ position ∨
      CarriedOver ⟨topic, group, id⟩ partition (actions ++ [action]) := by
  have moved := isPosition
  simp only [Broker.remembered?, changed] at moved
  have ahead := (remembered?_batchFor live moved).1
  cases recalled : ((empty.run actions).group topic group).remembered? id partition with
  | none =>
      rw [Group.standing_of_not_remembered recalled] at ahead
      rw [changed]
      exact Or.inl ahead
  | some before =>
      rw [Group.standing_of_remembered? recalled] at ahead
      rcases upToDate id partition before recalled with upTo | carried
      · rw [changed]
        exact Or.inl (Nat.le_trans upTo ahead)
      · exact Or.inr (.later carried isPosition)

/-- After a commit the session that made it stands at the checkpoint. Whoever else remembers the
partition does not own it. -/
theorem later_of_committed {committer id position : Nat} (upToDate : UpToDate actions topic group)
    (changed : (empty.run (actions ++ [action])).group topic group =
      ((empty.run actions).group topic group).commit ((empty.run actions).width topic) committer)
    (isPosition : (empty.run (actions ++ [action])).remembered? ⟨topic, group, id⟩ partition =
      some position) :
    ((empty.run (actions ++ [action])).group topic group).startOffset partition ≤ position ∨
      CarriedOver ⟨topic, group, id⟩ partition (actions ++ [action]) := by
  have fit := wellFormed_run actions topic group
  have known : ((empty.run actions).group topic group).remembered? id partition =
      some position := by
    simpa only [Broker.remembered?, changed, Group.remembered?_commit] using isPosition
  by_cases owned : partition ∈ ((empty.run actions).group topic group).assigned
      ((empty.run actions).width topic) committer
  · by_cases same : id = committer
    · subst same
      rw [changed, Group.startOffset_commit fit, if_pos owned, Group.standing_of_remembered? known]
      exact Or.inl (Nat.le_refl _)
    · refine Or.inr (.later (.lost known ?_) isPosition)
      rw [assigned_eq]
      intro alsoOwned
      exact same (fit.owner_unique alsoOwned owned)
  · refine upToDate.later_of_kept isPosition known ?_
    rw [changed, Group.startOffset_commit fit, if_neg owned]

theorem step (upToDate : UpToDate actions topic group) (action : Action) :
    UpToDate (actions ++ [action]) topic group := by
  intro id partition position isPosition
  have groupStep := groupStep (empty.run actions) action topic group
  cases groupStep with
  | kept changed =>
      rw [← run_concat] at changed
      refine upToDate.later_of_kept isPosition ?_ (by rw [changed])
      rwa [Broker.remembered?, changed] at isPosition
  | joined _ changed _ =>
      rw [← run_concat] at changed
      refine upToDate.later_of_kept isPosition ?_ (by rw [changed]; rfl)
      rwa [Broker.remembered?, changed, Group.remembered?_enlist] at isPosition
  | @polled reader _ _ _ _ _ live _ changed =>
      rw [← run_concat] at changed
      by_cases same : id = reader
      · subst same
        exact upToDate.later_of_polled live changed isPosition
      · refine upToDate.later_of_kept isPosition ?_ (by rw [changed]; rfl)
        rwa [Broker.remembered?, changed, Group.remembered?_setCursors_of_ne same] at isPosition
  | committed _ changed =>
      rw [← run_concat] at changed
      exact upToDate.later_of_committed changed isPosition
  | left changed =>
      rw [← run_concat] at changed
      refine upToDate.later_of_kept isPosition ?_ (by rw [changed]; rfl)
      rw [Broker.remembered?, changed] at isPosition
      exact Group.remembered?_dismiss isPosition

end UpToDate

theorem upToDate_run (actions : List Action) (topic group : String) :
    UpToDate actions topic group := by
  induction actions using List.reverseRecOn with
  | nil => exact .initial topic group
  | append_singleton actions action hypothesis => exact hypothesis.step action

/-- A commit that succeeds sets the checkpoint of what its session owns and remembers. -/
theorem checkpoint?_of_commit {id position : Nat}
    (answered : ((empty.run actions).step (.ask (.commit ⟨topic, group, id⟩))).1 = .ok ())
    (owned : partition ∈ (empty.run actions).assigned ⟨topic, group, id⟩)
    (remembers : (empty.run actions).remembered? ⟨topic, group, id⟩ partition = some position) :
    ((empty.run actions).step (.ask (.commit ⟨topic, group, id⟩))).2.checkpoint? topic group
      partition = some position := by
  rw [assigned_eq] at owned
  have known : ((empty.run actions).group topic group).remembered? id partition =
      some position := remembers
  rw [Broker.checkpoint?, group_of_commit answered,
    Group.checkpoint?_commit (wellFormed_run actions topic group), if_pos owned, known]
  rfl

/-- A checkpoint is never lost, and it goes back exactly if a session commits that owns the
partition, has carried its place over, and stands behind the checkpoint. -/
theorem checkpoint_goes_back_iff {checkpoint : Nat}
    (reached : (empty.run actions).checkpoint? topic group partition = some checkpoint)
    (action : Action) :
    ∃ later, ((empty.run actions).step action).2.checkpoint? topic group partition = some later ∧
      (later < checkpoint ↔ ∃ id position, action = .ask (.commit ⟨topic, group, id⟩) ∧
        ((empty.run actions).step (.ask (.commit ⟨topic, group, id⟩))).1 = .ok () ∧
        partition ∈ (empty.run actions).assigned ⟨topic, group, id⟩ ∧
        CarriedOver ⟨topic, group, id⟩ partition actions ∧
        (empty.run actions).remembered? ⟨topic, group, id⟩ partition = some position ∧
        position < checkpoint) := by
  rcases checkpoint?_cases actions action topic group partition with
    kept | ⟨id, position, isCommit, answered, owned, known, moved⟩
  · refine ⟨checkpoint, kept.trans reached, ?_⟩
    constructor
    · intro back
      exact absurd back (Nat.lt_irrefl checkpoint)
    · rintro ⟨id, position, rfl, answered, owned, _, remembers, behind⟩
      rw [checkpoint?_of_commit answered owned remembers, reached, Option.some.injEq] at kept
      exact absurd kept (Nat.ne_of_lt behind)
  · refine ⟨position, moved, ?_⟩
    constructor
    · intro behind
      refine ⟨id, position, isCommit, answered, owned, ?_, known, behind⟩
      rcases upToDate_run actions topic group id partition position known with ahead | carried
      · rw [startOffset_of_checkpoint? reached] at ahead
        omega
      · exact carried
    · rintro ⟨other, otherPosition, rfl, otherAnswered, otherOwned, _, remembers, behind⟩
      rw [checkpoint?_of_commit otherAnswered otherOwned remembers, Option.some.injEq] at moved
      omega

/-- A session reads one record of three, loses the partition to a newcomer, which reads and checks
off all of them and leaves, and has the partition back without having read again. -/
def overtaken : List Action :=
  [.createTopic "t" 2,
    .append "t" [⟨some 1, none, ⟨#[97]⟩⟩, ⟨some 1, none, ⟨#[98]⟩⟩, ⟨some 1, none, ⟨#[99]⟩⟩],
    .ask (.join "t" "g" .dynamic), .ask (.poll ⟨"t", "g", 0⟩ 1 0),
    .ask (.join "t" "g" .dynamic), .ask (.poll ⟨"t", "g", 1⟩ 10 0),
    .ask (.commit ⟨"t", "g", 1⟩), .ask (.leave ⟨"t", "g", 1⟩)]

theorem checkpoint_goes_back_after_overtaken :
    (empty.run overtaken).checkpoint? "t" "g" 1 = some 3 ∧
      ((empty.run overtaken).step (.ask (.commit ⟨"t", "g", 0⟩))).2.checkpoint? "t" "g" 1 =
        some 1 := by
  decide +kernel

theorem checkpoint_goes_back_iff_overtaken :
    ∃ later, ((empty.run overtaken).step (.ask (.commit ⟨"t", "g", 0⟩))).2.checkpoint? "t" "g" 1 =
        some later ∧
      (later < 3 ↔ ∃ id position,
        Action.ask (.commit ⟨"t", "g", 0⟩) = .ask (.commit ⟨"t", "g", id⟩) ∧
          ((empty.run overtaken).step (.ask (.commit ⟨"t", "g", id⟩))).1 = .ok () ∧
          1 ∈ (empty.run overtaken).assigned ⟨"t", "g", id⟩ ∧
          CarriedOver ⟨"t", "g", id⟩ 1 overtaken ∧
          (empty.run overtaken).remembered? ⟨"t", "g", id⟩ 1 = some position ∧ position < 3) :=
  checkpoint_goes_back_iff (by decide +kernel) (.ask (.commit ⟨"t", "g", 0⟩))

end FrontierBus.Broker
