import FrontierBus.Proofs.Broker.Runs

/-!
# Checkpoints

A checkpoint never gets ahead of what the sessions of the group have read and checked off. The
invariant ties the history of a run to what is remembered: whatever lies below a remembered
position was handed to that session or is checked off already, and whatever lies below a checkpoint
is checked off.
-/

namespace FrontierBus.Broker

/-- A session was handed a message by a poll that succeeded. -/
inductive Handed (reader : Reader) (message : Message) : List Action → Prop where
  | now {actions : List Action} {limit patience : Nat} {messages : List Message}
      (answered : ((empty.run actions).step (.ask (.poll reader limit patience))).1 =
        .ok (some messages))
      (among : message ∈ messages) :
      Handed reader message (actions ++ [.ask (.poll reader limit patience)])
  | later {actions : List Action} {action : Action} (handed : Handed reader message actions) :
      Handed reader message (actions ++ [action])

/-- A session was handed a message, and after that a commit of it succeeded while it owned the
partition of the message. -/
inductive CheckedOff (reader : Reader) (message : Message) : List Action → Prop where
  | now {actions : List Action} (handed : Handed reader message actions)
      (owned : message.partition ∈ (empty.run actions).assigned reader)
      (answered : ((empty.run actions).step (.ask (.commit reader))).1 = .ok ()) :
      CheckedOff reader message (actions ++ [.ask (.commit reader)])
  | later {actions : List Action} {action : Action}
      (checkedOff : CheckedOff reader message actions) :
      CheckedOff reader message (actions ++ [action])

variable {actions : List Action} {action : Action} {topic group : String}
  {id partition offset : Nat}

/-- The record at an offset was handed to a session. -/
def Read (actions : List Action) (reader : Reader) (partition offset : Nat) : Prop :=
  ∃ message, (empty.run actions).messageAt? reader.topic partition offset = some message ∧
    Handed reader message actions

/-- The record at an offset was checked off by a session of a group. -/
def Cleared (actions : List Action) (topic group : String) (partition offset : Nat) : Prop :=
  ∃ id message, (empty.run actions).messageAt? topic partition offset = some message ∧
    CheckedOff ⟨topic, group, id⟩ message actions

/-- What the sessions of a group remember, and its checkpoints, are accounted for by what they were
handed and have checked off. -/
structure Accounted (actions : List Action) (topic group : String) : Prop where
  cleared : ∀ partition offset,
    offset < ((empty.run actions).group topic group).startOffset partition →
      Cleared actions topic group partition offset
  remembered : ∀ id partition position,
    ((empty.run actions).group topic group).remembered? id partition = some position →
      ∀ offset < position, Cleared actions topic group partition offset ∨
        Read actions ⟨topic, group, id⟩ partition offset

theorem Read.later {reader : Reader} (read : Read actions reader partition offset)
    (action : Action) : Read (actions ++ [action]) reader partition offset := by
  rcases read with ⟨message, stored, handed⟩
  refine ⟨message, ?_, .later handed⟩
  rw [run_concat]
  exact messageAt?_step stored action

theorem Cleared.later (cleared : Cleared actions topic group partition offset)
    (action : Action) : Cleared (actions ++ [action]) topic group partition offset := by
  rcases cleared with ⟨id, message, stored, checkedOff⟩
  refine ⟨id, message, ?_, .later checkedOff⟩
  rw [run_concat]
  exact messageAt?_step stored action

theorem cleared_or_read_later {reader : Reader}
    (accounted : Cleared actions topic group partition offset ∨
      Read actions reader partition offset) (action : Action) :
    Cleared (actions ++ [action]) topic group partition offset ∨
      Read (actions ++ [action]) reader partition offset := by
  rcases accounted with cleared | read
  · exact Or.inl (cleared.later action)
  · exact Or.inr (read.later action)

theorem handedOut_of_mem {limit : Nat} {messages : List Message} {message : Message}
    (among : message ∈ messages) : handedOut limit messages = some messages := by
  cases messages with
  | nil => simp at among
  | cons first rest => rfl

/-- Checking off clears what the session has read in a partition that it owns. -/
theorem Read.cleared (read : Read actions ⟨topic, group, id⟩ partition offset)
    (owned : partition ∈ (empty.run actions).assigned ⟨topic, group, id⟩)
    (answered : ((empty.run actions).step (.ask (.commit ⟨topic, group, id⟩))).1 = .ok ()) :
    Cleared (actions ++ [.ask (.commit ⟨topic, group, id⟩)]) topic group partition offset := by
  rcases read with ⟨message, stored, handed⟩
  have inPartition : message.partition = partition := by
    rcases Option.bind_eq_some_iff.mp stored with ⟨found, _, isMessage⟩
    exact Topic.partition_of_messageAt isMessage
  refine ⟨id, message, ?_, .now handed (inPartition ▸ owned) answered⟩
  rw [run_concat]
  exact messageAt?_step stored _

namespace Accounted

theorem initial (topic group : String) : Accounted [] topic group where
  cleared := by
    intro partition offset below
    exact absurd below (Nat.not_lt_zero offset)
  remembered := by
    intro id partition position isPosition
    cases isPosition

/-- Whatever lies below the place where a session stands was handed to it or is checked off. -/
theorem below_standing (accounted : Accounted actions topic group)
    (below : offset < ((empty.run actions).group topic group).standing id partition) :
    Cleared actions topic group partition offset ∨
      Read actions ⟨topic, group, id⟩ partition offset := by
  cases recalled : ((empty.run actions).group topic group).remembered? id partition with
  | none =>
      rw [Group.standing_of_not_remembered recalled] at below
      exact Or.inl (accounted.cleared partition offset below)
  | some position =>
      rw [Group.standing_of_remembered? recalled] at below
      exact accounted.remembered id partition position recalled offset below

/-- An action after which a group has the checkpoints it had, and remembers nothing new, keeps the
accounts. -/
theorem later_of_kept (accounted : Accounted actions topic group)
    (sameStart : ∀ partition,
      ((empty.run (actions ++ [action])).group topic group).startOffset partition =
        ((empty.run actions).group topic group).startOffset partition)
    (nothingNew : ∀ id partition position,
      ((empty.run (actions ++ [action])).group topic group).remembered? id partition =
        some position →
      ((empty.run actions).group topic group).remembered? id partition = some position) :
    Accounted (actions ++ [action]) topic group where
  cleared := by
    intro partition offset below
    rw [sameStart] at below
    exact (accounted.cleared partition offset below).later action
  remembered := by
    intro id partition position isPosition offset below
    have known := nothingNew id partition position isPosition
    exact cleared_or_read_later (accounted.remembered id partition position known offset below) _

theorem later_of_polled {limit patience : Nat} {found : Topic} {member : Member}
    (accounted : Accounted actions topic group)
    (exist : (empty.run actions).topic? topic = some found)
    (live : ((empty.run actions).group topic group).member? id = some member)
    (answered : ((empty.run actions).step (.ask (.poll ⟨topic, group, id⟩ limit patience))).1 =
      .ok (handedOut limit (batchFor found ((empty.run actions).group topic group) member limit).1))
    (changed : (empty.run (actions ++ [.ask (.poll ⟨topic, group, id⟩ limit patience)])).group topic
      group = ((empty.run actions).group topic group).setCursors id
        (batchFor found ((empty.run actions).group topic group) member limit).2) :
    Accounted (actions ++ [.ask (.poll ⟨topic, group, id⟩ limit patience)]) topic group where
  cleared := by
    intro partition offset below
    rw [changed] at below
    exact (accounted.cleared partition offset below).later _
  remembered := by
    intro reader partition position isPosition offset below
    rw [changed] at isPosition
    by_cases same : reader = id
    · subst same
      rcases remembered?_batchFor live isPosition with ⟨_, handedBetween⟩
      rcases Nat.lt_or_ge offset (((empty.run actions).group topic group).standing reader
        partition) with known | new
      · exact cleared_or_read_later (accounted.below_standing known) _
      · rcases handedBetween offset new below with ⟨message, among, isMessage⟩
        rw [handedOut_of_mem among] at answered
        refine Or.inr ⟨message, ?_, .now answered among⟩
        rw [run_concat]
        apply messageAt?_step
        rw [messageAt?_eq_of_topic? exist]
        exact isMessage
    · rw [Group.remembered?_setCursors_of_ne same] at isPosition
      exact cleared_or_read_later
        (accounted.remembered reader partition position isPosition offset below) _

theorem later_of_committed (accounted : Accounted actions topic group)
    (answered : ((empty.run actions).step (.ask (.commit ⟨topic, group, id⟩))).1 = .ok ())
    (changed : (empty.run (actions ++ [.ask (.commit ⟨topic, group, id⟩)])).group topic group =
      ((empty.run actions).group topic group).commit ((empty.run actions).width topic) id) :
    Accounted (actions ++ [.ask (.commit ⟨topic, group, id⟩)]) topic group where
  cleared := by
    intro partition offset below
    rw [changed, Group.startOffset_commit (wellFormed_run actions topic group)] at below
    split at below
    · rename_i owned
      rcases accounted.below_standing below with cleared | read
      · exact cleared.later _
      · refine read.cleared ?_ answered
        rw [assigned_eq]
        exact owned
    · exact (accounted.cleared partition offset below).later _
  remembered := by
    intro reader partition position isPosition offset below
    rw [changed, Group.remembered?_commit] at isPosition
    exact cleared_or_read_later
      (accounted.remembered reader partition position isPosition offset below) _

theorem step (accounted : Accounted actions topic group) (action : Action) :
    Accounted (actions ++ [action]) topic group := by
  have groupStep := groupStep (empty.run actions) action topic group
  cases groupStep with
  | kept changed =>
      rw [← run_concat] at changed
      refine accounted.later_of_kept ?_ ?_
      · intro partition
        rw [changed]
      · intro id partition position isPosition
        rwa [changed] at isPosition
  | joined admits changed _ =>
      rw [← run_concat] at changed
      refine accounted.later_of_kept ?_ ?_
      · intro partition
        rw [changed]
        rfl
      · intro id partition position isPosition
        rwa [changed, Group.remembered?_enlist] at isPosition
  | polled exist live answered changed =>
      rw [← run_concat] at changed
      exact accounted.later_of_polled exist live answered changed
  | committed answered changed =>
      rw [← run_concat] at changed
      exact accounted.later_of_committed answered changed
  | left changed =>
      rw [← run_concat] at changed
      refine accounted.later_of_kept ?_ ?_
      · intro partition
        rw [changed]
        rfl
      · intro id partition position isPosition
        rw [changed] at isPosition
        exact Group.remembered?_dismiss isPosition

end Accounted

theorem accounted_run (actions : List Action) (topic group : String) :
    Accounted actions topic group := by
  induction actions using List.reverseRecOn with
  | nil => exact .initial topic group
  | append_singleton actions action hypothesis => exact hypothesis.step action

/-- After every run each record below a checkpoint was handed to a session of the group which then
checked it off. Nothing else moves a checkpoint: not a poll, not the end of a session, and not a
commit that fails. -/
theorem checkedOff_of_lt_checkpoint (actions : List Action) (topic group : String)
    (partition : Nat) :
    (∀ checkpoint, (empty.run actions).checkpoint? topic group partition = some checkpoint →
      ∀ offset < checkpoint, ∃ id message,
        (empty.run actions).messageAt? topic partition offset = some message ∧
          CheckedOff ⟨topic, group, id⟩ message actions) ∧
      ∀ action, ((empty.run actions).step action).2.checkpoint? topic group partition ≠
          (empty.run actions).checkpoint? topic group partition →
        ∃ id, action = .ask (.commit ⟨topic, group, id⟩) ∧
          ((empty.run actions).step (.ask (.commit ⟨topic, group, id⟩))).1 = .ok () ∧
          partition ∈ (empty.run actions).assigned ⟨topic, group, id⟩ := by
  constructor
  · intro checkpoint isCheckpoint offset below
    apply (accounted_run actions topic group).cleared partition offset
    rw [startOffset_of_checkpoint? isCheckpoint]
    exact below
  · intro action moved
    rcases checkpoint?_cases actions action topic group partition with
      kept | ⟨id, position, isCommit, answered, owned, _, _⟩
    · exact absurd kept moved
    · exact ⟨id, isCommit, answered, owned⟩

/-- A session reads the only record of a topic. -/
def readThrough : List Action :=
  [.createTopic "t" 1, .append "t" [⟨none, none, ⟨#[97]⟩⟩], .ask (.join "t" "g" .dynamic),
    .ask (.poll ⟨"t", "g", 0⟩ 1 0)]

/-- The commit that follows a read moves the checkpoint, past a record that is checked off. -/
theorem checkedOff_after_readThrough :
    (∃ id, Action.ask (.commit ⟨"t", "g", 0⟩) = .ask (.commit ⟨"t", "g", id⟩) ∧
        ((empty.run readThrough).step (.ask (.commit ⟨"t", "g", id⟩))).1 = .ok () ∧
        0 ∈ (empty.run readThrough).assigned ⟨"t", "g", id⟩) ∧
      ∃ id message,
        (empty.run (readThrough ++ [.ask (.commit ⟨"t", "g", 0⟩)])).messageAt? "t" 0 0 =
          some message ∧
        CheckedOff ⟨"t", "g", id⟩ message (readThrough ++ [.ask (.commit ⟨"t", "g", 0⟩)]) :=
  ⟨(checkedOff_of_lt_checkpoint readThrough "t" "g" 0).2 (.ask (.commit ⟨"t", "g", 0⟩))
      (by decide +kernel),
    (checkedOff_of_lt_checkpoint (readThrough ++ [.ask (.commit ⟨"t", "g", 0⟩)]) "t" "g" 0).1 1
      (by decide +kernel) 0 Nat.zero_lt_one⟩

end FrontierBus.Broker
