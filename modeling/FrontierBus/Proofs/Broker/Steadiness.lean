import FrontierBus.Proofs.Broker.Arrivals
import FrontierBus.Proofs.Broker.Bounds

/-!
# Groups that stay as they are

While no session of a group comes or goes, each partition keeps its owner. What the sessions are
handed from it goes on from the checkpoint that was there before any of them polled, without a gap
and without a repetition, and the owner stands behind it. A session that is handed nothing has
nothing left in what it owns.
-/

namespace FrontierBus.Broker

namespace Group

variable {group other : Group}

/-- The numbers of the members, and what they asked for. -/
def roster (group : Group) : List (Nat × Assignment) :=
  group.members.map fun member => (member.id, member.assignment)

theorem wanted?_eq_find? (group : Group) (id : Nat) :
    group.wanted? id = (group.roster.find? fun entry => entry.1 = id).map Prod.snd := by
  simp [wanted?, member?, roster, List.find?_map, Function.comp_def]

theorem isOwned_eq_any (group : Group) (partition : Nat) :
    group.isOwned partition = group.roster.any fun entry => entry.2 = .static partition := by
  simp [isOwned, roster, List.any_map, Function.comp_def]

theorem sharers_eq_map (group : Group) :
    group.sharers = (group.roster.filter fun entry => entry.2 = .dynamic).map Prod.fst := by
  simp [sharers, roster, List.filter_map, Function.comp_def]

theorem assigned_eq_of_roster (same : group.roster = other.roster) (count id : Nat) :
    group.assigned count id = other.assigned count id := by
  have wants : group.wanted? id = other.wanted? id := by
    rw [wanted?_eq_find?, wanted?_eq_find?, same]
  have isFree : group.free count = other.free count := by
    simp only [free, isOwned_eq_any, same]
  have shares : group.sharers = other.sharers := by
    rw [sharers_eq_map, sharers_eq_map, same]
  simp only [wanted?] at wants
  simp only [assigned, isFree, shares]
  cases found : group.member? id with
  | none =>
      rw [found, Option.map_none, eq_comm, Option.map_eq_none_iff] at wants
      rw [wants]
  | some member =>
      rw [found, Option.map_some, eq_comm, Option.map_eq_some_iff] at wants
      rcases wants with ⟨twin, isTwin, asked⟩
      rw [isTwin]
      simp only [asked]

@[simp]
theorem roster_setCursors (group : Group) (id : Nat) (cursors : List Cursor) :
    (group.setCursors id cursors).roster = group.roster := by
  simp only [roster, setCursors, List.map_map]
  apply List.map_congr_left
  intro member _
  simp only [Function.comp_apply]
  split
  · rfl
  · rfl

@[simp]
theorem roster_commit (group : Group) (count id : Nat) :
    (group.commit count id).roster = group.roster := by
  simp only [commit]
  split
  · rfl
  · rfl

end Group

/-- Along a run no session of a group comes or goes. -/
def Steady (topic group : String) (broker : Broker) (actions : List Action) : Prop :=
  ∀ front, front <+: actions →
    ((broker.run front).group topic group).roster = (broker.group topic group).roster

/-- A session of a group comes or goes by the action, if it succeeds. -/
def Action.changesRoster (topic group : String) : Action → Bool
  | .ask (.join name groupName _) => name = topic && groupName = group
  | .ask (.leave reader) => reader.topic = topic && reader.group = group
  | _ => false

/-- The messages that an action hands to a session of a group. -/
def handedTo (topic group : String) (broker : Broker) : Action → List Message
  | .ask (.poll reader limit patience) =>
    if reader.topic = topic ∧ reader.group = group then
      handedBy (broker.step (.ask (.poll reader limit patience))).1
    else []
  | _ => []

/-- The messages that a run hands to the sessions of a group, in the order in which they get
them. -/
def returnedTo (topic group : String) : Broker → List Action → List Message
  | _, [] => []
  | broker, action :: actions =>
    handedTo topic group broker action ++ returnedTo topic group (broker.step action).2 actions

variable {topic group : String} {partition id : Nat} {broker before : Broker}
  {actions front back : List Action} {action : Action} {returned : List Message}

theorem returnedTo_append (broker : Broker) (front back : List Action) :
    returnedTo topic group broker (front ++ back) =
      returnedTo topic group broker front ++ returnedTo topic group (broker.run front) back := by
  induction front generalizing broker with
  | nil => rfl
  | cons action front hypothesis =>
      rw [List.cons_append, returnedTo, hypothesis, returnedTo, List.append_assoc]
      rfl

theorem Steady.earlier (steady : Steady topic group broker (front ++ back)) :
    Steady topic group broker front :=
  fun earlier beginning => steady earlier (beginning.trans (List.prefix_append front back))

theorem Steady.later (steady : Steady topic group broker (front ++ back)) :
    Steady topic group (broker.run front) back := by
  intro more beginning
  have whole := steady (front ++ more) ((List.prefix_append_right_inj front).mpr beginning)
  rw [run_append] at whole
  exact whole.trans (steady front (List.prefix_append front back)).symm

theorem Steady.step (steady : Steady topic group broker [action]) :
    ((broker.step action).2.group topic group).roster = (broker.group topic group).roster :=
  steady [action] List.prefix_rfl

theorem roster_of_unchanged (unchanged : action.changesRoster topic group = false)
    (before : Broker) :
    ((before.step action).2.group topic group).roster = (before.group topic group).roster := by
  cases groupStep before action topic group with
  | kept changed => rw [changed]
  | joined => simp [Action.changesRoster] at unchanged
  | polled _ _ _ changed => rw [changed, Group.roster_setCursors]
  | committed _ changed => rw [changed, Group.roster_commit]
  | left => simp [Action.changesRoster] at unchanged

theorem steady_of_unchanged
    (unchanged : ∀ action ∈ actions, action.changesRoster topic group = false)
    (broker : Broker) : Steady topic group broker actions := by
  intro front beginning
  induction front using List.reverseRecOn with
  | nil => rfl
  | append_singleton front action hypothesis =>
      have present : action ∈ actions := beginning.mem (by simp)
      rw [run_concat, roster_of_unchanged (unchanged action present)]
      exact hypothesis ((List.prefix_append front [action]).trans beginning)

/-- Where nobody comes or goes, everybody owns what they owned. -/
theorem assigned_step_eq
    (same : ((before.step action).2.group topic group).roster = (before.group topic group).roster)
    (id : Nat) :
    (before.step action).2.assigned ⟨topic, group, id⟩ = before.assigned ⟨topic, group, id⟩ := by
  rw [assigned_eq, assigned_eq, Group.assigned_eq_of_roster same]
  cases exist : before.topic? topic with
  | none =>
      rw [group_eq_empty exist]
      rfl
  | some found =>
      rcases topic?_step exist action with ⟨later, stillExist, keeps⟩
      rw [width_eq_of_topic? stillExist, keeps.count_eq, ← width_eq_of_topic? exist]

theorem assigned_of_steady_step
    (same : ((before.step action).2.group topic group).roster = (before.group topic group).roster)
    (owned : partition ∈ (before.step action).2.assigned ⟨topic, group, id⟩) :
    partition ∈ before.assigned ⟨topic, group, id⟩ := by
  rwa [assigned_step_eq same] at owned

theorem assigned_of_steady (steady : Steady topic group broker actions)
    (owned : partition ∈ (broker.run actions).assigned ⟨topic, group, id⟩) :
    partition ∈ broker.assigned ⟨topic, group, id⟩ := by
  induction actions using List.reverseRecOn with
  | nil => exact owned
  | append_singleton actions action hypothesis =>
      rw [run_concat] at owned
      exact hypothesis steady.earlier (assigned_of_steady_step steady.later.step owned)

theorem remembered?_of_noPoll
    (noPoll : ∀ limit patience, .ask (.poll ⟨topic, group, id⟩ limit patience) ∉ actions)
    (partition : Nat) :
    ((empty.run actions).group topic group).remembered? id partition = none := by
  induction actions using List.reverseRecOn with
  | nil => rfl
  | append_singleton actions action hypothesis =>
      have forgotten := hypothesis fun limit patience present =>
        noPoll limit patience (List.mem_append_left _ present)
      rw [run_concat]
      cases groupStep (empty.run actions) action topic group with
      | kept changed => rw [changed, forgotten]
      | joined _ changed _ => rw [changed, Group.remembered?_enlist, forgotten]
      | @polled other limit patience _ _ _ _ _ changed =>
          have different : id ≠ other := by
            rintro rfl
            exact noPoll limit patience (List.mem_append_right _ List.mem_cons_self)
          rw [changed, Group.remembered?_setCursors_of_ne different, forgotten]
      | committed _ changed => rw [changed, Group.remembered?_commit, forgotten]
      | left changed =>
          rw [changed, Option.eq_none_iff_forall_ne_some]
          intro position remembered
          rw [Group.remembered?_dismiss remembered] at forgotten
          cases forgotten

/-- The messages of a partition that lie before the checkpoint of a group. -/
def passed (broker : Broker) (topic group : String) (partition : Nat) : List Message :=
  (broker.messages topic partition).take ((broker.group topic group).startOffset partition)

theorem length_passed (actions : List Action) (topic group : String) (partition : Nat) :
    ((empty.run actions).passed topic group partition).length =
      ((empty.run actions).group topic group).startOffset partition := by
  rw [passed, List.length_take]
  apply Nat.min_eq_left
  cases reached : (empty.run actions).checkpoint? topic group partition with
  | none =>
      rw [checkpoint?] at reached
      rw [Group.startOffset, reached]
      exact Nat.zero_le _
  | some checkpoint =>
      rw [startOffset_of_checkpoint? reached]
      exact (inside_iff.mp ((bounded_run actions topic group).checkpoint partition checkpoint
        reached)).2

/-- What the sessions of a group were handed continues what was passed before, in each partition,
and its owner stands behind it. -/
structure Continues (topic group : String) (passed : Nat → List Message) (broker : Broker)
    (returned : List Message) : Prop where
  inOrder : ∀ partition,
    passed partition ++ returned.filter (fun message => message.partition = partition) <+:
      broker.messages topic partition
  standing_eq : ∀ id, ∀ partition ∈ broker.assigned ⟨topic, group, id⟩,
    (broker.group topic group).standing id partition =
      (passed partition ++ returned.filter fun message => message.partition = partition).length

namespace Continues

variable {passed : Nat → List Message}

/-- Before any of its sessions polls, a group stands at its checkpoints. -/
theorem initial
    (fresh : ∀ id limit patience, .ask (.poll ⟨topic, group, id⟩ limit patience) ∈ actions →
      (empty.run actions).member? ⟨topic, group, id⟩ = none) :
    Continues topic group ((empty.run actions).passed topic group) (empty.run actions) [] where
  inOrder := by
    intro partition
    rw [List.filter_nil, List.append_nil]
    exact List.take_prefix _ _
  standing_eq := by
    intro id partition owned
    have noPoll : ∀ limit patience,
        .ask (.poll ⟨topic, group, id⟩ limit patience) ∉ actions := by
      intro limit patience present
      have gone : ((empty.run actions).group topic group).member? id = none :=
        fresh id limit patience present
      rw [assigned_eq, Group.assigned_of_member?_none gone] at owned
      cases owned
    rw [Group.standing_of_not_remembered (remembered?_of_noPoll noPoll partition),
      List.filter_nil, List.append_nil, length_passed]

/-- What is no poll of a session of the group hands nothing to it and moves nobody. -/
theorem beside (continues : Continues topic group passed (empty.run actions) returned)
    (noPoll : ∀ id, action.isPollOf ⟨topic, group, id⟩ = false)
    (same : (((empty.run actions).step action).2.group topic group).roster =
      ((empty.run actions).group topic group).roster) :
    Continues topic group passed ((empty.run actions).step action).2 returned where
  inOrder := fun partition => (continues.inOrder partition).trans (messages_step _ action _ _)
  standing_eq := by
    intro id partition owned
    have before := assigned_of_steady_step same owned
    rw [standing_of_noPoll (noPoll id) before owned]
    exact continues.standing_eq id partition before

/-- A batch continues what was handed out of a partition that its session owns. -/
theorem batch {found : Topic} {member : Member}
    (continues : Continues topic group passed broker returned)
    (exist : broker.topic? topic = some found)
    (live : (broker.group topic group).member? id = some member) (limit : Nat)
    (owned : partition ∈ broker.assigned ⟨topic, group, id⟩) :
    let batch := batchFor found (broker.group topic group) member limit
    let taken := passed partition ++
      (returned ++ batch.1).filter fun message => message.partition = partition
    taken <+: broker.messages topic partition ∧
      ((broker.group topic group).setCursors id batch.2).standing id partition = taken.length := by
  intro batch taken
  have beginning := continues.inOrder partition
  have stands := continues.standing_eq id partition owned
  rw [assigned_eq, width_eq_of_topic? exist] at owned
  rw [messages_eq_of_topic? exist] at beginning ⊢
  simp only [taken]
  rw [List.filter_append, ← List.append_assoc]
  exact batchFor_continues live limit owned beginning stands

/-- Nothing is handed out of a partition that its session does not own. -/
theorem batch_elsewhere {found : Topic} {member : Member}
    (exist : broker.topic? topic = some found)
    (live : (broker.group topic group).member? id = some member) (limit : Nat)
    (notOwned : partition ∉ broker.assigned ⟨topic, group, id⟩) (returned : List Message) :
    (returned ++ (batchFor found (broker.group topic group) member limit).1).filter
        (fun message => message.partition = partition) =
      returned.filter fun message => message.partition = partition := by
  rw [assigned_eq, width_eq_of_topic? exist] at notOwned
  rw [List.filter_append, filter_batchFor_of_not_owned live limit notOwned, List.append_nil]

/-- A poll hands its session the next of the messages, and leaves alone what the owner of another
partition stands behind. -/
theorem polled (continues : Continues topic group passed (empty.run actions) returned)
    (id limit patience : Nat)
    (same : (((empty.run actions).step (.ask (.poll ⟨topic, group, id⟩ limit patience))).2.group
      topic group).roster = ((empty.run actions).group topic group).roster) :
    Continues topic group passed
      ((empty.run actions).step (.ask (.poll ⟨topic, group, id⟩ limit patience))).2
      (returned ++
        handedBy
          ((empty.run actions).step (.ask (.poll ⟨topic, group, id⟩ limit patience))).1) := by
  have grown := messages_step (empty.run actions)
    (.ask (.poll ⟨topic, group, id⟩ limit patience)) topic
  rcases poll_cases ⟨topic, group, id⟩ limit patience (empty.run actions) with
    ⟨fault, failed, topics_eq⟩ | ⟨found, member, exist, live, answered, changed⟩
  · rw [failed, handedBy, List.append_nil]
    refine ⟨fun partition => (continues.inOrder partition).trans (grown partition), ?_⟩
    intro other partition owned
    rw [group_congr topics_eq]
    exact continues.standing_eq other partition (assigned_of_steady_step same owned)
  · rw [answered, handedBy_handedOut]
    constructor
    · intro partition
      by_cases owned : partition ∈ (empty.run actions).assigned ⟨topic, group, id⟩
      · exact (continues.batch exist live limit owned).1.trans (grown partition)
      · rw [batch_elsewhere exist live limit owned]
        exact (continues.inOrder partition).trans (grown partition)
    · intro other partition owned
      have before := assigned_of_steady_step same owned
      rw [changed]
      by_cases isReader : other = id
      · subst isReader
        exact (continues.batch exist live limit before).2
      · have notOwned : partition ∉ (empty.run actions).assigned ⟨topic, group, id⟩ := by
          intro alsoOwned
          have fit := wellFormed_run actions topic group
          rw [assigned_eq] at before alsoOwned
          exact isReader (fit.owner_unique before alsoOwned)
        rw [batch_elsewhere exist live limit notOwned, Group.standing_setCursors_of_ne isReader]
        exact continues.standing_eq other partition before

theorem step (continues : Continues topic group passed (empty.run actions) returned)
    (same : (((empty.run actions).step action).2.group topic group).roster =
      ((empty.run actions).group topic group).roster) :
    Continues topic group passed ((empty.run actions).step action).2
      (returned ++ handedTo topic group (empty.run actions) action) := by
  have beside : (∀ id, action.isPollOf ⟨topic, group, id⟩ = false) →
      handedTo topic group (empty.run actions) action = [] →
      Continues topic group passed ((empty.run actions).step action).2
        (returned ++ handedTo topic group (empty.run actions) action) := by
    intro noPoll nothing
    rw [nothing, List.append_nil]
    exact continues.beside noPoll same
  cases action with
  | ask request =>
      cases request with
      | poll reader limit patience =>
          by_cases ours : reader.topic = topic ∧ reader.group = group
          · rcases reader with ⟨readerTopic, readerGroup, id⟩
            rcases ours with ⟨rfl, rfl⟩
            simpa [handedTo] using continues.polled id limit patience same
          · apply beside
            · intro id
              simp only [Action.isPollOf, decide_eq_false_iff_not]
              rintro rfl
              exact ours ⟨rfl, rfl⟩
            · exact if_neg ours
      | _ => exact beside (fun _ => rfl) rfl
  | _ => exact beside (fun _ => rfl) rfl

end Continues

theorem continues_run
    (fresh : ∀ id limit patience, .ask (.poll ⟨topic, group, id⟩ limit patience) ∈ front →
      (empty.run front).member? ⟨topic, group, id⟩ = none)
    (steady : Steady topic group (empty.run front) actions) :
    Continues topic group ((empty.run front).passed topic group) (empty.run (front ++ actions))
      (returnedTo topic group (empty.run front) actions) := by
  induction actions using List.reverseRecOn with
  | nil =>
      rw [List.append_nil]
      exact .initial fresh
  | append_singleton actions action hypothesis =>
      have before := hypothesis steady.earlier
      have same := steady.later.step
      rw [← run_append] at same
      rw [returnedTo_append, ← run_append, ← List.append_assoc, run_concat]
      simpa [returnedTo] using before.step same

namespace Continues

/-- Behind a poll that has found nothing its session has everything that it owns: it stands behind
what was handed out, and the poll has left it at the end. -/
theorem complete_of_nothing {limit patience : Nat} {passed : Nat → List Message}
    (continues : Continues topic group passed
      (empty.run (actions ++ [.ask (.poll ⟨topic, group, id⟩ limit patience)])) returned)
    (same : (((empty.run actions).step (.ask (.poll ⟨topic, group, id⟩ limit patience))).2.group
      topic group).roster = ((empty.run actions).group topic group).roster)
    (nothing : ((empty.run actions).poll ⟨topic, group, id⟩ limit).1 = .ok none)
    (owned : partition ∈
      (empty.run (actions ++ [.ask (.poll ⟨topic, group, id⟩ limit patience)])).assigned
        ⟨topic, group, id⟩) :
    passed partition ++ returned.filter (fun message => message.partition = partition) =
      (empty.run actions).messages topic partition := by
  rw [run_concat] at continues owned
  have stands := continues.standing_eq id partition owned
  have beginning := continues.inOrder partition
  have noArrival : ((empty.run actions).step
      (.ask (.poll ⟨topic, group, id⟩ limit patience))).2.arrivals =
        (empty.run actions).arrivals :=
    arrivals_poll ⟨topic, group, id⟩ limit (empty.run actions)
  rw [messages_step_eq noArrival] at beginning
  apply beginning.eq_of_length_le
  rw [← stands]
  have before := assigned_of_steady_step same owned
  rcases poll_cases ⟨topic, group, id⟩ limit patience (empty.run actions) with
    ⟨fault, failed, _⟩ | ⟨found, member, exist, live, answered, changed⟩
  · change ((empty.run actions).poll _ _).1 = _ at failed
    rw [nothing] at failed
    cases failed
  · change ((empty.run actions).poll _ _).1 = _ at answered
    rw [nothing, Except.ok.injEq, eq_comm, handedOut] at answered
    rw [assigned_eq, width_eq_of_topic? exist] at before
    rw [messages_eq_of_topic? exist, changed]
    apply length_le_standing_of_short live before
    split at answered
    · rename_i noMessage
      simp only [Bool.and_eq_true, List.isEmpty_iff, ne_eq, decide_eq_true_eq] at noMessage
      rw [noMessage.1]
      exact Nat.pos_of_ne_zero noMessage.2
    · cases answered

end Continues

/-- From each partition the sessions were handed a stretch that begins behind what was passed. -/
theorem Continues.taken_eq {passed : Nat → List Message}
    (continues : Continues topic group passed broker returned) (partition : Nat) :
    let taken := returned.filter fun message => message.partition = partition
    taken = ((broker.messages topic partition).drop (passed partition).length).take taken.length ∧
      taken.map Message.offset = List.range' (passed partition).length taken.length := by
  intro taken
  have beginning : passed partition ++ taken <+: broker.messages topic partition :=
    continues.inOrder partition
  have atMost := beginning.length_le
  have offsets := beginning.map Message.offset
  rw [map_offset_messages, List.prefix_iff_eq_take, List.length_map, List.take_range,
    Nat.min_eq_left atMost, List.range_eq_range', List.length_append, ← List.range'_append,
    List.map_append] at offsets
  constructor
  · rcases beginning with ⟨rest, whole⟩
    rw [← whole, List.append_assoc, List.drop_left, List.take_left]
  · simpa using List.append_inj_right offsets (by simp)

theorem nodup_of_filter_partition {messages : List Message}
    (distinct : ∀ partition, ((messages.filter fun message =>
      message.partition = partition).map Message.offset).Nodup) :
    (messages.map fun message => (message.partition, message.offset)).Nodup := by
  rw [List.nodup_iff_count_le_one]
  rintro ⟨partition, offset⟩
  have atMostOnce := List.nodup_iff_count_le_one.mp (distinct partition) offset
  rw [List.count, List.countP_map] at atMostOnce ⊢
  rw [List.countP_filter] at atMostOnce
  refine Nat.le_trans (Nat.le_of_eq (List.countP_congr ?_)) atMostOnce
  intro message _
  simp [and_comm]

/-- What lies behind the checkpoint is not among what was passed. -/
theorem not_mem_passed {message : Message}
    (behind : ((empty.run front).group topic group).startOffset partition ≤ message.offset) :
    message ∉ (empty.run front).passed topic group partition := by
  intro isPassed
  have isNumber := List.mem_map_of_mem (f := Message.offset) isPassed
  rw [passed, List.map_take, map_offset_messages, List.take_range, List.mem_range] at isNumber
  omega

/-- If a poll has found nothing and nothing has arrived since, then every message behind the
checkpoint, in what its session owns, has been returned. What it owns now it owned when it polled.
-/
theorem mem_returned_of_nothing {limit patience : Nat} {more : List Action} {message : Message}
    (fresh : ∀ id limit patience, .ask (.poll ⟨topic, group, id⟩ limit patience) ∈ front →
      (empty.run front).member? ⟨topic, group, id⟩ = none)
    (steady : Steady topic group (empty.run front)
      (actions ++ .ask (.poll ⟨topic, group, id⟩ limit patience) :: more))
    (nothing : ((empty.run (front ++ actions)).poll ⟨topic, group, id⟩ limit).1 = .ok none)
    (noArrival : ((empty.run (front ++ actions)).run
      (.ask (.poll ⟨topic, group, id⟩ limit patience) :: more)).arrivals =
        (empty.run (front ++ actions)).arrivals)
    (owned : partition ∈ ((empty.run (front ++ actions)).run
      (.ask (.poll ⟨topic, group, id⟩ limit patience) :: more)).assigned ⟨topic, group, id⟩)
    (stored : message ∈ ((empty.run (front ++ actions)).run
      (.ask (.poll ⟨topic, group, id⟩ limit patience) :: more)).messages topic partition)
    (behind : ((empty.run front).group topic group).startOffset partition ≤ message.offset) :
    message ∈ returnedTo topic group (empty.run front)
      (actions ++ .ask (.poll ⟨topic, group, id⟩ limit patience) :: more) := by
  rw [messages_run_eq noArrival] at stored
  rw [List.append_cons] at steady ⊢
  have continues := continues_run fresh steady.earlier
  rw [List.append_assoc] at steady
  have steadySince := steady.later
  rw [← run_append] at steadySince
  have ownedThen := assigned_of_steady steadySince.later owned
  rw [← run_append] at ownedThen
  rw [← List.append_assoc] at continues
  have complete := continues.complete_of_nothing steadySince.earlier.step nothing ownedThen
  rw [← complete] at stored
  rw [returnedTo_append]
  apply List.mem_append_left
  rcases List.mem_append.mp stored with isPassed | isReturned
  · exact absurd isPassed (not_mem_passed behind)
  · exact List.mem_of_mem_filter isReturned

/-- While no session of a group comes or goes, no message is returned to its sessions twice, and
from each partition they get a stretch without a gap that begins at the checkpoint from before they
polled. When a poll with room for messages returns none, all that is stored by then from there on,
in the partitions that its session owns, has been returned. -/
theorem returned_of_steady
    (fresh : ∀ id limit patience, .ask (.poll ⟨topic, group, id⟩ limit patience) ∈ front →
      (empty.run front).member? ⟨topic, group, id⟩ = none)
    (steady : Steady topic group (empty.run front) actions) :
    let before := empty.run front
    let broker := empty.run (front ++ actions)
    let returned := returnedTo topic group before actions
    let start := fun partition => (before.checkpoint? topic group partition).getD 0
    (returned.map fun message => (message.partition, message.offset)).Nodup ∧
      (∀ partition,
        let taken := returned.filter fun message => message.partition = partition
        taken = ((broker.messages topic partition).drop (start partition)).take taken.length ∧
          taken.map Message.offset = List.range' (start partition) taken.length) ∧
      ∀ (line ended : Timeline Broker) (id limit patience : Nat), line.log = broker → 0 < limit →
        line.poll ⟨topic, group, id⟩ limit patience = (.ok [], ended) →
        ∃ occurred, line.Comes occurred ended ∧
          (∀ occurrence ∈ occurred, occurrence.isPollOrAside ⟨topic, group, id⟩ = true) ∧
          (Steady topic group before (actions ++ occurred.map actionOf) →
            ∀ partition ∈ ended.log.assigned ⟨topic, group, id⟩,
            ∀ message ∈ ended.log.messages topic partition, start partition ≤ message.offset →
              message ∈ returnedTo topic group before (actions ++ occurred.map actionOf)) := by
  intro before broker returned start
  have continues := continues_run fresh steady
  have startsAt : ∀ partition, (before.passed topic group partition).length = start partition :=
    length_passed front topic group
  refine ⟨?_, ?_, ?_⟩
  · apply nodup_of_filter_partition
    intro partition
    rw [(continues.taken_eq partition).2]
    exact List.nodup_range'
  · intro partition
    rw [← startsAt]
    exact continues.taken_eq partition
  · intro line ended id limit patience present some_room nothing
    rcases comes_of_poll_nil (Nat.ne_of_gt some_room) nothing with
      ⟨earlier, later, moment, reply, comes, answered, noArrival⟩
    refine ⟨_, comes, ?_, ?_⟩
    · have isPull : ended = (Consumer.pull limit patience ⟨⟨topic, group, id⟩, false⟩ line).2 :=
        (congrArg Prod.snd nothing).symm
      rw [isPull] at comes
      exact (Consumer.of_comes_pull comes).1
    · intro steadyOn partition owned message stored behind
      have atPoll : line.log.run (earlier.map actionOf) =
          empty.run (front ++ (actions ++ earlier.map actionOf)) := by
        rw [present, ← List.append_assoc, run_append _ (front ++ actions)]
      have atEnd : ended.log = (empty.run (front ++ (actions ++ earlier.map actionOf))).run
          (.ask (.poll ⟨topic, group, id⟩ limit patience) :: later.map actionOf) := by
        rw [← atPoll, run_of_comes comes, List.map_append, run_append]
        rfl
      rw [atPoll] at answered noArrival
      rw [atEnd] at noArrival owned stored
      rw [List.map_append, ← List.append_assoc] at steadyOn ⊢
      exact mem_returned_of_nothing fresh steadyOn answered noArrival owned stored behind

/-- While a session polls nobody comes or goes, unless by an event. -/
theorem unchanged_of_polls {reader : Reader} {occurred : List (Occurrence Broker)}
    (own : ∀ occurrence ∈ occurred, occurrence.isPollOrAside reader = true)
    (unchanged : ∀ action, .event action ∈ occurred → action.changesRoster topic group = false) :
    ∀ action ∈ occurred.map actionOf, action.changesRoster topic group = false := by
  intro action present
  rcases List.mem_map.mp present with ⟨occurrence, happens, rfl⟩
  cases occurrence with
  | event action => exact unchanged action happens
  | request exchange =>
      have isOwn := own _ happens
      rcases exchange with ⟨moment, request, reply⟩
      cases request with
      | poll => rfl
      | offsets => rfl
      | _ => simp [Occurrence.isPollOrAside, Exchange.isPollOf, Occurrence.isAside] at isOwn

/-- One session has a partition of its own, and the other one has the other two. -/
def mixedGroup : List Action :=
  [.createTopic "t" 3,
    .append "t" [⟨some 0, none, ⟨#[97]⟩⟩, ⟨some 0, none, ⟨#[98]⟩⟩, ⟨some 1, none, ⟨#[99]⟩⟩],
    .ask (.join "t" "g" (.static 0)), .ask (.join "t" "g" .dynamic)]

/-- Both sessions poll and check off, and a record is added in between. -/
def mixedReading : List Action :=
  [.ask (.poll ⟨"t", "g", 0⟩ 1 0), .ask (.commit ⟨"t", "g", 0⟩),
    .append "t" [⟨some 1, none, ⟨#[100]⟩⟩], .ask (.poll ⟨"t", "g", 1⟩ 5 0),
    .ask (.commit ⟨"t", "g", 1⟩), .ask (.poll ⟨"t", "g", 0⟩ 5 0)]

/-- While a session waits, a record arrives for the other one, which polls. -/
def mixedWaiting : Timeline Broker :=
  { Timeline.start (empty.run (mixedGroup ++ mixedReading)) with
    upcoming := [(5, .append "t" [⟨some 2, none, ⟨#[101]⟩⟩]), (7, .ask (.poll ⟨"t", "g", 1⟩ 5 0))] }

theorem returned_of_mixedReading :
    let returned := returnedTo "t" "g" (empty.run mixedGroup)
    let ended := (mixedWaiting.poll ⟨"t", "g", 0⟩ 5 10).2
    (returned mixedReading).map (fun message => (message.partition, message.offset)) =
        [(0, 0), (1, 0), (1, 1), (0, 1)] ∧
      ((returned mixedReading).map fun message => (message.partition, message.offset)).Nodup ∧
      (mixedWaiting.poll ⟨"t", "g", 0⟩ 5 10).1 = .ok [] ∧
      ∃ occurred, mixedWaiting.Comes occurred ended ∧
        ∀ message ∈ ended.log.messages "t" 0,
          message ∈ returned (mixedReading ++ occurred.map actionOf) := by
  intro returned ended
  have fresh : ∀ id limit patience, .ask (.poll ⟨"t", "g", id⟩ limit patience) ∈ mixedGroup →
      (empty.run mixedGroup).member? ⟨"t", "g", id⟩ = none := by
    intro id limit patience present
    simp [mixedGroup] at present
  have unchanged : ∀ action ∈ mixedReading, action.changesRoster "t" "g" = false := by decide
  have answered : (mixedWaiting.poll ⟨"t", "g", 0⟩ 5 10).1 = .ok [] := by decide +kernel
  rcases returned_of_steady fresh (steady_of_unchanged unchanged _) with ⟨once, _, complete⟩
  rcases complete mixedWaiting ended 0 5 10 rfl (by decide) (Prod.ext answered rfl) with
    ⟨occurred, comes, own, all⟩
  refine ⟨by decide +kernel, once, answered, occurred, comes, ?_⟩
  intro message stored
  refine all (steady_of_unchanged ?_ _) 0 (by decide +kernel) message stored (Nat.zero_le _)
  intro action present
  rcases List.mem_append.mp present with before | meanwhile
  · exact unchanged action before
  · refine unchanged_of_polls own ?_ action meanwhile
    intro event happens
    have ahead := comes.mem_upcoming happens
    simp only [mixedWaiting, List.map_cons, List.map_nil, List.mem_cons, List.not_mem_nil,
      or_false] at ahead
    rcases ahead with rfl | rfl
    · rfl
    · rfl

end FrontierBus.Broker
