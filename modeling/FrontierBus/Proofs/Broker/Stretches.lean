import FrontierBus.Proofs.Broker.Attendance
import FrontierBus.Proofs.Broker.Setbacks

/-!
# Stretches of reading

From when a session takes a partition up until it gives it up it is handed one stretch of it. What
the session remembers is the end of that stretch, which can be told from what it was handed. Only
its commits move a checkpoint, to that end, and only in the partitions that it owns at the time;
what it has lost meanwhile stays as it is.
-/

namespace FrontierBus.Broker

/-- Where a session has taken a partition up, and what it was handed out of it since. -/
structure Stretch where
  start : Nat
  given : List Message

namespace Stretch

/-- One past the last message that was handed out, or where the partition was taken up if there was
none. -/
def place (stretch : Stretch) : Nat :=
  match stretch.given.getLast? with
  | some message => message.offset + 1
  | none => stretch.start

/-- The messages are those from the start on, without a gap. -/
def Gapless (stretch : Stretch) : Prop :=
  stretch.given.map Message.offset = List.range' stretch.start stretch.given.length

/-- The stretch with more messages. -/
def extend (stretch : Stretch) (more : List Message) : Stretch :=
  { stretch with given := stretch.given ++ more }

theorem place_eq {stretch : Stretch} (gapless : stretch.Gapless) :
    stretch.place = stretch.start + stretch.given.length := by
  rcases stretch with ⟨start, given⟩
  rcases List.eq_nil_or_concat given with rfl | ⟨front, last, rfl⟩
  · rfl
  · simp only [Gapless, List.concat_eq_append, List.map_append, List.length_append,
      List.length_singleton, List.range'_1_concat, List.map_singleton] at gapless
    have lastOffset := (List.append_inj' gapless rfl).2
    rw [List.cons.injEq] at lastOffset
    simp only [place, List.concat_eq_append, List.getLast?_append, List.getLast?_singleton,
      Option.some_or, List.length_append, List.length_singleton, lastOffset.1]
    omega

/-- Messages that begin at the end of a stretch extend it without a gap. -/
theorem Gapless.extend {stretch : Stretch} {more : List Message} (gapless : stretch.Gapless)
    (goesOn : more.map Message.offset = List.range' stretch.place more.length) :
    (stretch.extend more).Gapless := by
  rw [place_eq gapless] at goesOn
  simp only [Gapless, Stretch.extend, List.map_append, List.length_append]
  rw [gapless, goesOn, List.range'_append_1]

end Stretch

/-- What a session keeps of a partition after an action. A poll that is served takes the partition
up, if the session owns it and has not done so before, and adds what it hands out; else it gives the
partition up. -/
def keeps (reader : Reader) (partition : Nat) (broker : Broker) (action : Action)
    (kept : Option Stretch) : Option Stretch :=
  match action with
  | .ask (.poll poller limit patience) =>
    if poller = reader then
      match (broker.step (.ask (.poll reader limit patience))).1 with
      | .error _ => kept
      | .ok handed =>
        if partition ∈ broker.assigned reader then
          let checkpoint? := broker.checkpoint? reader.topic reader.group partition
          some ((kept.getD ⟨checkpoint?.getD 0, []⟩).extend
            ((handed.getD []).filter fun message => message.partition = partition))
        else none
    else kept
  | .ask (.leave gone) => if gone = reader then none else kept
  | _ => kept

/-- What a session keeps of a partition after a run. -/
def stretch? (reader : Reader) (partition : Nat) (actions : List Action) : Option Stretch :=
  noted (keeps reader partition) empty none actions

theorem stretch?_concat (reader : Reader) (partition : Nat) (actions : List Action)
    (action : Action) :
    stretch? reader partition (actions ++ [action]) =
      keeps reader partition (empty.run actions) action (stretch? reader partition actions) :=
  noted_concat empty none actions action

variable {reader : Reader} {partition limit patience : Nat} {before : Broker} {action : Action}
  {kept : Option Stretch} {found : Topic} {members : Group} {member : Member} {id : Nat}

/-- What a session remembers is the end of the stretch that it keeps. -/
structure Follows (reader : Reader) (partition : Nat) (broker : Broker) (kept : Option Stretch) :
    Prop where
  remembered_eq : broker.remembered? reader partition = kept.map Stretch.place
  gapless : ∀ stretch, kept = some stretch → stretch.Gapless

theorem keeps_of_beside (noPoll : action.isPollOf reader = false)
    (stays : action.isLeaveOf reader = false) :
    keeps reader partition before action kept = kept := by
  cases action with
  | ask request =>
      cases request with
      | poll poller limit patience =>
          have other : poller ≠ reader := by simpa [Action.isPollOf] using noPoll
          simp [keeps, other]
      | leave gone =>
          have other : gone ≠ reader := by simpa [Action.isLeaveOf] using stays
          simp [keeps, other]
      | _ => rfl
  | _ => rfl

theorem Group.remembered?_dismiss_of_ne {group : Group} {gone : Nat} (different : id ≠ gone)
    (partition : Nat) :
    (group.dismiss gone).remembered? id partition = group.remembered? id partition := by
  simp only [Group.remembered?]
  rw [Group.member?_dismiss, if_neg different]

/-- Only its own polls and its end change what a session remembers. -/
theorem remembered?_of_beside (noPoll : action.isPollOf reader = false)
    (stays : action.isLeaveOf reader = false) :
    (before.step action).2.remembered? reader partition = before.remembered? reader partition := by
  rcases reader with ⟨topic, group, id⟩
  simp only [Broker.remembered?]
  cases groupStep before action topic group with
  | kept changed => rw [changed]
  | joined _ changed _ => rw [changed, Group.remembered?_enlist]
  | @polled other _ _ _ _ _ _ _ changed =>
      have different : id ≠ other := by
        intro same
        simp [Action.isPollOf, same] at noPoll
      rw [changed, Group.remembered?_setCursors_of_ne different]
  | committed _ changed => rw [changed, Group.remembered?_commit]
  | @left gone changed =>
      have different : id ≠ gone := by
        intro same
        simp [Action.isLeaveOf, same] at stays
      rw [changed, Group.remembered?_dismiss_of_ne different]

theorem Follows.beside (follows : Follows reader partition before kept)
    (noPoll : action.isPollOf reader = false) (stays : action.isLeaveOf reader = false) :
    Follows reader partition (before.step action).2
      (keeps reader partition before action kept) := by
  rw [keeps_of_beside noPoll stays]
  exact ⟨(remembered?_of_beside noPoll stays).trans follows.remembered_eq, follows.gapless⟩

theorem Follows.left : Follows reader partition (before.step (.ask (.leave reader))).2 none where
  remembered_eq := by
    simp [Broker.remembered?, group_of_leave, Group.remembered?, Group.member?_dismiss]
  gapless := by simp

theorem Topic.map_offset_stretch (topic : Topic) (partition start stop : Nat) :
    (((topic.messages partition).take stop).drop start).map Message.offset =
      List.range' start (((topic.messages partition).take stop).drop start).length := by
  apply List.ext_getElem
  · simp
  · intro offset _ _
    simp [messages]

/-- A poll forgets what its session does not own. -/
theorem remembered?_of_not_owned (live : members.member? id = some member) (limit : Nat)
    (notOwned : partition ∉ members.assigned found.count id) :
    (members.setCursors id (batchFor found members member limit).2).remembered? id partition =
      none := by
  rw [Group.remembered?_setCursors_self live, Option.map_eq_none_iff, List.find?_eq_none]
  intro cursor present here
  apply notOwned
  rw [← Group.id_of_member? live, ← map_partition_batchFor found members member limit]
  have inPartition : cursor.partition = partition := by simpa using here
  exact inPartition ▸ List.mem_map_of_mem present

/-- The batch of a poll goes on, in a partition that its session owns, from where the session stands
to where it stands then. -/
theorem batchFor_goesOn (live : members.member? id = some member) (limit : Nat)
    (owned : partition ∈ members.assigned found.count id) :
    let batch := batchFor found members member limit
    let more := batch.1.filter fun message => message.partition = partition
    (members.setCursors id batch.2).remembered? id partition =
        some (members.standing id partition + more.length) ∧
      more.map Message.offset = List.range' (members.standing id partition) more.length := by
  intro batch more
  rcases filter_batchFor_of_owned live limit owned with
    ⟨stop, remembered, notBefore, inside, stretch⟩
  have isMore : more = ((found.messages partition).take stop).drop
      (members.standing id partition) := stretch
  constructor
  · have reached : stop = members.standing id partition + more.length := by
      rw [isMore, List.length_drop, List.length_take]
      rcases Nat.lt_or_ge (members.standing id partition) stop with moved | still
      · have atMost := inside moved
        omega
      · omega
    rw [← reached]
    exact remembered
  · rw [isMore]
    exact found.map_offset_stretch partition _ stop

/-- A session that goes on from where it stands, or from the checkpoint if it has not taken the
partition up yet, extends its stretch. -/
theorem Follows.extend {after : Broker} {changed : Group} {more : List Message}
    (follows : Follows reader partition before kept)
    (isChanged : after.group reader.topic reader.group = changed)
    (moved : changed.remembered? reader.member partition =
      some ((before.group reader.topic reader.group).standing reader.member partition +
        more.length))
    (goesOn : more.map Message.offset =
      List.range' ((before.group reader.topic reader.group).standing reader.member partition)
        more.length) :
    let checkpoint? := before.checkpoint? reader.topic reader.group partition
    Follows reader partition after
      (some ((kept.getD ⟨checkpoint?.getD 0, []⟩).extend more)) := by
  intro checkpoint?
  have stood := follows.remembered_eq
  have isGapless : (kept.getD ⟨checkpoint?.getD 0, []⟩).Gapless := by
    cases kept with
    | none => rfl
    | some stretch => exact follows.gapless stretch rfl
  have standing : (before.group reader.topic reader.group).standing reader.member partition =
      (kept.getD ⟨checkpoint?.getD 0, []⟩).place := by
    cases kept with
    | none => exact Group.standing_of_not_remembered stood
    | some stretch => exact Group.standing_of_remembered? stood
  rw [standing] at moved goesOn
  have extended := isGapless.extend goesOn
  refine ⟨?_, ?_⟩
  · simp only [Broker.remembered?, isChanged, Option.map_some]
    rw [moved, Stretch.place_eq isGapless, Stretch.place_eq extended, Stretch.extend,
      List.length_append, Nat.add_assoc]
  · intro stretch isStretch
    rw [← Option.some.inj isStretch]
    exact extended

theorem Follows.polled (follows : Follows reader partition before kept) (limit patience : Nat) :
    Follows reader partition (before.step (.ask (.poll reader limit patience))).2
      (keeps reader partition before (.ask (.poll reader limit patience)) kept) := by
  simp only [keeps, if_true]
  rcases poll_cases reader limit patience before with
    ⟨fault, failed, topics_eq⟩ | ⟨found, member, exist, live, answered, changed⟩
  · rw [failed]
    refine ⟨?_, follows.gapless⟩
    simp only [Broker.remembered?, group_congr topics_eq]
    exact follows.remembered_eq
  · have handed := handedBy_handedOut limit
      (batchFor found (before.group reader.topic reader.group) member limit).1
    rw [answered]
    generalize handedOut limit
      (batchFor found (before.group reader.topic reader.group) member limit).1 = answer at handed
    have isHanded : answer.getD [] = (batchFor found (before.group reader.topic reader.group)
        member limit).1 := by
      rw [← handed]
      cases answer with
      | none => rfl
      | some messages => rfl
    simp only [isHanded]
    have stood := follows.remembered_eq
    by_cases owned : partition ∈ before.assigned reader
    · rw [if_pos owned]
      rw [assigned_eq, width_eq_of_topic? exist] at owned
      rcases batchFor_goesOn live limit owned with ⟨moved, goesOn⟩
      exact follows.extend changed moved goesOn
    · rw [if_neg owned]
      rw [assigned_eq, width_eq_of_topic? exist] at owned
      refine ⟨?_, by simp⟩
      simp only [Broker.remembered?, changed]
      exact remembered?_of_not_owned live limit owned

theorem Follows.step (follows : Follows reader partition before kept) (action : Action) :
    Follows reader partition (before.step action).2
      (keeps reader partition before action kept) := by
  cases polls : action.isPollOf reader with
  | false =>
      cases leaves : action.isLeaveOf reader with
      | false => exact follows.beside polls leaves
      | true =>
          rw [Action.isLeaveOf_eq_true] at leaves
          subst leaves
          simp only [keeps, if_true]
          exact .left
  | true =>
      rcases Action.isPollOf_eq_true.mp polls with ⟨limit, patience, rfl⟩
      exact follows.polled limit patience

theorem follows_run (actions : List Action) (reader : Reader) (partition : Nat) :
    Follows reader partition (empty.run actions) (stretch? reader partition actions) := by
  induction actions using List.reverseRecOn with
  | nil => exact ⟨rfl, by simp [stretch?, noted]⟩
  | append_singleton actions action hypothesis =>
      rw [run_concat, stretch?_concat]
      exact hypothesis.step action

variable {actions : List Action} {topic group : String}

/-- An action is the commit of a session that moves the checkpoint of its group in a partition. -/
structure Moves (actions : List Action) (action : Action) (topic group : String) (partition : Nat)
    (session : Session) (stretch : Stretch) : Prop where
  present : session ∈ sessions actions
  isOf : session.reader.topic = topic ∧ session.reader.group = group
  commits : action = .ask (.commit session.reader)
  answered : ((empty.run actions).step (.ask (.commit session.reader))).1 = .ok ()
  owned : partition ∈ (empty.run actions).assigned session.reader
  /-- What it was given of the partition since it took it up last. -/
  kept : stretch? session.reader partition actions = some stretch
  position_eq : (empty.run actions).position session.reader partition = .ok stretch.place
  written : ((empty.run actions).step action).2.checkpoint? topic group partition =
    some stretch.place

theorem position_of_remembered? {broker : Broker} {position : Nat}
    (owned : partition ∈ broker.assigned reader)
    (known : broker.remembered? reader partition = some position) :
    broker.position reader partition = .ok position := by
  rw [position_of_owned owned, Group.standing_of_remembered? known]

/-- Whatever moves a checkpoint is the commit of a session that owns the partition. -/
theorem exists_moves
    (moved : ((empty.run actions).step action).2.checkpoint? topic group partition ≠
      (empty.run actions).checkpoint? topic group partition) :
    ∃ session stretch, Moves actions action topic group partition session stretch := by
  rcases checkpoint?_cases actions action topic group partition with
    unmoved | ⟨id, position, isCommit, answered, owned, known, written⟩
  · exact absurd unmoved moved
  · rcases exists_session_of_owned owned with ⟨session, isPresent, isReader⟩
    have remembers : (empty.run actions).remembered? ⟨topic, group, id⟩ partition =
        some position := known
    have isPlace := remembers
    rw [(follows_run actions ⟨topic, group, id⟩ partition).remembered_eq,
      Option.map_eq_some_iff] at isPlace
    rcases isPlace with ⟨stretch, isStretch, rfl⟩
    rw [← isReader] at isCommit answered owned remembers isStretch
    refine ⟨session, stretch, isPresent, ?_, isCommit, answered, owned, isStretch,
      position_of_remembered? owned remembers, written⟩
    rw [isReader]
    exact ⟨rfl, rfl⟩

/-- A commit sets the checkpoints of what its session owns and has taken up. -/
theorem checkpoint?_of_owned
    (answered : ((empty.run actions).step (.ask (.commit reader))).1 = .ok ())
    (owned : partition ∈ (empty.run actions).assigned reader) :
    ((empty.run actions).step (.ask (.commit reader))).2.checkpoint? reader.topic reader.group
        partition =
      ((stretch? reader partition actions).map Stretch.place).or
        ((empty.run actions).checkpoint? reader.topic reader.group partition) := by
  rw [assigned_eq] at owned
  rw [← (follows_run actions reader partition).remembered_eq, Broker.checkpoint?,
    group_of_commit answered, Group.checkpoint?_commit (wellFormed_run actions _ _), if_pos owned]
  rfl

/-- Only a session that is present, and in the partitions that it owns at the time, moves
checkpoints by its commits: each to one past the last message that it was given since it took the
partition up, or to where it took it up if it was given none. A commit leaves the checkpoints of a
partition alone if its session has lost the partition or is gone. -/
theorem checkpoint?_moved_by_owner (actions : List Action) (action : Action) :
    let before := empty.run actions
    let after := (before.step action).2
    (∀ topic group partition,
      after.checkpoint? topic group partition ≠ before.checkpoint? topic group partition →
        ∃ session stretch, Moves actions action topic group partition session stretch) ∧
    (∀ reader partition, action = .ask (.commit reader) →
      (before.step (.ask (.commit reader))).1 = .ok () → partition ∈ before.assigned reader →
        after.checkpoint? reader.topic reader.group partition =
          ((stretch? reader partition actions).map Stretch.place).or
            (before.checkpoint? reader.topic reader.group partition)) ∧
    ∀ reader partition, action = .ask (.commit reader) →
      (partition ∉ before.assigned reader ∨ ∀ session ∈ sessions actions, session.reader ≠ reader) →
        ∀ topic group,
          after.checkpoint? topic group partition = before.checkpoint? topic group partition := by
  intro before after
  refine ⟨fun _ _ _ => exists_moves, ?_, ?_⟩
  · rintro reader partition rfl answered owned
    exact checkpoint?_of_owned answered owned
  · intro reader partition isCommit lost topic group
    by_contra moved
    rcases exists_moves moved with ⟨session, stretch, moves⟩
    have isOwn := moves.commits
    rw [isCommit] at isOwn
    injection isOwn with sameRequest
    injection sameRequest with sameReader
    rcases lost with notOwned | absent
    · exact notOwned (sameReader ▸ moves.owned)
    · exact absent session moves.present sameReader.symm

/-- A session reads two messages of the three of a partition, loses it to one that asks for it alone
and that takes it up without being handed any, for there is room for none. -/
def supplanted : List Action :=
  [.createTopic "t" 1,
    .append "t" [⟨none, none, ⟨#[97]⟩⟩, ⟨none, none, ⟨#[98]⟩⟩, ⟨none, none, ⟨#[99]⟩⟩],
    .ask (.join "t" "g" .dynamic), .ask (.poll ⟨"t", "g", 0⟩ 2 0), .ask (.commit ⟨"t", "g", 0⟩),
    .ask (.poll ⟨"t", "g", 0⟩ 1 0), .ask (.join "t" "g" (.static 0)),
    .ask (.poll ⟨"t", "g", 1⟩ 0 0)]

/-- What the first session has read meanwhile is not checked off by its commit, and the commit of
the second one sets the checkpoint to where it took the partition up. -/
theorem checkpoint?_moved_by_owner_supplanted :
    let broker := empty.run supplanted
    ((broker.step (.ask (.commit ⟨"t", "g", 0⟩))).2.checkpoint? "t" "g" 0 =
        broker.checkpoint? "t" "g" 0) ∧
      ((broker.step (.ask (.commit ⟨"t", "g", 1⟩))).2.checkpoint? "t" "g" 0 =
        ((stretch? ⟨"t", "g", 1⟩ 0 supplanted).map Stretch.place).or
          (broker.checkpoint? "t" "g" 0)) ∧
      (stretch? ⟨"t", "g", 1⟩ 0 supplanted).map Stretch.place = some 2 := by
  refine ⟨?_, ?_, by decide +kernel⟩
  · exact (checkpoint?_moved_by_owner supplanted (.ask (.commit ⟨"t", "g", 0⟩))).2.2 _ 0 rfl
      (.inl (by decide +kernel)) "t" "g"
  · exact (checkpoint?_moved_by_owner supplanted (.ask (.commit ⟨"t", "g", 1⟩))).2.1 _ 0 rfl
      (by decide +kernel) (by decide +kernel)

end FrontierBus.Broker
