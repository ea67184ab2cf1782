import FrontierBus.Proofs.Broker.Steadiness

/-!
# Refusals

A request that is answered by a fault has used up a failure at most. A poll that hands out nothing
may make its session remember where it stands and forget what it no longer owns, which nobody can
tell from what the session would answer. So a poll that waits and fails has changed nothing that can
be seen; whatever has changed meanwhile is the doing of others.
-/

namespace FrontierBus

/-- The fault, if the answer is one. -/
def faultOf? {Answer : Type} : Except Fault Answer → Option Fault
  | .ok _ => none
  | .error fault => some fault

theorem faultOf?_eq_some {Answer : Type} {answer : Except Fault Answer} {fault : Fault} :
    faultOf? answer = some fault ↔ answer = .error fault := by
  cases answer with
  | ok _ => simp [faultOf?]
  | error _ => simp [faultOf?]

/-- The fault that a request is answered with, if it is. A delivery is not answered as a whole but
record by record. -/
def Request.fault? : (request : Request) → request.Answer → Option Fault
  | .partitionCount _, answer => faultOf? answer
  | .join .., answer => faultOf? answer
  | .openProducer .., answer => faultOf? answer
  | .openProbe .., answer => faultOf? answer
  | .poll .., answer => faultOf? answer
  | .position .., answer => faultOf? answer
  | .committed .., answer => faultOf? answer
  | .commit _, answer => faultOf? answer
  | .leave _, _ => none
  | .deliver .., _ => none
  | .closeProducer _, _ => none
  | .offsets .., answer => faultOf? answer

namespace Broker

/-- The fault that an action is answered with, if it is. -/
def Action.fault? : (action : Action) → action.Outcome → Option Fault
  | .createTopic .., answer => faultOf? answer
  | .append .., answer => faultOf? answer
  | .ask request, answer => request.fault? answer
  | .disconnect, _ | .reconnect, _ | .failNext _, _ => none
  | .readWatermark .., _ | .readCheckpoint .., _ | .countMembers .., _ => none

/-- The records of a topic, and whose turn it is. -/
def Topic.log (topic : Topic) : Array (Array StoredRecord) × Nat :=
  (topic.partitions, topic.turn)

/-- Nothing has changed that anyone could tell: what is stored, how far groups have checked off, who
their members are, and where each session stands. -/
structure Intact (before after : Broker) : Prop where
  log_eq : ∀ name, (after.topic? name).map Topic.log = (before.topic? name).map Topic.log
  checkpoint?_eq : ∀ topic group partition,
    after.checkpoint? topic group partition = before.checkpoint? topic group partition
  roster_eq : ∀ topic group, (after.group topic group).roster = (before.group topic group).roster
  position_eq : ∀ reader partition,
    after.position reader partition = before.position reader partition

/-- At most the failures that are left have changed. -/
def OnlyCounts (before after : Broker) : Prop :=
  ∃ left, after = { before with failuresLeft := left }

variable {before after broker : Broker} {action : Action} {fault : Fault} {reader : Reader}
  {partition limit patience : Nat}

theorem OnlyCounts.refl (broker : Broker) : broker.OnlyCounts broker :=
  ⟨broker.failuresLeft, rfl⟩

theorem OnlyCounts.topics_eq (counts : before.OnlyCounts after) : after.topics = before.topics := by
  rcases counts with ⟨left, rfl⟩
  rfl

theorem position_congr (owned_eq : after.assigned reader = before.assigned reader)
    (stood : partition ∈ before.assigned reader →
      after.effectivePosition reader partition = before.effectivePosition reader partition) :
    after.position reader partition = before.position reader partition := by
  simp only [position, owned_eq]
  split
  · rename_i owned
    rw [stood (by simpa using owned)]
  · rfl

theorem Intact.of_topics_eq (topics_eq : after.topics = before.topics) : before.Intact after where
  log_eq name := by rw [topic?_congr topics_eq]
  checkpoint?_eq topic group partition := by rw [checkpoint?, group_congr topics_eq, checkpoint?]
  roster_eq topic group := by rw [group_congr topics_eq]
  position_eq reader partition := by
    apply position_congr
    · simp only [assigned, topic?_congr topics_eq]
    · intro _
      simp only [effectivePosition, group_congr topics_eq]

section Faults

variable {Answer : Type} {name : String}

theorem onlyCounts_of_reaching {request : Broker → Except Fault Answer × Broker}
    (harmless : (request broker).1 = .error fault → broker.OnlyCounts (request broker).2)
    (refused : (reaching request broker).1 = .error fault) :
    broker.OnlyCounts (reaching request broker).2 := by
  rcases reaching_cases request broker with ⟨_, served⟩ | ⟨_, left, interrupted⟩
  · rw [served] at refused ⊢
    exact harmless refused
  · rw [interrupted]
    exact ⟨left, rfl⟩

theorem onlyCounts_of_reachingTopic {request : Topic → Broker → Except Fault Answer × Broker}
    (harmless : ∀ found, (request found broker).1 = .error fault →
      broker.OnlyCounts (request found broker).2)
    (refused : (reachingTopic name request broker).1 = .error fault) :
    broker.OnlyCounts (reachingTopic name request broker).2 := by
  rcases reachingTopic_cases name request broker with ⟨found, _, served⟩ | ⟨_, left, interrupted⟩
  · rw [served] at refused ⊢
    exact harmless found refused
  · rw [interrupted]
    exact ⟨left, rfl⟩

theorem onlyCounts_of_createTopic {count : Nat}
    (refused : (broker.createTopic name count).1 = .error fault) :
    broker.OnlyCounts (broker.createTopic name count).2 := by
  simp only [createTopic] at refused ⊢
  split
  · exact .refl broker
  · split
    · exact .refl broker
    · simp_all

theorem onlyCounts_of_join {group : String} {assignment : Assignment}
    (refused : (broker.join name group assignment).1 = .error fault) :
    broker.OnlyCounts (broker.join name group assignment).2 := by
  rcases join_cases name group assignment broker with ⟨_, _, _, admitted⟩ | ⟨_, left, turnedAway⟩
  · rw [admitted] at refused
    cases refused
  · rw [turnedAway]
    exact ⟨left, rfl⟩

theorem onlyCounts_of_poll (refused : (broker.poll reader limit).1 = .error fault) :
    broker.OnlyCounts (broker.poll reader limit).2 := by
  cases live : broker.member? reader with
  | none =>
      simp only [poll, live]
      exact .refl broker
  | some member =>
      simp only [poll, live] at refused ⊢
      refine onlyCounts_of_reachingTopic ?_ refused
      intro topic failed
      cases failed

theorem onlyCounts_of_append {records : List Record}
    (refused : (broker.step (.append name records)).1 = .error fault) :
    broker.OnlyCounts (broker.step (.append name records)).2 := by
  have opened : (broker.openOn name).1 = .error fault →
      broker.OnlyCounts (broker.openOn name).2 :=
    onlyCounts_of_reachingTopic fun _ failed => nomatch failed
  simp only [step] at refused ⊢
  generalize broker.openOn name = answered at opened refused ⊢
  rcases answered with ⟨answer, later⟩
  cases answer with
  | ok _ => cases refused
  | error other =>
      cases refused
      exact opened rfl

/-- A request that only asks changes nothing else, whatever it is answered with. -/
theorem onlyCounts_of_question (name : String) (question : Topic → Except Fault Answer)
    (broker : Broker) :
    broker.OnlyCounts
      (reachingTopic name (fun topic broker => (question topic, broker)) broker).2 := by
  rcases reachingTopic_cases name (fun topic broker => (question topic, broker)) broker with
    ⟨found, _, served⟩ | ⟨_, left, interrupted⟩
  · rw [served]
    exact .refl broker
  · rw [interrupted]
    exact ⟨left, rfl⟩

theorem onlyCounts_of_request {request : Request}
    (refused : request.fault? (broker.step (.ask request)).1 = some fault) :
    broker.OnlyCounts (broker.step (.ask request)).2 := by
  cases request with
  | partitionCount name => exact onlyCounts_of_question name (fun topic => .ok topic.count) broker
  | join name group assignment => exact onlyCounts_of_join (faultOf?_eq_some.mp refused)
  | openProducer name _ => exact onlyCounts_of_question name (fun _ => .ok ()) broker
  | openProbe name _ => exact onlyCounts_of_question name (fun _ => .ok ()) broker
  | poll reader limit patience => exact onlyCounts_of_poll (faultOf?_eq_some.mp refused)
  | position reader partition => exact .refl broker
  | committed reader partition =>
      exact onlyCounts_of_reaching (fun failed => nomatch failed) (faultOf?_eq_some.mp refused)
  | commit reader =>
      exact onlyCounts_of_reaching (fun failed => nomatch failed) (faultOf?_eq_some.mp refused)
  | leave reader => cases refused
  | deliver name records => cases refused
  | closeProducer name => cases refused
  | offsets name group count =>
      exact onlyCounts_of_question name (fun topic => topic.offsets name group count) broker

/-- Whatever is answered by a fault has used up a failure at most. -/
theorem onlyCounts_of_fault (refused : action.fault? (broker.step action).1 = some fault) :
    broker.OnlyCounts (broker.step action).2 := by
  cases action with
  | createTopic name count => exact onlyCounts_of_createTopic (faultOf?_eq_some.mp refused)
  | append name records => exact onlyCounts_of_append (faultOf?_eq_some.mp refused)
  | ask request => exact onlyCounts_of_request refused
  | disconnect | reconnect | failNext | readWatermark | readCheckpoint | countMembers =>
      cases refused

theorem intact_of_fault (refused : action.fault? (broker.step action).1 = some fault) :
    broker.Intact (broker.step action).2 :=
  .of_topics_eq (onlyCounts_of_fault refused).topics_eq

end Faults

/-- A poll that hands out nothing from a partition leaves its owner where it stands. -/
theorem standing_of_emptyBatch {found : Topic} {members : Group} {member : Member} {id : Nat}
    (live : members.member? id = some member) (owned : partition ∈ members.assigned found.count id)
    (nothing : (batchFor found members member limit).1 = []) :
    (members.setCursors id (batchFor found members member limit).2).standing id partition =
      members.standing id partition := by
  rcases filter_batchFor_of_owned live limit owned with
    ⟨stop, remembered, notBefore, inside, stretch⟩
  rw [nothing, List.filter_nil, eq_comm, List.drop_eq_nil_iff, List.length_take] at stretch
  rw [Group.standing_of_remembered? remembered]
  rcases Nat.lt_or_ge (members.standing id partition) stop with moved | still
  · have atMost := inside moved
    omega
  · exact Nat.le_antisymm still notBefore

/-- A poll is refused, or it takes its session to the end of the batch that it hands out. -/
theorem topics_of_poll (reader : Reader) (limit patience : Nat) (before : Broker) :
    (before.step (.ask (.poll reader limit patience))).2.topics = before.topics ∨
      ∃ found member, before.topic? reader.topic = some found ∧
        (found.group reader.group).member? reader.member = some member ∧
        handedBy (before.step (.ask (.poll reader limit patience))).1 =
          (batchFor found (found.group reader.group) member limit).1 ∧
        (before.step (.ask (.poll reader limit patience))).2.topics =
          (before.setTopic reader.topic (found.setGroup reader.group
            ((found.group reader.group).setCursors reader.member
              (batchFor found (found.group reader.group) member limit).2))).topics := by
  have answer : before.step (.ask (.poll reader limit patience)) = before.poll reader limit := rfl
  rw [answer]
  cases live : before.member? reader with
  | none =>
      refine Or.inl ?_
      simp only [poll, live]
  | some member =>
      simp only [poll, live]
      rcases reachingTopic_cases reader.topic _ before with
        ⟨found, exist, served⟩ | ⟨_, left, interrupted⟩
      · rw [served]
        rw [Broker.member?, group_eq_of_topic? exist] at live
        refine Or.inr ⟨found, member, exist, live, ?_, ?_⟩
        · exact handedBy_handedOut limit _
        · rw [← Group.id_of_member? live]
          rfl
      · rw [interrupted]
        exact Or.inl rfl

theorem width_eq_getD (broker : Broker) (name : String) :
    broker.width name =
      (((broker.topic? name).map Topic.log).map fun log => log.1.size).getD 0 := by
  simp only [width]
  cases broker.topic? name with
  | none => rfl
  | some found => rfl

/-- An exchange of the cursors of one session that leaves it where it stands changes nothing that
anyone could tell. -/
theorem Intact.of_setCursors {found : Topic} {cursors : List Cursor}
    (exist : before.topic? reader.topic = some found)
    (topics_eq : after.topics = (before.setTopic reader.topic (found.setGroup reader.group
      ((before.group reader.topic reader.group).setCursors reader.member cursors))).topics)
    (stood : ∀ partition ∈ before.assigned reader,
      ((before.group reader.topic reader.group).setCursors reader.member cursors).standing
          reader.member partition =
        (before.group reader.topic reader.group).standing reader.member partition) :
    before.Intact after := by
  have changed : ∀ topic group, after.group topic group =
      if topic = reader.topic ∧ group = reader.group then
        (before.group reader.topic reader.group).setCursors reader.member cursors
      else before.group topic group := by
    intro topic group
    rw [group_congr topics_eq, group_exchange exist]
  have log_eq : ∀ name,
      (after.topic? name).map Topic.log = (before.topic? name).map Topic.log := by
    intro name
    rw [topic?_congr topics_eq, topic?_setTopic]
    split
    · rename_i same
      rw [same, exist]
      rfl
    · rfl
  have roster_eq : ∀ topic group,
      (after.group topic group).roster = (before.group topic group).roster := by
    intro topic group
    rw [changed]
    split
    · rename_i here
      rw [here.1, here.2, Group.roster_setCursors]
    · rfl
  refine ⟨log_eq, ?_, roster_eq, ?_⟩
  · intro topic group partition
    rw [checkpoint?, changed]
    split
    · rename_i here
      rw [here.1, here.2, Group.checkpoint?_setCursors, checkpoint?]
    · rfl
  · intro other partition
    have owned_eq : after.assigned other = before.assigned other := by
      rw [assigned_eq, assigned_eq, width_eq_getD, log_eq, ← width_eq_getD]
      exact Group.assigned_eq_of_roster (roster_eq _ _) _ _
    apply position_congr owned_eq
    intro owned
    rw [effectivePosition_eq, effectivePosition_eq, changed]
    split
    · rename_i here
      rw [here.1, here.2]
      by_cases same : other.member = reader.member
      · have isReader : other = reader := by
          cases other
          cases reader
          simp_all
        rw [isReader] at owned ⊢
        exact stood partition owned
      · exact Group.standing_setCursors_of_ne same cursors partition
    · rfl

/-- A poll that hands out nothing, whether it is refused or finds nothing, changes nothing that
anyone could tell. -/
theorem intact_of_emptyPoll
    (nothing : handedBy (before.step (.ask (.poll reader limit patience))).1 = []) :
    before.Intact (before.step (.ask (.poll reader limit patience))).2 := by
  rcases topics_of_poll reader limit patience before with
    topics_eq | ⟨found, member, exist, live, handed, topics_eq⟩
  · exact .of_topics_eq topics_eq
  · rw [nothing] at handed
    rw [← group_eq_of_topic? exist] at live handed topics_eq
    apply Intact.of_setCursors exist topics_eq
    intro partition owned
    rw [assigned_eq, width_eq_of_topic? exist] at owned
    exact standing_of_emptyBatch live owned handed.symm

/-- While a poll waits and fails in the end, its rounds and the looks of watches change nothing that
anyone could tell. What has changed when it fails is the doing of the events that befell meanwhile.
-/
theorem intact_of_failedPoll {line : Timeline Broker} {front back : List (Occurrence Broker)}
    {exchange : Exchange} (failed : (line.poll reader limit patience).1 = .error fault)
    (comes : line.Comes (front ++ .request exchange :: back)
      (line.poll reader limit patience).2) :
    let before := front.foldl Occurrence.befall line.log
    before.Intact ((Occurrence.request exchange).befall before) := by
  intro before
  have isMade : Occurrence.request exchange ∈ front ++ .request exchange :: back :=
    List.mem_append_right _ List.mem_cons_self
  rcases Timeline.polls_poll reader limit patience line with
    ⟨others, comesSo, own, handed⟩
  have same := comes.exchanges_eq comesSo
  have among := Occurrence.mem_exchanges.mp (same ▸ Occurrence.mem_exchanges.mpr isMade)
  have answered := (Occurrence.allFit_append.mp comes.allFit).2.1
  rcases exchange with ⟨moment, request, reply⟩
  have isOwn := own _ among
  change reply = (before.serve request).1 at answered
  cases request with
  | poll poller room time =>
      have isReader : poller = reader := by
        simpa [Occurrence.isPollOrAside, Exchange.isPollOf, Occurrence.isAside] using isOwn
      have none := failed ▸ handed
      have nothing := List.flatMap_eq_nil_iff.mp none _ among
      subst isReader
      apply intact_of_emptyPoll
      rw [← nothing, answered]
      rfl
  | offsets name group count =>
      have question :=
        onlyCounts_of_question name (fun topic => topic.offsets name group count) before
      exact .of_topics_eq question.topics_eq
  | _ => simp [Occurrence.isPollOrAside, Exchange.isPollOf, Occurrence.isAside] at isOwn

end Broker

end FrontierBus
