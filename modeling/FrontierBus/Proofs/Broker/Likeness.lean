import FrontierBus.Proofs.Broker.Messages
import FrontierBus.Proofs.Group.Renaming
import FrontierBus.Proofs.Topic.Groups

/-!
# Brokers that are alike

Two brokers are alike for some groups if they have the same records, and if these groups are the same
on both but for the numbers of their members. As long as no request is made to fail, such brokers
answer alike what concerns these groups, or none, and stay alike; what concerns another group may
befall one of them alone.
-/

namespace FrontierBus

/-- The session with another number. -/
def Reader.rename (rename : Nat → Nat) (reader : Reader) : Reader :=
  { reader with member := rename reader.member }

namespace Broker

/-- The brokers have the same records, and the groups that are kept are the same but for the numbers
of their members. -/
structure Alike (kept : String → String → Bool) (rename : Nat → Nat) (broker other : Broker) :
    Prop where
  connected_eq : other.connected = broker.connected
  calm : broker.failuresLeft = 0
  otherCalm : other.failuresLeft = 0
  records_eq : ∀ name, (other.topic? name).map (fun topic => topic.withGroups []) =
    (broker.topic? name).map fun topic => topic.withGroups []
  group_eq : ∀ topic group, kept topic group = true →
    other.group topic group = (broker.group topic group).rename rename

/-- Two results are the same, and the brokers are alike after them. -/
def Matches (kept : String → String → Bool) (rename : Nat → Nat) {Answer : Type}
    (result other : Answer × Broker) : Prop :=
  other.1 = result.1 ∧ Alike kept rename result.2 other.2

variable {kept : String → String → Bool} {rename : Nat → Nat} {broker other : Broker}
  {name topic group : String} {found : Topic} {groups : List (String × Group)}
  {Answer : Type}

theorem interruption_of_calm (calm : broker.failuresLeft = 0) :
    broker.interruption =
      (if broker.connected then none else some (.unavailable .disconnected), broker) := by
  cases connected : broker.connected with
  | false => simp [interruption, connected]
  | true => simp [interruption, connected, calm]

/-- Why a session is not admitted to a group of a topic, if it is not. -/
def Topic.refusal? (name group : String) (topic : Topic) : Assignment → Option Fault
  | .dynamic => none
  | .static partition =>
    if topic.count ≤ partition then
      some (.misconfigured (.partitionOutOfRange partition name topic.count))
    else if (topic.group group).isOwned partition then some (.alreadyOwned name group partition)
    else none

theorem join_eq (free : broker.interruption = (none, broker))
    (exist : broker.topic? name = some found) (group : String) (assignment : Assignment) :
    broker.join name group assignment =
      match found.refusal? name group assignment with
      | some fault => (.error fault, broker)
      | none => (.ok broker.nextMember,
          ({ broker with nextMember := broker.nextMember + 1 } : Broker).setTopic name
            (found.setGroup group ((found.group group).enlist broker.nextMember assignment))) := by
  simp only [join, reachingTopic, reaching, free, exist]
  cases assignment with
  | dynamic => rfl
  | static partition =>
      simp only [Topic.refusal?]
      split
      · rfl
      · split
        · rfl
        · rfl

/-- As long as no request is made to fail, a question changes nothing. -/
theorem question_of_calm (calm : broker.failuresLeft = 0) (name : String)
    (question : Topic → Except Fault Answer) :
    (reachingTopic name (fun topic broker => (question topic, broker)) broker).2 = broker := by
  simp only [reachingTopic, reaching, interruption_of_calm calm]
  cases broker.connected with
  | false => rfl
  | true =>
      simp only [if_true]
      cases broker.topic? name with
      | none => rfl
      | some found => rfl

namespace Alike

/-- A topic is on both brokers, with the same records, or on none. -/
theorem topic?_cases (alike : Alike kept rename broker other) (name : String) :
    (broker.topic? name = none ∧ other.topic? name = none) ∨
      ∃ found groups, broker.topic? name = some found ∧
        other.topic? name = some (found.withGroups groups) := by
  have same := alike.records_eq name
  cases exist : broker.topic? name with
  | none =>
      rw [exist, Option.map_none, Option.map_eq_none_iff] at same
      exact Or.inl ⟨rfl, same⟩
  | some found =>
      rw [exist, Option.map_some, Option.map_eq_some_iff] at same
      rcases same with ⟨counterpart, isThere, sameRecords⟩
      refine Or.inr ⟨found, counterpart.groups, rfl, ?_⟩
      rw [isThere]
      simp only [Topic.withGroups, Topic.mk.injEq] at sameRecords
      rw [Topic.withGroups, ← sameRecords.1, ← sameRecords.2.1]

theorem interruption (alike : Alike kept rename broker other) :
    (broker.interruption = (none, broker) ∧ other.interruption = (none, other)) ∨
      ∃ fault, broker.interruption = (some fault, broker) ∧
        other.interruption = (some fault, other) := by
  rw [interruption_of_calm alike.calm, interruption_of_calm alike.otherCalm, alike.connected_eq]
  cases broker.connected with
  | true => exact Or.inl ⟨rfl, rfl⟩
  | false => exact Or.inr ⟨_, rfl, rfl⟩

/-- A request reaches both brokers, or fails on both and changes nothing. -/
theorem reaching (alike : Alike kept rename broker other)
    {request counterpart : Broker → Except Fault Answer × Broker}
    (served : Matches kept rename (request broker) (counterpart other)) :
    Matches kept rename (Broker.reaching request broker) (Broker.reaching counterpart other) := by
  simp only [Broker.reaching]
  rcases alike.interruption with ⟨free, otherFree⟩ | ⟨fault, down, otherDown⟩
  · rw [free, otherFree]
    exact served
  · rw [down, otherDown]
    exact ⟨rfl, alike⟩

/-- A request for a topic finds it on both brokers, or fails on both and changes nothing. -/
theorem reachingTopic (alike : Alike kept rename broker other)
    {request counterpart : Topic → Broker → Except Fault Answer × Broker}
    (served : ∀ found groups, broker.topic? name = some found →
      other.topic? name = some (found.withGroups groups) →
      Matches kept rename (request found broker) (counterpart (found.withGroups groups) other)) :
    Matches kept rename (Broker.reachingTopic name request broker)
      (Broker.reachingTopic name counterpart other) := by
  apply alike.reaching
  rcases alike.topic?_cases name with ⟨absent, otherAbsent⟩ | ⟨found, groups, exist, otherExist⟩
  · rw [absent, otherAbsent]
    exact ⟨rfl, alike⟩
  · rw [exist, otherExist]
    exact served found groups exist otherExist

/-- A topic is exchanged on both brokers. -/
theorem setTopic (alike : Alike kept rename broker other) (name : String) (changed : Topic)
    (groups : List (String × Group))
    (same : ∀ group, kept name group = true →
      (changed.withGroups groups).group group = (changed.group group).rename rename) :
    Alike kept rename (broker.setTopic name changed)
      (other.setTopic name (changed.withGroups groups)) where
  connected_eq := alike.connected_eq
  calm := alike.calm
  otherCalm := alike.otherCalm
  records_eq := by
    intro topic
    rw [topic?_setTopic, topic?_setTopic]
    split
    · rfl
    · exact alike.records_eq topic
  group_eq := by
    intro topic group isKept
    rw [group_setTopic, group_setTopic]
    split
    · rename_i isName
      exact same group (isName ▸ isKept)
    · exact alike.group_eq topic group isKept

/-- Groups of a topic on both brokers are the same but for the numbers of their members. -/
theorem group_withGroups (alike : Alike kept rename broker other)
    (exist : broker.topic? name = some found)
    (otherExist : other.topic? name = some (found.withGroups groups))
    (isKept : kept name group = true) :
    (found.withGroups groups).group group = (found.group group).rename rename := by
  rw [← group_eq_of_topic? otherExist, ← group_eq_of_topic? exist]
  exact alike.group_eq name group isKept

/-- A group is exchanged on both brokers. -/
theorem setGroup (alike : Alike kept rename broker other)
    (exist : broker.topic? name = some found)
    (otherExist : other.topic? name = some (found.withGroups groups)) (group : String)
    (changed : Group) :
    Alike kept rename (broker.setTopic name (found.setGroup group changed))
      (other.setTopic name ((found.withGroups groups).setGroup group (changed.rename rename))) := by
  apply alike.setTopic name (found.setGroup group changed)
    (Topic.replaceGroup group (changed.rename rename) groups)
  intro someGroup isKept
  change ((found.withGroups groups).setGroup group (changed.rename rename)).group someGroup = _
  rw [Topic.group_setGroup, Topic.group_setGroup]
  split
  · rfl
  · exact alike.group_withGroups exist otherExist isKept

/-- A group that is not kept is exchanged on one broker. -/
theorem setGroup_left (alike : Alike kept rename broker other)
    (exist : broker.topic? name = some found) (notKept : kept name group = false)
    (changed : Group) :
    Alike kept rename (broker.setTopic name (found.setGroup group changed)) other where
  connected_eq := alike.connected_eq
  calm := alike.calm
  otherCalm := alike.otherCalm
  records_eq := by
    intro topic
    rw [alike.records_eq, topic?_setTopic]
    split
    · rename_i isName
      rw [isName, exist]
      rfl
    · rfl
  group_eq := by
    intro topic someGroup isKept
    rw [group_exchange exist, if_neg, alike.group_eq topic someGroup isKept]
    rintro ⟨rfl, rfl⟩
    rw [notKept] at isKept
    cases isKept

theorem reaching_left (alike : Alike kept rename broker other)
    {request : Broker → Except Fault Answer × Broker}
    (served : Alike kept rename (request broker).2 other) :
    Alike kept rename (Broker.reaching request broker).2 other := by
  simp only [Broker.reaching]
  rcases alike.interruption with ⟨free, _⟩ | ⟨fault, down, _⟩
  · rw [free]
    exact served
  · rw [down]
    exact alike

theorem reachingTopic_left (alike : Alike kept rename broker other)
    {request : Topic → Broker → Except Fault Answer × Broker}
    (served : ∀ found, broker.topic? name = some found →
      Alike kept rename (request found broker).2 other) :
    Alike kept rename (Broker.reachingTopic name request broker).2 other := by
  apply alike.reaching_left
  cases exist : broker.topic? name with
  | none => exact alike
  | some found => exact served found exist

theorem createTopic (alike : Alike kept rename broker other) (name : String) (count : Nat) :
    Matches kept rename (broker.createTopic name count) (other.createTopic name count) := by
  simp only [Broker.createTopic]
  split
  · exact ⟨rfl, alike⟩
  · rcases alike.topic?_cases name with ⟨absent, otherAbsent⟩ | ⟨found, groups, exist, otherExist⟩
    · rw [absent, otherAbsent]
      exact ⟨rfl, alike.setTopic name (.create count) [] fun _ _ => rfl⟩
    · rw [exist, otherExist]
      exact ⟨rfl, alike⟩

/-- A question about a topic that is answered alike changes nothing. -/
theorem question (alike : Alike kept rename broker other) (name : String)
    (question : Topic → Except Fault Answer)
    (same : ∀ found groups, broker.topic? name = some found →
      other.topic? name = some (found.withGroups groups) →
      question (found.withGroups groups) = question found) :
    Matches kept rename (Broker.reachingTopic name (fun topic broker => (question topic, broker)) broker)
      (Broker.reachingTopic name (fun topic broker => (question topic, broker)) other) := by
  apply alike.reachingTopic
  intro found groups exist otherExist
  exact ⟨same found groups exist otherExist, alike⟩

theorem deliver (alike : Alike kept rename broker other) (name : String) (records : List Record) :
    Matches kept rename (broker.deliver name records) (other.deliver name records) := by
  simp only [Broker.deliver]
  rcases alike.interruption with ⟨free, otherFree⟩ | ⟨fault, down, otherDown⟩
  · rw [free, otherFree]
    rcases alike.topic?_cases name with ⟨absent, otherAbsent⟩ | ⟨found, groups, exist, otherExist⟩
    · simp only [absent, otherAbsent]
      exact ⟨rfl, alike⟩
    · have reached : Alike kept rename { broker with arrivals := broker.arrivals + 1 }
          { other with arrivals := other.arrivals + 1 } :=
        ⟨alike.connected_eq, alike.calm, alike.otherCalm, alike.records_eq, alike.group_eq⟩
      simp only [exist, otherExist, Topic.appendAll_withGroups]
      refine ⟨rfl, reached.setTopic name _ groups ?_⟩
      intro group isKept
      rw [(Topic.Extends.appendAll name found records).group_eq]
      exact alike.group_withGroups exist otherExist isKept
  · rw [down, otherDown]
    exact ⟨rfl, alike⟩

theorem append (alike : Alike kept rename broker other) (name : String) (records : List Record) :
    Matches kept rename (broker.step (.append name records)) (other.step (.append name records)) := by
  have opened : Matches kept rename (broker.openOn name) (other.openOn name) :=
    alike.question name (fun _ => Except.ok ()) fun _ _ _ _ => rfl
  simp only [step]
  generalize broker.openOn name = result at opened ⊢
  generalize other.openOn name = otherResult at opened ⊢
  rcases result with ⟨answer, after⟩
  rcases otherResult with ⟨otherAnswer, otherAfter⟩
  rcases opened with ⟨same, alikeAfter⟩
  cases same
  cases answer with
  | error fault => exact ⟨rfl, alikeAfter⟩
  | ok _ =>
      have delivered := alikeAfter.deliver name records
      exact ⟨congrArg Except.ok delivered.1, delivered.2⟩

theorem width_eq (alike : Alike kept rename broker other) (name : String) :
    other.width name = broker.width name := by
  rcases alike.topic?_cases name with ⟨absent, otherAbsent⟩ | ⟨found, groups, exist, otherExist⟩
  · simp only [width, absent, otherAbsent]
  · rw [width_eq_of_topic? exist, width_eq_of_topic? otherExist]
    rfl

theorem messages_eq (alike : Alike kept rename broker other) (name : String) (partition : Nat) :
    other.messages name partition = broker.messages name partition := by
  rcases alike.topic?_cases name with ⟨absent, otherAbsent⟩ | ⟨found, groups, exist, otherExist⟩
  · simp only [messages, absent, otherAbsent]
  · rw [messages_eq_of_topic? exist, messages_eq_of_topic? otherExist]
    rfl

theorem checkpoint? (alike : Alike kept rename broker other) (isKept : kept topic group = true)
    (partition : Nat) :
    other.checkpoint? topic group partition = broker.checkpoint? topic group partition := by
  rw [Broker.checkpoint?, alike.group_eq topic group isKept]
  rfl

theorem offsets (alike : Alike kept rename broker other) (isKept : kept name group = true)
    (count : Nat) :
    Matches kept rename (broker.offsets name group count) (other.offsets name group count) := by
  apply alike.question name fun topic => topic.offsets name group count
  intro found groups exist otherExist
  have sameGroup := alike.group_withGroups exist otherExist isKept
  simp only [Topic.offsets, sameGroup]
  rfl

/-- A change of a group that does not depend on the numbers of its members. -/
theorem updateGroup (alike : Alike kept rename broker other) {reader : Reader}
    (isKept : kept reader.topic reader.group = true) {change : Nat → Group → Group}
    {counterpart : Nat → Group → Group} (same : ∀ count group,
      (change count group).rename rename = counterpart count (group.rename rename)) :
    Alike kept rename (broker.updateGroup reader change)
      (other.updateGroup (reader.rename rename) counterpart) := by
  simp only [Broker.updateGroup, Reader.rename]
  rcases alike.topic?_cases reader.topic with
    ⟨absent, otherAbsent⟩ | ⟨found, groups, exist, otherExist⟩
  · simp only [absent, otherAbsent]
    exact alike
  · have sameGroup := alike.group_withGroups exist otherExist isKept
    simp only [exist, otherExist, sameGroup]
    rw [← same]
    exact alike.setGroup exist otherExist reader.group
      (change found.count (found.group reader.group))

theorem highWatermark? (alike : Alike kept rename broker other) (name : String) (partition : Nat) :
    other.highWatermark? name partition = broker.highWatermark? name partition := by
  simp only [Broker.highWatermark?]
  rcases alike.topic?_cases name with ⟨absent, otherAbsent⟩ | ⟨found, groups, exist, otherExist⟩
  · rw [absent, otherAbsent]
  · rw [exist, otherExist]
    rfl

theorem memberCount (alike : Alike kept rename broker other) (isKept : kept topic group = true) :
    other.memberCount topic group = broker.memberCount topic group := by
  rw [Broker.memberCount, alike.group_eq topic group isKept, Group.length_members_rename]
  rfl

section Sessions

variable (injective : Function.Injective rename) {reader : Reader}
  (isKept : kept reader.topic reader.group = true)
include injective isKept

theorem member?_eq (alike : Alike kept rename broker other) :
    other.member? (reader.rename rename) = (broker.member? reader).map (Member.rename rename) := by
  have same := alike.group_eq reader.topic reader.group isKept
  change (other.group reader.topic reader.group).member? (rename reader.member) = _
  rw [same, Group.member?_rename injective]
  rfl

theorem poll (alike : Alike kept rename broker other) (limit : Nat) :
    Matches kept rename (broker.poll reader limit) (other.poll (reader.rename rename) limit) := by
  simp only [Broker.poll, alike.member?_eq injective isKept]
  cases broker.member? reader with
  | none => exact ⟨rfl, alike⟩
  | some member =>
      apply alike.reachingTopic
      intro found groups exist otherExist
      have sameGroup := alike.group_withGroups exist otherExist isKept
      have sameCursors := Group.freshCursors_rename injective (found.group reader.group) found.count
        member
      rw [← sameGroup] at sameCursors
      have sameBatch : batchFor (found.withGroups groups)
          ((found.withGroups groups).group reader.group) (member.rename rename) limit =
            batchFor found (found.group reader.group) member limit := by
        simp only [batchFor]
        rw [Topic.takeBatch_withGroups]
        exact congrArg (found.takeBatch limit) sameCursors
      let cursors := (batchFor found (found.group reader.group) member limit).2
      have fetched : (found.withGroups groups).fetch reader.group (member.rename rename) limit =
          ((batchFor found (found.group reader.group) member limit).1,
            (found.withGroups groups).setGroup reader.group
              (((found.group reader.group).setCursors member.id cursors).rename rename)) := by
        rw [Group.rename_setCursors injective, ← sameGroup]
        simp only [cursors]
        rw [← sameBatch]
        rfl
      have changes := alike.setGroup exist otherExist reader.group
        ((found.group reader.group).setCursors member.id cursors)
      simp only [Reader.rename, fetched]
      exact ⟨rfl, changes⟩

theorem assigned (alike : Alike kept rename broker other) :
    other.assigned (reader.rename rename) = broker.assigned reader := by
  have same := alike.group_eq reader.topic reader.group isKept
  have sameWidth := alike.width_eq reader.topic
  rw [assigned_eq, assigned_eq]
  simp only [Reader.rename, same, sameWidth]
  exact Group.assigned_rename injective _ _ reader.member

theorem position (alike : Alike kept rename broker other) (partition : Nat) :
    other.position (reader.rename rename) partition = broker.position reader partition := by
  have same := alike.group_eq reader.topic reader.group isKept
  have samePosition : other.effectivePosition (reader.rename rename) partition =
      broker.effectivePosition reader partition := by
    simp only [effectivePosition, Reader.rename, same, Group.member?_rename injective]
    cases (broker.group reader.topic reader.group).member? reader.member with
    | none => rfl
    | some member => rfl
  simp only [Broker.position, alike.assigned injective isKept, samePosition]
  rfl

theorem commit (alike : Alike kept rename broker other) :
    Matches kept rename (broker.commit reader) (other.commit (reader.rename rename)) := by
  have updated : Alike kept rename
      (broker.updateGroup reader fun count group => group.commit count reader.member)
      (other.updateGroup (reader.rename rename) fun count group =>
        group.commit count (rename reader.member)) :=
    alike.updateGroup isKept fun count group =>
      Group.rename_commit injective group count reader.member
  apply alike.reaching
  exact ⟨rfl, updated⟩

theorem leave (alike : Alike kept rename broker other) :
    Alike kept rename (broker.leave reader) (other.leave (reader.rename rename)) := by
  apply alike.updateGroup isKept
  intro _ group
  exact Group.rename_dismiss injective group reader.member

end Sessions

theorem committed (alike : Alike kept rename broker other) {reader : Reader}
    (isKept : kept reader.topic reader.group = true) (partition : Nat) :
    Matches kept rename (broker.committed reader partition)
      (other.committed (reader.rename rename) partition) := by
  apply alike.reaching
  exact ⟨congrArg Except.ok (alike.checkpoint? isKept partition), alike⟩

/-- If whoever is admitted has the other number on the other broker, the brokers answer a new session
alike but for its number. -/
theorem join (alike : Alike kept rename broker other) (isKept : kept name group = true)
    (assignment : Assignment)
    (numbered : ∀ id, (broker.join name group assignment).1 = .ok id →
      rename id = other.nextMember) :
    (other.join name group assignment).1 = (broker.join name group assignment).1.map rename ∧
      Alike kept rename (broker.join name group assignment).2
        (other.join name group assignment).2 := by
  rcases alike.interruption with ⟨free, otherFree⟩ | ⟨fault, down, otherDown⟩
  · rcases alike.topic?_cases name with ⟨absent, otherAbsent⟩ | ⟨found, groups, exist, otherExist⟩
    · simp only [Broker.join, Broker.reachingTopic, Broker.reaching, free, otherFree, absent,
        otherAbsent]
      exact ⟨rfl, alike⟩
    · have sameGroup := alike.group_withGroups exist otherExist isKept
      have sameRefusal : (found.withGroups groups).refusal? name group assignment =
          found.refusal? name group assignment := by
        simp only [Topic.refusal?, sameGroup, Group.isOwned_rename]
        rfl
      rw [join_eq free exist] at numbered ⊢
      rw [join_eq otherFree otherExist, sameRefusal]
      cases refused : found.refusal? name group assignment with
      | some fault => exact ⟨rfl, alike⟩
      | none =>
          rw [refused] at numbered
          have isNext := numbered _ rfl
          refine ⟨congrArg Except.ok isNext.symm, ?_⟩
          have counted : Alike kept rename { broker with nextMember := broker.nextMember + 1 }
              { other with nextMember := other.nextMember + 1 } :=
            ⟨alike.connected_eq, alike.calm, alike.otherCalm, alike.records_eq, alike.group_eq⟩
          have enlisted := counted.setGroup exist otherExist group
            ((found.group group).enlist broker.nextMember assignment)
          rw [Group.rename_enlist, isNext, ← sameGroup] at enlisted
          exact enlisted
  · simp only [Broker.join, Broker.reachingTopic, Broker.reaching, down, otherDown]
    exact ⟨rfl, alike⟩

section Others

variable {reader : Reader}

theorem join_left (alike : Alike kept rename broker other) (notKept : kept name group = false)
    (assignment : Assignment) :
    Alike kept rename (broker.join name group assignment).2 other := by
  apply alike.reachingTopic_left
  intro found exist
  have counted : Alike kept rename { broker with nextMember := broker.nextMember + 1 } other :=
    ⟨alike.connected_eq, alike.calm, alike.otherCalm, alike.records_eq, alike.group_eq⟩
  have admitted := counted.setGroup_left exist notKept
    ((found.group group).enlist broker.nextMember assignment)
  cases assignment with
  | dynamic => exact admitted
  | static partition =>
      simp only
      split
      · exact alike
      · split
        · exact alike
        · exact admitted

theorem poll_left (alike : Alike kept rename broker other)
    (notKept : kept reader.topic reader.group = false) (limit : Nat) :
    Alike kept rename (broker.poll reader limit).2 other := by
  simp only [Broker.poll]
  cases broker.member? reader with
  | none => exact alike
  | some member =>
      apply alike.reachingTopic_left
      intro found exist
      exact alike.setGroup_left exist notKept _

theorem updateGroup_left (alike : Alike kept rename broker other)
    (notKept : kept reader.topic reader.group = false) (change : Nat → Group → Group) :
    Alike kept rename (broker.updateGroup reader change) other := by
  simp only [Broker.updateGroup]
  cases exist : broker.topic? reader.topic with
  | none => exact alike
  | some found => exact alike.setGroup_left exist notKept _

end Others

end Alike

end Broker

end FrontierBus
