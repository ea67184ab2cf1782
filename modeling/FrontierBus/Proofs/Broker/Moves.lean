import FrontierBus.Proofs.Broker.Views
import FrontierBus.Proofs.Group.Ownership

/-!
# What an action does

An action that is refused leaves topics and member numbers alone. One that is served creates a
topic, extends the partitions of one, or changes one group of one: a member joins, is handed
messages, checks off what it has read, or leaves. The cases are told apart here once, together with
the answers that go with them, so that invariants of runs need not look into the requests again.
-/

namespace FrontierBus.Broker

variable {topic group : String}

/-- What a poll for at most `limit` messages answers when there are these. -/
def handedOut (limit : Nat) (messages : List Message) : Option (List Message) :=
  if messages.isEmpty && limit ≠ 0 then none else some messages

/-- The messages that a member is handed by a poll, and where it stands after it. -/
def batchFor (topic : Topic) (group : Group) (member : Member) (limit : Nat) :
    List Message × List Cursor :=
  topic.takeBatch limit (group.freshCursors topic.count member)

/-- What an action does to the topics, the member numbers and the arrivals of a broker. -/
inductive Effect (before : Broker) : Action → Broker → Prop where
  | nothing {action : Action} {after : Broker} (topics_eq : after.topics = before.topics)
      (nextMember_eq : after.nextMember = before.nextMember)
      (arrivals_eq : after.arrivals = before.arrivals) : Effect before action after
  | created {name : String} {count : Nat} {after : Broker} (absent : before.topic? name = none)
      (topics_eq : after.topics = (before.setTopic name (.create count)).topics)
      (nextMember_eq : after.nextMember = before.nextMember)
      (arrivals_eq : after.arrivals = before.arrivals) :
      Effect before (.createTopic name count) after
  | extended {action : Action} {name : String} {found changed : Topic} {after : Broker}
      (exist : before.topic? name = some found) (grown : found.Extends changed)
      (topics_eq : after.topics = (before.setTopic name changed).topics)
      (nextMember_eq : after.nextMember = before.nextMember)
      (arrived : after.arrivals = before.arrivals + 1) : Effect before action after
  | joined {name groupName : String} {assignment : Assignment} {found : Topic} {after : Broker}
      (exist : before.topic? name = some found)
      (admits : (found.group groupName).Admits found.count assignment)
      (topics_eq : after.topics = (before.setTopic name (found.setGroup groupName
        ((found.group groupName).enlist before.nextMember assignment))).topics)
      (nextMember_eq : after.nextMember = before.nextMember + 1)
      (arrivals_eq : after.arrivals = before.arrivals) :
      Effect before (.ask (.join name groupName assignment)) after
  | polled {reader : Reader} {limit patience : Nat} {found : Topic} {member : Member}
      {after : Broker} (exist : before.topic? reader.topic = some found)
      (live : (found.group reader.group).member? reader.member = some member)
      (answered : (before.step (.ask (.poll reader limit patience))).1 =
        .ok (handedOut limit (batchFor found (found.group reader.group) member limit).1))
      (topics_eq : after.topics = (before.setTopic reader.topic (found.setGroup reader.group
        ((found.group reader.group).setCursors member.id
          (batchFor found (found.group reader.group) member limit).2))).topics)
      (nextMember_eq : after.nextMember = before.nextMember)
      (arrivals_eq : after.arrivals = before.arrivals) :
      Effect before (.ask (.poll reader limit patience)) after
  | committed {reader : Reader} {found : Topic} {after : Broker}
      (exist : before.topic? reader.topic = some found)
      (answered : (before.step (.ask (.commit reader))).1 = .ok ())
      (topics_eq : after.topics = (before.setTopic reader.topic (found.setGroup reader.group
        ((found.group reader.group).commit found.count reader.member))).topics)
      (nextMember_eq : after.nextMember = before.nextMember)
      (arrivals_eq : after.arrivals = before.arrivals) :
      Effect before (.ask (.commit reader)) after
  | left {reader : Reader} {found : Topic} {after : Broker}
      (exist : before.topic? reader.topic = some found)
      (topics_eq : after.topics = (before.setTopic reader.topic (found.setGroup reader.group
        ((found.group reader.group).dismiss reader.member))).topics)
      (nextMember_eq : after.nextMember = before.nextMember)
      (arrivals_eq : after.arrivals = before.arrivals) :
      Effect before (.ask (.leave reader)) after

/-- A broker can be reached as it stands, or a request fails and only the failures that are left
change. -/
theorem interruption_cases (broker : Broker) :
    broker.interruption = (none, broker) ∨
      ∃ fault left, broker.interruption = (some fault, { broker with failuresLeft := left }) := by
  simp only [interruption]
  split
  · exact Or.inr ⟨_, broker.failuresLeft, rfl⟩
  · split
    · exact Or.inl rfl
    · exact Or.inr ⟨_, _, rfl⟩

theorem reaching_cases {Answer : Type} (request : Broker → Except Fault Answer × Broker)
    (broker : Broker) :
    (broker.interruption = (none, broker) ∧ reaching request broker = request broker) ∨
      ∃ fault left,
        reaching request broker = (.error fault, { broker with failuresLeft := left }) := by
  rcases interruption_cases broker with reached | ⟨fault, left, interrupted⟩
  · exact Or.inl ⟨reached, by simp [reaching, reached]⟩
  · exact Or.inr ⟨fault, left, by simp [reaching, interrupted]⟩

theorem reachingTopic_cases {Answer : Type} (name : String)
    (request : Topic → Broker → Except Fault Answer × Broker) (broker : Broker) :
    (∃ found, broker.topic? name = some found ∧
        reachingTopic name request broker = request found broker) ∨
      ∃ fault left,
        reachingTopic name request broker =
          (.error fault, { broker with failuresLeft := left }) := by
  simp only [reachingTopic]
  rcases reaching_cases _ broker with ⟨_, served⟩ | refused
  · cases exist : broker.topic? name with
    | none =>
        refine Or.inr ⟨.unknownTopic name, broker.failuresLeft, ?_⟩
        rw [served, exist]
    | some found =>
        refine Or.inl ⟨found, rfl, ?_⟩
        rw [served, exist]
  · exact Or.inr refused

theorem deliver_cases (name : String) (records : List Record) (broker : Broker) :
    (∃ found, broker.topic? name = some found ∧
        (broker.deliver name records).2 =
          ({ broker with arrivals := broker.arrivals + 1 } : Broker).setTopic name
            (found.appendAll name records).2) ∨
      ∃ left, (broker.deliver name records).2 = { broker with failuresLeft := left } := by
  rcases interruption_cases broker with reached | ⟨fault, left, interrupted⟩
  · cases exist : broker.topic? name with
    | none => exact Or.inr ⟨broker.failuresLeft, by simp [deliver, reached, exist]⟩
    | some found => exact Or.inl ⟨found, rfl, by simp [deliver, reached, exist]⟩
  · exact Or.inr ⟨left, by simp [deliver, interrupted]⟩

/-- Whoever asks to join a group is admitted as the next member, or turned away. -/
theorem join_cases (name groupName : String) (assignment : Assignment) (broker : Broker) :
    (∃ found, broker.topic? name = some found ∧
        (found.group groupName).Admits found.count assignment ∧
        broker.join name groupName assignment = (.ok broker.nextMember,
          ({ broker with nextMember := broker.nextMember + 1 } : Broker).setTopic name
            (found.setGroup groupName
              ((found.group groupName).enlist broker.nextMember assignment)))) ∨
      ∃ fault left, broker.join name groupName assignment =
        (.error fault, { broker with failuresLeft := left }) := by
  simp only [join]
  rcases reachingTopic_cases name _ broker with ⟨found, exist, served⟩ | ⟨fault, left, refused⟩
  · rw [served]
    cases assignment with
    | dynamic => exact Or.inl ⟨found, exist, trivial, rfl⟩
    | static partition =>
        simp only
        split
        · exact Or.inr ⟨_, broker.failuresLeft, rfl⟩
        · split
          · exact Or.inr ⟨_, broker.failuresLeft, rfl⟩
          · rename_i inside isFree
            exact Or.inl ⟨found, exist, ⟨by omega, by simpa using isFree⟩, rfl⟩
  · exact Or.inr ⟨fault, left, refused⟩

namespace Effect

theorem createTopic (name : String) (count : Nat) (broker : Broker) :
    Effect broker (.createTopic name count) (broker.createTopic name count).2 := by
  simp only [Broker.createTopic]
  split
  · exact nothing rfl rfl rfl
  · split
    · exact nothing rfl rfl rfl
    · rename_i absent
      rw [Bool.not_eq_true, Option.isSome_eq_false_iff, Option.isNone_iff_eq_none] at absent
      exact created absent rfl rfl rfl

theorem deliver (action : Action) (name : String) (records : List Record) (broker : Broker) :
    Effect broker action (broker.deliver name records).2 := by
  rcases deliver_cases name records broker with ⟨found, exist, stored⟩ | ⟨left, refused⟩
  · rw [stored]
    exact extended exist (.appendAll name found records) rfl rfl rfl
  · rw [refused]
    exact nothing rfl rfl rfl

/-- A request for a topic that only asks has no effect. -/
theorem ofQuestion {Answer : Type} (action : Action) (name : String)
    (question : Topic → Except Fault Answer) (broker : Broker) :
    Effect broker action
      (reachingTopic name (fun topic broker => (question topic, broker)) broker).2 := by
  rcases reachingTopic_cases name (fun topic broker => (question topic, broker)) broker with
    ⟨found, _, served⟩ | ⟨fault, left, refused⟩
  · rw [served]
    exact nothing rfl rfl rfl
  · rw [refused]
    exact nothing rfl rfl rfl

theorem append (name : String) (records : List Record) (broker : Broker) :
    Effect broker (.append name records) (broker.step (.append name records)).2 := by
  simp only [step, openOn]
  rcases reachingTopic_cases name (fun _ broker => (Except.ok (), broker)) broker with
    ⟨found, _, served⟩ | ⟨fault, left, refused⟩
  · rw [served]
    exact deliver _ name records broker
  · rw [refused]
    exact nothing rfl rfl rfl

theorem join (name groupName : String) (assignment : Assignment) (broker : Broker) :
    Effect broker (.ask (.join name groupName assignment))
      (broker.join name groupName assignment).2 := by
  rcases join_cases name groupName assignment broker with
    ⟨found, exist, admits, admitted⟩ | ⟨fault, left, refused⟩
  · rw [admitted]
    exact joined exist admits rfl rfl rfl
  · rw [refused]
    exact nothing rfl rfl rfl

theorem poll (reader : Reader) (limit patience : Nat) (broker : Broker) :
    Effect broker (.ask (.poll reader limit patience)) (broker.poll reader limit).2 := by
  cases live : broker.member? reader with
  | none =>
      simp only [Broker.poll, live]
      exact nothing rfl rfl rfl
  | some member =>
      have answer : broker.step (.ask (.poll reader limit patience)) =
          broker.poll reader limit := rfl
      simp only [Broker.poll, live] at answer ⊢
      rcases reachingTopic_cases reader.topic _ broker with
        ⟨found, exist, served⟩ | ⟨fault, left, refused⟩
      · rw [served] at answer ⊢
        rw [Broker.member?, group_eq_of_topic? exist] at live
        exact polled exist live (by rw [answer]; rfl) rfl rfl rfl
      · rw [refused]
        exact nothing rfl rfl rfl

theorem commit (reader : Reader) (broker : Broker) :
    Effect broker (.ask (.commit reader)) (broker.commit reader).2 := by
  have answer : broker.step (.ask (.commit reader)) = broker.commit reader := rfl
  simp only [Broker.commit] at answer ⊢
  rcases reaching_cases _ broker with ⟨_, served⟩ | ⟨fault, left, refused⟩
  · rw [served] at answer ⊢
    cases exist : broker.topic? reader.topic with
    | none =>
        simp only [updateGroup, exist]
        exact nothing rfl rfl rfl
    | some found =>
        simp only [updateGroup, exist] at answer ⊢
        exact committed exist (by rw [answer]) rfl rfl rfl
  · rw [refused]
    exact nothing rfl rfl rfl

theorem leave (reader : Reader) (broker : Broker) :
    Effect broker (.ask (.leave reader)) (broker.leave reader) := by
  simp only [Broker.leave, updateGroup]
  cases exist : broker.topic? reader.topic with
  | none => exact nothing rfl rfl rfl
  | some found => exact left exist rfl rfl rfl

theorem ask (request : Request) (broker : Broker) :
    Effect broker (.ask request) (broker.step (.ask request)).2 := by
  cases request with
  | partitionCount name => exact ofQuestion _ name (fun topic => .ok topic.count) broker
  | join name groupName assignment => exact join name groupName assignment broker
  | openProducer name _ => exact ofQuestion _ name (fun _ => .ok ()) broker
  | openProbe name _ => exact ofQuestion _ name (fun _ => .ok ()) broker
  | poll reader limit patience => exact poll reader limit patience broker
  | position reader partition => exact nothing rfl rfl rfl
  | committed reader partition =>
      change Effect broker _ (broker.committed reader partition).2
      simp only [Broker.committed]
      rcases reaching_cases _ broker with ⟨_, served⟩ | ⟨fault, left, refused⟩
      · rw [served]
        exact nothing rfl rfl rfl
      · rw [refused]
        exact nothing rfl rfl rfl
  | commit reader => exact commit reader broker
  | leave reader => exact leave reader broker
  | deliver name records => exact deliver _ name records broker
  | closeProducer _ => exact nothing rfl rfl rfl
  | offsets name groupName count =>
      exact ofQuestion _ name (fun topic => topic.offsets name groupName count) broker

end Effect

/-- Every action has one of these effects. -/
theorem effect_step (action : Action) (before : Broker) :
    Effect before action (before.step action).2 := by
  cases action with
  | createTopic name count => exact .createTopic name count before
  | disconnect => exact .nothing rfl rfl rfl
  | reconnect => exact .nothing rfl rfl rfl
  | failNext count => exact .nothing rfl rfl rfl
  | append name records => exact .append name records before
  | readWatermark name partition => exact .nothing rfl rfl rfl
  | readCheckpoint name groupName partition => exact .nothing rfl rfl rfl
  | countMembers name groupName => exact .nothing rfl rfl rfl
  | ask request => exact .ask request before

theorem topic?_congr {broker other : Broker} (topics_eq : other.topics = broker.topics)
    (name : String) : other.topic? name = broker.topic? name := by
  rw [topic?, topics_eq, topic?]

theorem group_congr {broker other : Broker} (topics_eq : other.topics = broker.topics)
    (topic group : String) : other.group topic group = broker.group topic group := by
  rw [Broker.group, topic?_congr topics_eq, Broker.group]

/-- Exchanging one group on one topic leaves all other groups as they are. -/
theorem group_exchange {broker : Broker} {name : String} {found : Topic}
    (exist : broker.topic? name = some found) (groupName : String) (changed : Group)
    (topic group : String) :
    (broker.setTopic name (found.setGroup groupName changed)).group topic group =
      if topic = name ∧ group = groupName then changed else broker.group topic group := by
  rw [group_setTopic]
  by_cases sameTopic : topic = name
  · subst sameTopic
    rw [if_pos rfl, Topic.group_setGroup, group_eq_of_topic? exist]
    simp
  · simp [sameTopic]

/-- What an action does to one group on one topic. -/
inductive GroupStep (before : Broker) (topic group : String) : Action → Prop where
  | kept {action : Action}
      (changed : (before.step action).2.group topic group = before.group topic group) :
      GroupStep before topic group action
  | joined {assignment : Assignment}
      (admits : (before.group topic group).Admits (before.width topic) assignment)
      (changed : (before.step (.ask (.join topic group assignment))).2.group topic group =
        (before.group topic group).enlist before.nextMember assignment)
      (numbered : (before.step (.ask (.join topic group assignment))).2.nextMember =
        before.nextMember + 1) :
      GroupStep before topic group (.ask (.join topic group assignment))
  | polled {id limit patience : Nat} {found : Topic} {member : Member}
      (exist : before.topic? topic = some found)
      (live : (before.group topic group).member? id = some member)
      (answered : (before.step (.ask (.poll ⟨topic, group, id⟩ limit patience))).1 =
        .ok (handedOut limit (batchFor found (before.group topic group) member limit).1))
      (changed : (before.step (.ask (.poll ⟨topic, group, id⟩ limit patience))).2.group topic
        group = (before.group topic group).setCursors id
          (batchFor found (before.group topic group) member limit).2) :
      GroupStep before topic group (.ask (.poll ⟨topic, group, id⟩ limit patience))
  | committed {id : Nat}
      (answered : (before.step (.ask (.commit ⟨topic, group, id⟩))).1 = .ok ())
      (changed : (before.step (.ask (.commit ⟨topic, group, id⟩))).2.group topic group =
        (before.group topic group).commit (before.width topic) id) :
      GroupStep before topic group (.ask (.commit ⟨topic, group, id⟩))
  | left {id : Nat}
      (changed : (before.step (.ask (.leave ⟨topic, group, id⟩))).2.group topic group =
        (before.group topic group).dismiss id) :
      GroupStep before topic group (.ask (.leave ⟨topic, group, id⟩))

/-- An action that exchanges one group keeps every other. -/
theorem GroupStep.kept_of_exchange {before after : Broker} {action : Action} {name : String}
    {found : Topic} {groupName : String} {changed : Group}
    (stepped : (before.step action).2 = after) (exist : before.topic? name = some found)
    (topics_eq : after.topics = (before.setTopic name (found.setGroup groupName changed)).topics)
    (elsewhere : ¬(topic = name ∧ group = groupName)) : GroupStep before topic group action := by
  apply GroupStep.kept
  rw [stepped, group_congr topics_eq, group_exchange exist, if_neg elsewhere]

theorem groupStep (before : Broker) (action : Action) (topic group : String) :
    GroupStep before topic group action := by
  have effect := effect_step action before
  generalize stepped : (before.step action).2 = after at effect
  cases effect with
  | nothing topics_eq =>
      apply GroupStep.kept
      rw [stepped, group_congr topics_eq]
  | @created name count _ absent topics_eq =>
      apply GroupStep.kept
      rw [stepped, group_congr topics_eq, group_setTopic]
      split
      · rename_i same
        rw [same, group_eq_empty absent, Topic.group_create]
      · rfl
  | @extended _ name _ _ _ exist grown topics_eq =>
      apply GroupStep.kept
      rw [stepped, group_congr topics_eq, group_setTopic]
      split
      · rename_i same
        rw [same, group_eq_of_topic? exist, grown.group_eq]
      · rfl
  | @joined name groupName assignment found _ exist admits topics_eq nextMember_eq =>
      by_cases here : topic = name ∧ group = groupName
      · rcases here with ⟨rfl, rfl⟩
        rw [← group_eq_of_topic? exist] at admits topics_eq
        refine .joined (by rwa [width_eq_of_topic? exist]) ?_ (by rw [stepped, nextMember_eq])
        rw [stepped, group_congr topics_eq, group_exchange exist, if_pos ⟨rfl, rfl⟩]
      · exact .kept_of_exchange stepped exist topics_eq here
  | @polled reader limit patience found member _ exist live answered topics_eq =>
      by_cases here : topic = reader.topic ∧ group = reader.group
      · rcases reader with ⟨readerTopic, readerGroup, id⟩
        rcases here with ⟨rfl, rfl⟩
        simp only [← group_eq_of_topic? exist] at live answered topics_eq
        refine .polled exist live answered ?_
        rw [stepped, group_congr topics_eq, group_exchange exist, if_pos ⟨rfl, rfl⟩,
          Group.id_of_member? live]
      · exact .kept_of_exchange stepped exist topics_eq here
  | @committed reader found _ exist answered topics_eq =>
      by_cases here : topic = reader.topic ∧ group = reader.group
      · rcases reader with ⟨readerTopic, readerGroup, id⟩
        rcases here with ⟨rfl, rfl⟩
        simp only [← group_eq_of_topic? exist, ← width_eq_of_topic? exist] at topics_eq
        refine .committed answered ?_
        rw [stepped, group_congr topics_eq, group_exchange exist, if_pos ⟨rfl, rfl⟩]
      · exact .kept_of_exchange stepped exist topics_eq here
  | @left reader found _ exist topics_eq =>
      by_cases here : topic = reader.topic ∧ group = reader.group
      · rcases reader with ⟨readerTopic, readerGroup, id⟩
        rcases here with ⟨rfl, rfl⟩
        simp only [← group_eq_of_topic? exist] at topics_eq
        refine .left ?_
        rw [stepped, group_congr topics_eq, group_exchange exist, if_pos ⟨rfl, rfl⟩]
      · exact .kept_of_exchange stepped exist topics_eq here

/-- A commit that succeeds checks off what its session has read. -/
theorem group_of_commit {before : Broker} {reader : Reader}
    (answered : (before.step (.ask (.commit reader))).1 = .ok ()) :
    (before.step (.ask (.commit reader))).2.group reader.topic reader.group =
      (before.group reader.topic reader.group).commit (before.width reader.topic)
        reader.member := by
  have answer : before.step (.ask (.commit reader)) = before.commit reader := rfl
  rw [answer, Broker.commit] at answered ⊢
  rcases reaching_cases _ before with ⟨_, served⟩ | ⟨fault, left, refused⟩
  · rw [served]
    cases exist : before.topic? reader.topic with
    | none =>
        simp only [updateGroup, exist, group_eq_empty exist]
        rfl
    | some found =>
        simp only [updateGroup, exist]
        rw [group_exchange exist, if_pos ⟨rfl, rfl⟩, group_eq_of_topic? exist,
          width_eq_of_topic? exist]
  · rw [refused] at answered
    cases answered

end FrontierBus.Broker
