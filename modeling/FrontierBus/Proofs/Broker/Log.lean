import FrontierBus.Proofs.Broker.Arrivals
import FrontierBus.Proofs.Broker.Bounds
import FrontierBus.Proofs.Broker.Checkpoints

/-!
# The log

Each partition of a broker only grows, and only deliveries to its topic make it grow. Whatever a poll
hands out is the message that is stored at its place, and it stays there, so no two polls can tell
different things of one place.
-/

namespace FrontierBus.Broker

/-- The topic that records are delivered to, if the action is a delivery. -/
def Action.deliveredTo? : Action → Option String
  | .append topic _ => some topic
  | .ask (.deliver topic _) => some topic
  | _ => none

variable {before broker : Broker} {actions : List Action} {action : Action} {topic group : String}
  {partition id limit : Nat} {message : Message} {reader : Reader}

section Growth

theorem arrivals_question {Answer : Type} (name : String)
    (question : Topic → Except Fault Answer) (broker : Broker) :
    (reachingTopic name (fun topic broker => (question topic, broker)) broker).2.arrivals =
      broker.arrivals := by
  rcases reachingTopic_cases name (fun topic broker => (question topic, broker)) broker with
    ⟨found, _, served⟩ | ⟨fault, left, refused⟩
  · rw [served]
  · rw [refused]

theorem arrivals_updateGroup (broker : Broker) (reader : Reader) (change : Nat → Group → Group) :
    (broker.updateGroup reader change).arrivals = broker.arrivals := by
  simp only [updateGroup]
  split
  · rfl
  · rfl

theorem arrivals_ask_of_no_delivery {request : Request}
    (noDelivery : (Action.ask request).deliveredTo? = none) (broker : Broker) :
    (broker.step (.ask request)).2.arrivals = broker.arrivals := by
  cases request with
  | partitionCount name => exact arrivals_question name (fun topic => .ok topic.count) broker
  | join name groupName assignment =>
      change (broker.join name groupName assignment).2.arrivals = _
      rcases join_cases name groupName assignment broker with
        ⟨found, _, _, admitted⟩ | ⟨fault, left, refused⟩
      · rw [admitted]
        rfl
      · rw [refused]
  | openProducer name _ => exact arrivals_question name (fun _ => .ok ()) broker
  | openProbe name _ => exact arrivals_question name (fun _ => .ok ()) broker
  | poll reader limit _ => exact arrivals_poll reader limit broker
  | position => rfl
  | committed reader partition =>
      change (broker.committed reader partition).2.arrivals = _
      simp only [Broker.committed]
      rcases reaching_cases _ broker with ⟨_, served⟩ | ⟨fault, left, refused⟩
      · rw [served]
      · rw [refused]
  | commit reader =>
      change (broker.commit reader).2.arrivals = _
      simp only [Broker.commit]
      rcases reaching_cases _ broker with ⟨_, served⟩ | ⟨fault, left, refused⟩
      · rw [served]
        exact arrivals_updateGroup broker reader _
      · rw [refused]
  | leave reader => exact arrivals_updateGroup broker reader _
  | deliver => cases noDelivery
  | closeProducer => rfl
  | offsets name groupName count =>
      exact arrivals_question name (fun topic => topic.offsets name groupName count) broker

theorem arrivals_of_no_delivery (noDelivery : action.deliveredTo? = none) (broker : Broker) :
    (broker.step action).2.arrivals = broker.arrivals := by
  cases action with
  | createTopic name count =>
      simp only [step, createTopic]
      split
      · rfl
      · split
        · rfl
        · rfl
  | append => cases noDelivery
  | ask request => exact arrivals_ask_of_no_delivery noDelivery broker
  | _ => rfl

theorem messages_deliver_of_ne {name : String} (elsewhere : name ≠ topic) (records : List Record)
    (broker : Broker) (partition : Nat) :
    (broker.deliver name records).2.messages topic partition = broker.messages topic partition := by
  rcases deliver_cases name records broker with ⟨found, _, stored⟩ | ⟨left, refused⟩
  · rw [stored, messages_of_setTopic rfl, if_neg elsewhere.symm]
    rfl
  · rw [refused]
    rfl

/-- What is no delivery to a topic leaves its messages as they are. -/
theorem messages_step_of_elsewhere (elsewhere : action.deliveredTo? ≠ some topic)
    (broker : Broker) (partition : Nat) :
    (broker.step action).2.messages topic partition = broker.messages topic partition := by
  cases target : action.deliveredTo? with
  | none => exact messages_step_eq (arrivals_of_no_delivery target broker) topic partition
  | some name =>
      have other : name ≠ topic := by
        rintro rfl
        exact elsewhere target
      cases action with
      | append delivered records =>
          cases target
          simp only [step, openOn]
          rcases reachingTopic_cases name (fun _ broker => (Except.ok (), broker)) broker with
            ⟨found, _, served⟩ | ⟨fault, left, refused⟩
          · rw [served]
            exact messages_deliver_of_ne other records broker partition
          · rw [refused]
            rfl
      | ask request =>
          cases request with
          | deliver delivered records =>
              cases target
              exact messages_deliver_of_ne other records broker partition
          | _ => cases target
      | _ => cases target

/-- The end of a partition never moves back. -/
theorem highWatermark?_step {mark : Nat}
    (ends : before.highWatermark? topic partition = some mark) (action : Action) :
    ∃ later, (before.step action).2.highWatermark? topic partition = some later ∧ mark ≤ later := by
  have inside : before.Inside topic partition mark := ⟨mark, ends, Nat.le_refl mark⟩
  exact inside.step action

end Growth

section Polls

/-- A message is stored at the place that it names. -/
theorem messageAt?_of_mem_messages (present : message ∈ broker.messages topic partition) :
    broker.messageAt? topic message.partition message.offset = some message := by
  cases exist : broker.topic? topic with
  | none => simp [messages, exist] at present
  | some found =>
      rw [messages_eq_of_topic? exist] at present
      rcases List.mem_iff_getElem?.mp present with ⟨offset, stored⟩
      have numbered := congrArg (·[offset]?) (found.map_offset_messages partition)
      have inside := (List.getElem?_eq_some_iff.mp stored).1
      simp only [List.getElem?_map, stored, Option.map_some, List.getElem?_range inside,
        Option.some.injEq] at numbered
      rw [messageAt?_eq_of_topic? exist, Topic.partition_of_mem_messages present, numbered,
        ← Topic.getElem?_messages]
      exact stored

/-- A batch consists of messages of the topic. -/
theorem mem_messages_of_mem_batchFor {found : Topic} {members : Group} {member : Member}
    (live : members.member? id = some member)
    (among : message ∈ (batchFor found members member limit).1) :
    message ∈ found.messages message.partition := by
  have present : message ∈ (batchFor found members member limit).1.filter
      fun other => other.partition = message.partition := by
    rw [List.mem_filter]
    exact ⟨among, by simp⟩
  by_cases owned : message.partition ∈ members.assigned found.count id
  · rcases filter_batchFor_of_owned live limit owned with ⟨stop, _, _, _, stretch⟩
    rw [stretch] at present
    exact List.mem_of_mem_take (List.mem_of_mem_drop present)
  · rw [filter_batchFor_of_not_owned live limit owned] at present
    cases present

/-- A poll hands out what is stored. -/
theorem messageAt?_of_poll {patience : Nat} {messages : List Message}
    (answered : (before.step (.ask (.poll reader limit patience))).1 = .ok (some messages))
    (among : message ∈ messages) :
    before.messageAt? reader.topic message.partition message.offset = some message := by
  rcases poll_cases reader limit patience before with
    ⟨fault, failed, _⟩ | ⟨found, member, exist, live, handsOut, _⟩
  · rw [failed] at answered
    cases answered
  · rw [handsOut, Except.ok.injEq, handedOut] at answered
    split at answered
    · cases answered
    · cases answered
      have stored := mem_messages_of_mem_batchFor live among
      rw [← messages_eq_of_topic? exist] at stored
      exact messageAt?_of_mem_messages stored

theorem messageAt?_of_handed (handed : Handed reader message actions) :
    (empty.run actions).messageAt? reader.topic message.partition message.offset =
      some message := by
  induction handed with
  | now answered among =>
      rw [run_concat]
      exact messageAt?_step (messageAt?_of_poll answered among) _
  | later _ hypothesis =>
      rw [run_concat]
      exact messageAt?_step hypothesis _

theorem Handed.append (handed : Handed reader message actions) (more : List Action) :
    Handed reader message (actions ++ more) := by
  induction more using List.reverseRecOn with
  | nil => rwa [List.append_nil]
  | append_singleton more action hypothesis =>
      rw [← List.append_assoc]
      exact .later hypothesis

/-- A request that hands out a message of a session is a poll of it that was answered with the
message. -/
theorem exists_poll_of_mem_messages {exchange : Exchange}
    (own : (Occurrence.request exchange : Occurrence Broker).isPollOrAside reader = true)
    (handed : message ∈ exchange.messages) :
    ∃ moment limit patience messages, ∃ reply : Reply (.poll reader limit patience),
      exchange = ⟨moment, .poll reader limit patience, reply⟩ ∧
        reply.answer = .ok (some messages) ∧ message ∈ messages := by
  rcases exchange with ⟨moment, request, reply⟩
  cases request with
  | poll poller limit patience =>
      have same : poller = reader := by
        simpa [Occurrence.isPollOrAside, Exchange.isPollOf, Occurrence.isAside] using own
      subst same
      simp only [Exchange.messages] at handed
      cases answered : reply.answer with
      | error fault =>
          rw [answered] at handed
          cases handed
      | ok found =>
          cases found with
          | none =>
              rw [answered] at handed
              cases handed
          | some messages =>
              rw [answered] at handed
              exact ⟨moment, limit, patience, messages, reply, rfl, answered, handed⟩
  | _ => cases handed

/-- What a pull returns, a poll of its session among all that comes to pass was answered with. -/
theorem exists_poll_of_pull {consumer : Consumer} {patience : Nat} {line : Timeline Broker}
    {occurred : List (Occurrence Broker)}
    (comes : line.Comes occurred (consumer.pull limit patience line).2)
    (returned : message ∈ (consumer.pull limit patience line).1.toOption.getD []) :
    ∃ front exchange back limit patience messages,
      occurred = front ++ .request exchange :: back ∧
        exchange.request = .poll consumer.reader limit patience ∧
        ((front.foldl Occurrence.befall line.log).step
          (.ask (.poll consumer.reader limit patience))).1 = .ok (some messages) ∧
        message ∈ messages := by
  rcases Consumer.of_comes_pull comes with ⟨own, handsOut⟩
  rw [← handsOut, List.mem_flatMap] at returned
  rcases returned with ⟨occurrence, happens, handed⟩
  cases occurrence with
  | event _ => cases handed
  | request exchange =>
      rcases exists_poll_of_mem_messages (own _ happens) handed with
        ⟨moment, limit, patience, messages, reply, rfl, answered, among⟩
      rcases List.append_of_mem happens with ⟨front, back, rfl⟩
      have fit : reply = _ := (Occurrence.allFit_append.mp comes.allFit).2.1
      refine ⟨front, _, back, limit, patience, messages, rfl, rfl, ?_, among⟩
      rw [← answered, fit]
      rfl

/-- What a poll that waits returns was handed to its session by one of its looks. -/
theorem handed_of_poll {patience : Nat} {line : Timeline Broker}
    {occurred : List (Occurrence Broker)} (present : line.log = empty.run actions)
    (comes : line.Comes occurred (line.poll reader limit patience).2)
    (returned : message ∈ (line.poll reader limit patience).1.toOption.getD []) :
    Handed reader message (actions ++ occurred.map actionOf) := by
  have pulled : line.Comes occurred ((⟨reader, false⟩ : Consumer).pull limit patience line).2 :=
    comes
  rcases exists_poll_of_pull pulled returned with
    ⟨front, exchange, back, limit, patience, messages, rfl, isPoll, served, among⟩
  rw [present, ← run_occurred] at served
  have asks : actionOf (.request exchange) = .ask (.poll reader limit patience) :=
    congrArg Action.ask isPoll
  rw [List.map_append, List.map_cons, asks, ← List.append_assoc, ← List.singleton_append,
    ← List.append_assoc]
  exact (Handed.now served among).append _

/-- What a pull returns is stored in the topic of its session when the pull ends. -/
theorem messageAt?_of_pull {consumer : Consumer} {patience : Nat} {line : Timeline Broker}
    {occurred : List (Occurrence Broker)}
    (comes : line.Comes occurred (consumer.pull limit patience line).2)
    (returned : message ∈ (consumer.pull limit patience line).1.toOption.getD []) :
    (consumer.pull limit patience line).2.log.messageAt? consumer.reader.topic
      message.partition message.offset = some message := by
  rcases exists_poll_of_pull comes returned with
    ⟨front, exchange, back, limit, patience, messages, rfl, _, served, among⟩
  have stays : Lasting fun broker => broker.messageAt? consumer.reader.topic message.partition
      message.offset = some message := fun _ action stored => messageAt?_step stored action
  rw [comes.log_eq, List.foldl_append, foldl_befall _ (.request exchange :: back)]
  exact stays.run (messageAt?_of_poll served among) _

end Polls

/-- A step of a broker only adds messages at the ends of partitions, and it does so only if it is a
delivery to their topic; no topic gets fewer partitions and no partition a nearer end. Whatever a
session is handed, by a poll or in the end of a poll that waits, is the message that is stored at its
place, then and ever after, so two sessions are told the same of one place. -/
theorem stored_of_handed (actions : List Action) :
    let broker := empty.run actions
    (∀ action topic partition,
      let after := (broker.step action).2
      broker.messages topic partition <+: after.messages topic partition ∧
        (after.messages topic partition ≠ broker.messages topic partition →
          action.deliveredTo? = some topic) ∧
        broker.width topic ≤ after.width topic ∧
        ∀ mark, broker.highWatermark? topic partition = some mark →
          ∃ later, after.highWatermark? topic partition = some later ∧ mark ≤ later) ∧
      (∀ reader limit patience (line : Timeline Broker) occurred, line.log = broker →
        line.Comes occurred (line.poll reader limit patience).2 →
          ∀ message ∈ (line.poll reader limit patience).1.toOption.getD [],
            Handed reader message (actions ++ occurred.map actionOf)) ∧
      ∀ reader message, Handed reader message actions →
        (∀ more, (empty.run (actions ++ more)).messageAt? reader.topic message.partition
          message.offset = some message) ∧
        ∀ other found, Handed other found actions → other.topic = reader.topic →
          found.partition = message.partition → found.offset = message.offset →
            found = message := by
  intro broker
  refine ⟨?_, ?_, ?_⟩
  · intro action topic partition after
    refine ⟨messages_step broker action topic partition, ?_, width_le_step broker action topic, ?_⟩
    · intro grown
      by_contra elsewhere
      exact grown (messages_step_of_elsewhere elsewhere broker partition)
    · intro mark ends
      exact highWatermark?_step ends action
  · intro reader limit patience line occurred present comes message returned
    exact handed_of_poll present comes returned
  · intro reader message handed
    refine ⟨fun more => messageAt?_of_handed (handed.append more), ?_⟩
    intro other found otherHanded sameTopic samePartition sameOffset
    have stored := messageAt?_of_handed handed
    have otherStored := messageAt?_of_handed otherHanded
    rw [sameTopic, samePartition, sameOffset, stored, Option.some.injEq] at otherStored
    exact otherStored.symm

/-- Two groups are handed the first record of a topic, one of them twice. -/
def readByTwo : List Action :=
  [.createTopic "t" 1, .append "t" [⟨some 0, none, ⟨#[97]⟩⟩], .ask (.join "t" "g" .dynamic),
    .ask (.join "t" "h" .dynamic), .ask (.poll ⟨"t", "g", 0⟩ 1 0), .ask (.poll ⟨"t", "h", 1⟩ 1 0)]

theorem stored_of_readByTwo :
    let first : Message := ⟨0, 0, none, ⟨#[97]⟩⟩
    let more : Action := .append "t" [⟨none, none, ⟨#[98]⟩⟩]
    let line : Timeline Broker := .start (empty.run (readByTwo ++ [more]))
    more.deliveredTo? = some "t" ∧
      (∃ later, ((empty.run readByTwo).step more).2.highWatermark? "t" 0 = some later ∧ 1 ≤ later) ∧
      Handed ⟨"t", "g", 0⟩ first readByTwo ∧ Handed ⟨"t", "h", 1⟩ first readByTwo ∧
      (empty.run (readByTwo ++ [more])).messageAt? "t" 0 0 = some first ∧
      (∀ found, Handed ⟨"t", "h", 1⟩ found readByTwo → found.partition = 0 → found.offset = 0 →
        found = first) ∧
      ∃ occurred, line.Comes occurred (line.poll ⟨"t", "g", 0⟩ 1 0).2 ∧
        Handed ⟨"t", "g", 0⟩ ⟨0, 1, none, ⟨#[98]⟩⟩ (readByTwo ++ [more] ++ occurred.map actionOf) := by
  intro first more line
  have answered : ((empty.run (readByTwo.take 4)).step (.ask (.poll ⟨"t", "g", 0⟩ 1 0))).1 =
      .ok (some [first]) := by
    decide +kernel
  have otherAnswered : ((empty.run (readByTwo.take 5)).step (.ask (.poll ⟨"t", "h", 1⟩ 1 0))).1 =
      .ok (some [first]) := by
    decide +kernel
  have own : Handed ⟨"t", "g", 0⟩ first readByTwo := .later (.now answered List.mem_cons_self)
  have other : Handed ⟨"t", "h", 1⟩ first readByTwo := .now otherAnswered List.mem_cons_self
  rcases stored_of_handed readByTwo with ⟨steps, _, polls⟩
  rcases steps more "t" 0 with ⟨_, delivers, _, ends⟩
  rcases polls ⟨"t", "g", 0⟩ first own with ⟨stays, same⟩
  rcases Timeline.polls_pollUntil ⟨"t", "g", 0⟩ 1 0 0 line with ⟨occurred, comes, _⟩
  have waits := (stored_of_handed (readByTwo ++ [more])).2.1 ⟨"t", "g", 0⟩ 1 0 line occurred rfl
    comes
  refine ⟨delivers (by decide +kernel), ends 1 (by decide +kernel), own, other, stays [more], ?_,
    occurred, comes, waits _ ?_⟩
  · intro found handed inPartition atOffset
    exact same ⟨"t", "h", 1⟩ found handed rfl inPartition atOffset
  · decide +kernel

end FrontierBus.Broker
