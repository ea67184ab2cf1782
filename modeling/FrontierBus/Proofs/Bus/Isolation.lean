import FrontierBus.Proofs.Broker.Log
import FrontierBus.Proofs.Bus.Sending
import FrontierBus.Proofs.Consumer.Lifetime

/-!
# Streams and roles apart

The settings of a bus name a topic for each stream and a group for each role in which a stream is
read. Their check makes sure that the two roles that read the log have two groups, and of nothing else
that two names differ. As far as the topics of two streams differ, what is sent to one is not read from
the other, and nothing that the readers of one do touches the groups of the other.
-/

namespace FrontierBus

open Broker

/-- Those who read a stream in a role. -/
inductive Audience where
  | fetchers
  | writers
  | strategists
  | scoring
  | stats
  deriving Repr, DecidableEq

namespace Audience

/-- The stream that is read. -/
def stream : Audience → Stream
  | fetchers => .feed
  | writers | strategists => .log
  | scoring => .scoring
  | stats => .stats

/-- The role in which it is read. Only the log makes a difference between roles. -/
def role : Audience → Role
  | strategists => .strategy
  | _ => .writer

/-- The topic that is read, and the group that reads it. -/
def place (settings : Settings) (audience : Audience) : String × String :=
  (audience.stream.topic settings, audience.stream.group audience.role settings)

end Audience

theorem Settings.groups_ne_of_check {settings : Settings} {isFile : String → Bool}
    (valid : settings.check isFile = .ok ()) :
    settings.logWriterGroup ≠ settings.logStrategyGroup := by
  intro same
  simp only [Settings.check] at valid
  split at valid
  · cases valid
  · rw [if_pos same] at valid
    cases valid

/-- Two roles share a topic and a group only if they read different streams that have one topic. -/
theorem Bus.topic_eq_of_place_eq (bus : Bus) {audience other : Audience}
    (differ : audience ≠ other)
    (shared : audience.place bus.settings = other.place bus.settings) :
    audience.stream ≠ other.stream ∧
      audience.stream.topic bus.settings = other.stream.topic bus.settings := by
  rcases bus.valid with ⟨isFile, valid⟩
  have groups := Settings.groups_ne_of_check valid
  rw [Audience.place, Audience.place, Prod.mk.injEq] at shared
  refine ⟨?_, shared.1⟩
  intro sameStream
  cases audience with
  | _ => cases other with
    | _ => simp_all [Audience.stream, Audience.role, Stream.group]

/-- Whatever an operation that needs a layout answers with, it answers behind a check. -/
theorem Bus.of_withLayout_ok {Log : Type} [Transport Log] {bus : Bus} {stream : Stream}
    {Answer : Type} {value : Answer}
    {operation : Nat → Timeline Log → Except Fault Answer × Timeline Log} {line : Timeline Log}
    (answered : (bus.withLayout stream operation line).1 = .ok value) :
    ∃ count between, (operation count between).1 = .ok value := by
  rcases bus.withLayout_cases stream operation line with
    ⟨_, between, _, ⟨fault, _, refused⟩ | ⟨count, _, goesOn⟩⟩
  · rw [refused] at answered
    cases answered
  · rw [goesOn] at answered
    exact ⟨count, between, answered⟩

/-- A consumer that a bus opens reads the topic of its stream for the group of its role. -/
theorem Bus.consumer_eq {Log : Type} [Transport Log] {bus : Bus} {stream : Stream} {role : Role}
    {partition : Option Nat} {line : Timeline Log} {consumer : Consumer}
    (opens : (bus.consumer stream role partition line).1 = .ok consumer) :
    ∃ member, consumer =
      ⟨⟨stream.topic bus.settings, stream.group role bus.settings, member⟩, false⟩ := by
  rcases Bus.of_withLayout_ok opens with ⟨count, between, joins⟩
  simp only at joins
  generalize bus.insist _ between = asked at joins
  rcases asked with ⟨answer, ended⟩
  cases answer with
  | error fault =>
      split at joins
      · cases joins
      · split at joins
        · cases joins
        · cases joins
  | ok member =>
      refine ⟨member, ?_⟩
      split at joins
      · cases joins
        rfl
      · split at joins
        · cases joins
        · cases joins
          rfl

namespace Broker

variable {topic group : String} {before : Broker} {action : Action}

/-- Nothing changes for a group on a topic: neither its checkpoints nor what its members own. -/
structure Undisturbed (topic group : String) (before after : Broker) : Prop where
  checkpoint?_eq : ∀ partition,
    after.checkpoint? topic group partition = before.checkpoint? topic group partition
  assigned_eq : ∀ member,
    after.assigned ⟨topic, group, member⟩ = before.assigned ⟨topic, group, member⟩

/-- An action that leaves a group as it is does not disturb it. -/
theorem undisturbed_of_group_eq
    (same : (before.step action).2.group topic group = before.group topic group) :
    Undisturbed topic group before (before.step action).2 where
  checkpoint?_eq partition := by rw [checkpoint?, checkpoint?, same]
  assigned_eq member := by
    rw [assigned_eq, assigned_eq]
    simp only [same]
    cases exist : before.topic? topic with
    | none =>
        rw [group_eq_empty exist]
        rfl
    | some found =>
        rcases topic?_step exist action with ⟨later, stillExist, keeps⟩
        rw [width_eq_of_topic? exist, width_eq_of_topic? stillExist, keeps.count_eq]

/-- The commit of a session, its end, and looks disturb no group but its own. -/
theorem undisturbed_of_closing {reader : Reader} {request : Request}
    (closing : request = .commit reader ∨ request = .leave reader ∨
      ∃ name groupName count, request = .offsets name groupName count)
    (elsewhere : (reader.topic, reader.group) ≠ (topic, group)) :
    Undisturbed topic group before (before.step (.ask request)).2 := by
  apply undisturbed_of_group_eq
  have stepped := groupStep before (.ask request) topic group
  generalize isAction : Action.ask request = action at stepped ⊢
  cases stepped with
  | kept changed => exact changed
  | joined =>
      cases isAction
      simp at closing
  | polled =>
      cases isAction
      simp at closing
  | committed =>
      cases isAction
      rcases closing with isCommit | isLeave | ⟨_, _, _, isLook⟩
      · cases isCommit
        exact absurd rfl elsewhere
      · cases isLeave
      · cases isLook
  | left =>
      cases isAction
      rcases closing with isCommit | isLeave | ⟨_, _, _, isLook⟩
      · cases isCommit
      · cases isLeave
        exact absurd rfl elsewhere
      · cases isLook

/-- Where nothing is delivered to a topic, nothing of it is delivered. -/
theorem delivered_eq_nil {partition : Nat} {broker : Broker} {journal : List (Occurrence Broker)}
    (elsewhere : ∀ occurrence ∈ journal, occurrence.isDelivery = true →
      (actionOf occurrence).deliveredTo? ≠ some topic) :
    broker.delivered topic partition journal = [] := by
  induction journal generalizing broker with
  | nil => rfl
  | cons occurrence journal hypothesis =>
      rw [List.forall_mem_cons] at elsewhere
      simp only [delivered]
      rw [hypothesis elsewhere.2, List.append_nil]
      split
      · rename_i isDelivery
        rw [befall_eq, messages_step_of_elsewhere (elsewhere.1 isDelivery), List.drop_length]
      · rfl

end Broker

/-- While an open consumer closes it commits and ends its session; else there are only looks. -/
theorem Consumer.closing_of_comes {Log : Type} [Transport Log] {consumer : Consumer}
    {line : Timeline Log} {occurred : List (Occurrence Log)} {exchange : Exchange}
    (isOpen : consumer.closed = false) (comes : line.Comes occurred (consumer.close line).2.2)
    (isMade : .request exchange ∈ occurred) :
    exchange.request = .commit consumer.reader ∨ exchange.request = .leave consumer.reader ∨
      ∃ name group count, exchange.request = .offsets name group count := by
  have asked := (Consumer.asks_close isOpen line).2.asked_eq
  rw [Timeline.asked, comes.makes.since_eq] at asked
  rcases exchange.asked?_cases with own | ⟨_, look⟩
  · have among := List.mem_filterMap.mpr ⟨exchange, Occurrence.mem_exchanges.mpr isMade, own⟩
    rw [asked] at among
    rcases List.mem_cons.mp among with isCommit | rest
    · exact .inl isCommit
    · exact .inr (.inl (List.mem_singleton.mp rest))
  · exact .inr (.inr look)

section Messages

variable {bus : Bus} {stream : Stream} {start : Broker} {journal occurred : List (Occurrence Broker)}
  {accepted : List Record} {producer : StreamProducer} {topic : String}

/-- A producer delivers nothing to another topic than that of its stream. -/
theorem deliveredTo?_of_sent (sent : Sent bus stream start journal accepted producer)
    (elsewhere : stream.topic bus.settings ≠ topic) {occurrence : Occurrence Broker}
    (happens : occurrence ∈ journal) (isDelivery : occurrence.isDelivery = true) :
    (actionOf occurrence).deliveredTo? ≠ some topic := by
  rcases sends_of_sent sent with ⟨count, sends⟩
  cases occurrence with
  | event _ => cases isDelivery
  | request exchange =>
      have suits := sends.suited exchange (Occurrence.mem_exchanges.mpr happens)
      rcases exchange with ⟨moment, request, reply⟩
      cases request with
      | deliver name records =>
          intro isTopic
          exact elsewhere (suits.1.symm.trans (Option.some.inj isTopic))
      | _ => cases isDelivery

/-- A pull delivers nothing. -/
theorem not_isDelivery_of_pull {consumer : Consumer} {limit patience : Nat}
    {line : Timeline Broker} (comes : line.Comes occurred (consumer.pull limit patience line).2)
    {occurrence : Occurrence Broker} (happens : occurrence ∈ occurred) :
    occurrence.isDelivery = false := by
  have own := (Consumer.of_comes_pull comes).1 occurrence happens
  cases occurrence with
  | event _ => rfl
  | request exchange =>
      rcases exchange with ⟨moment, request, reply⟩
      cases request with
      | deliver => simp [Occurrence.isPollOrAside, Exchange.isPollOf, Occurrence.isAside] at own
      | _ => rfl

end Messages

/-- Whatever a bus does on a broker, in which order and with whatever happens in between: what a
consumer of a stream returns is stored in the topic of the stream, and if the producer of another
stream has another topic, it is nothing that the producer has put there. Two roles share a topic and a
group only if they read different streams with one topic. If they do not share both, a consumer of the
one that closes disturbs none of the groups of the other. -/
theorem Bus.isolated_of_topic_ne (bus : Bus) :
    (∀ (stream : Stream) (start : Broker) (journal occurred : List (Occurrence Broker))
        (accepted : List Record) (producer : StreamProducer) (audience : Audience)
        (partition : Option Nat) (begun line : Timeline Broker) (consumer : Consumer)
        (limit patience : Nat),
      Sent bus stream start journal accepted producer →
      (bus.consumer audience.stream audience.role partition begun).1 = .ok consumer →
      line.log = journal.foldl Occurrence.befall start →
      line.Comes occurred (consumer.pull limit patience line).2 →
        let topic := audience.stream.topic bus.settings
        ∀ message ∈ (consumer.pull limit patience line).1.toOption.getD [],
          (consumer.pull limit patience line).2.log.messageAt? topic message.partition
            message.offset = some message ∧
          (stream.topic bus.settings ≠ topic →
            message ∉ start.delivered topic message.partition (journal ++ occurred))) ∧
    (∀ audience other : Audience, audience ≠ other →
      audience.place bus.settings = other.place bus.settings →
        audience.stream ≠ other.stream ∧
          audience.stream.topic bus.settings = other.stream.topic bus.settings) ∧
    ∀ (audience other : Audience) (partition : Option Nat) (begun line : Timeline Broker)
        (consumer : Consumer) (front back : List (Occurrence Broker)) (exchange : Exchange),
      audience.place bus.settings ≠ other.place bus.settings →
      (bus.consumer audience.stream audience.role partition begun).1 = .ok consumer →
      line.Comes (front ++ .request exchange :: back) (consumer.close line).2.2 →
        let before := front.foldl Occurrence.befall line.log
        before.Undisturbed (other.place bus.settings).1 (other.place bus.settings).2
          ((Occurrence.request exchange).befall before) := by
  refine ⟨?_, fun _ _ => bus.topic_eq_of_place_eq, ?_⟩
  · intro stream start journal occurred accepted producer audience partition begun line consumer
      limit patience sent opens present comes topic message returned
    have stored := messageAt?_of_pull comes returned
    rcases consumer_eq opens with ⟨member, rfl⟩
    refine ⟨stored, ?_⟩
    intro elsewhere
    have nothing : start.delivered topic message.partition (journal ++ occurred) = [] := by
      apply delivered_eq_nil
      intro occurrence happens isDelivery
      rcases List.mem_append.mp happens with before | now
      · exact deliveredTo?_of_sent sent elsewhere before isDelivery
      · rw [not_isDelivery_of_pull comes now] at isDelivery
        cases isDelivery
    rw [nothing]
    exact List.not_mem_nil
  · intro audience other partition begun line consumer front back exchange differ opens comes
    rcases consumer_eq opens with ⟨member, rfl⟩
    have closing := Consumer.closing_of_comes rfl comes
      (List.mem_append_right _ List.mem_cons_self)
    exact undisturbed_of_closing closing differ

/-- A bus whose feed and log have one topic, and one group for two roles; its settings are in order. -/
def crossed : Bus where
  settings :=
    { Settings.standard with
      feedTopic := "t", logTopic := "t", feedGroup := "g", logWriterGroup := "g" }
  valid := ⟨fun _ => true, by decide +kernel⟩

/-- What the producer of the feed has sent is returned by a consumer of the log; the fetchers and those
who write the log share a topic and a group, and a consumer of the latter that closes moves the
checkpoint of both. -/
theorem not_isolated_crossed :
    let line : Timeline Broker := .start (empty.run [.createTopic "t" 1])
    let producer := StreamProducer.create "t" .standard (some (.fingerprint, 1))
    let consumer : Consumer := ⟨⟨"t", "g", 0⟩, false⟩
    let opened := crossed.producer .feed line
    let sent := producer.perform (.send ⟨#[107]⟩ [⟨#[97]⟩]) opened.2
    let flushed := sent.2.1.perform .flush sent.2.2
    let reading := crossed.consumer .log .writer none flushed.2.2
    let pulled := consumer.pull 10 0 reading.2
    let closed := consumer.close pulled.2
    crossed.settings.check (fun _ => true) = .ok () ∧
      opened.1 = .ok producer ∧ sent.1 = .ok () ∧ flushed.1 = .ok () ∧
      reading.1 = .ok consumer ∧
      pulled.1 = .ok [⟨0, 0, some ⟨#[107]⟩, ⟨#[97]⟩⟩] ∧
      Audience.fetchers.place crossed.settings = Audience.writers.place crossed.settings ∧
      pulled.2.log.checkpoint? "t" "g" 0 = none ∧ closed.1 = .ok () ∧
      closed.2.2.log.checkpoint? "t" "g" 0 = some 1 := by
  decide +kernel

/-- A broker with the topics of the feed and of the log. -/
def bothLine : Timeline Broker :=
  .start (empty.run [.createTopic "frontier-todo" 2, .createTopic "frontier-done" 1])

/-- While the producer of the feed sends and flushes a record, someone else puts one into the topic of
the log, which a consumer of the log returns before it closes. Two roles that share a topic and a group
read two streams. -/
theorem isolated_of_topic_ne_twoLanes :
    let start := (twoLanes.producer .feed bothLine).2.log
    let consumer : Consumer := ⟨⟨"frontier-done", "dbw-spider-log", 0⟩, false⟩
    let message : Message := ⟨0, 0, none, ⟨#[99]⟩⟩
    (∃ journal occurred producer, ∃ line : Timeline Broker,
      Sent twoLanes .feed start journal [keyedRecord] producer ∧
        line.log = journal.foldl Occurrence.befall start ∧
        message ∈ (consumer.pull 1 0 line).1.toOption.getD [] ∧
        message ∉ start.delivered "frontier-done" 0 (journal ++ occurred)) ∧
      (∃ (before : Broker) (exchange : Exchange), exchange.request = .commit consumer.reader ∧
        before.Undisturbed "frontier-done" "sw-spider-log"
          ((Occurrence.request exchange).befall before)) ∧
      Audience.fetchers.stream ≠ Audience.writers.stream := by
  intro start consumer message
  let line := (twoLanes.producer .feed bothLine).2
  let call : Call := .send ⟨#[97]⟩ [⟨#[98]⟩]
  let append : Action := .append "frontier-done" [⟨none, none, ⟨#[99]⟩⟩]
  let join : Action := .ask (.join "frontier-done" "dbw-spider-log" .dynamic)
  let between : Timeline Broker :=
    .start ((feedProducer.perform call line).2.2.log.run [append, join])
  let sent := (feedProducer.perform call line).2.1
  let flushed := (sent.perform .flush between).2.2
  have opened : Sent twoLanes .feed start [] [] feedProducer := .opened rfl (by decide +kernel)
  rcases called_of_sent opened call (show line.log = _ from rfl) with ⟨occurred, comes, called⟩
  have meanwhile := (called.meanwhile append).meanwhile join
  have present : between.log = ([] ++ occurred ++ [(.event append : Occurrence Broker)] ++
      [(.event join : Occurrence Broker)]).foldl Occurrence.befall start := by
    rw [List.foldl_append, List.foldl_append, List.nil_append, ← comes.log_eq]
    rfl
  rcases called_of_sent meanwhile .flush present with ⟨rest, flushes, done⟩
  have journalOf : flushed.log = ([] ++ occurred ++ [(.event append : Occurrence Broker)] ++
      [(.event join : Occurrence Broker)] ++ rest).foldl Occurrence.befall start := by
    rw [List.foldl_append, ← present, ← flushes.log_eq]
  have taken : [] ++ feedProducer.taken call line ++ sent.taken .flush between = [keyedRecord] := by
    decide +kernel
  rw [taken] at done
  have isOpened : (twoLanes.consumer .log .writer none bothLine).1 = .ok consumer := by
    decide +kernel
  have returned : message ∈ (consumer.pull 1 0 flushed).1.toOption.getD [] := by decide +kernel
  rcases Consumer.polls_pull 1 0 consumer flushed with ⟨pulled, pulls, _⟩
  rcases twoLanes.isolated_of_topic_ne with ⟨messages, _, closing⟩
  rcases Consumer.comes_close (show consumer.closed = false from rfl) flushed with
    ⟨moment, reply, _, _, _, _, closes, _⟩
  refine ⟨⟨_, pulled, _, flushed, done, journalOf, returned, ?_⟩,
    ⟨flushed.log, ⟨moment, .commit consumer.reader, reply⟩, rfl, ?_⟩, ?_⟩
  · exact (messages .feed start _ pulled _ _ .writers none bothLine flushed consumer 1 0 done
      isOpened journalOf pulls message returned).2 (by decide)
  · exact closing .writers .strategists none bothLine flushed consumer [] _ _ (by decide) isOpened
      closes
  · exact (crossed.isolated_of_topic_ne.2.1 .fetchers .writers (by decide) (by decide)).1

end FrontierBus
