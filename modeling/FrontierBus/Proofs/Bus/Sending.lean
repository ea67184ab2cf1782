import FrontierBus.Proofs.Bus.Opening
import FrontierBus.Proofs.Broker.Reading
import FrontierBus.Proofs.Producer.Draining

/-!
# Sending over a broker

A bus opens a producer, and from then on the producer is called while anything else happens on the
broker, between the calls and during them. What it has sent is at every point a beginning of what its
calls have taken, and the rest is held back.
-/

namespace FrontierBus

open Broker

/-- A record goes where a routing sends its key; without a routing it has neither. -/
def Record.Routed (routing : Option (Partitioning × Nat)) (record : Record) : Prop :=
  match routing with
  | none => record.partition = none ∧ record.key = none
  | some (partitioning, count) =>
    ∃ key, record.key = some key ∧ record.partition = some (partitioning.route key count)

theorem Record.Routed.fits {partitioning : Option Partitioning} {count : Nat} {record : Record}
    (routed : record.Routed (partitioning.map fun partitioning => (partitioning, count)))
    (positive : 0 < count) : record.Fits count := by
  intro partition wanted
  cases partitioning with
  | none =>
      rw [routed.1] at wanted
      cases wanted
  | some partitioning =>
      rcases routed with ⟨key, _, isRouted⟩
      rw [isRouted, Option.some.injEq] at wanted
      rw [← wanted]
      exact partitioning.route_lt key positive

namespace StreamProducer

variable {Log : Type} [Transport Log]

/-- How a producer routes, and among how many partitions. -/
def routing : StreamProducer → Option (Partitioning × Nat)
  | plain _ => none
  | keyed producer => some (producer.partitioning, producer.partitions)

theorem routing_create (topic : String) (connection : Connection)
    (routing : Option (Partitioning × Nat)) :
    (create topic connection routing).routing = routing := by
  cases routing with
  | none => rfl
  | some routing => rfl

theorem routing_perform (call : Call) (producer : StreamProducer) (line : Timeline Log) :
    (producer.perform call line).2.1.routing = producer.routing := by
  cases producer with
  | plain core =>
      cases call with
      | _ => rfl
  | keyed producer =>
      cases call with
      | _ => rfl

theorem routed_of_mem_records {producer : StreamProducer} {call : Call} {record : Record}
    (sends : record ∈ producer.records call) : record.Routed producer.routing := by
  cases call with
  | send key messages =>
      cases producer with
      | plain core =>
          rcases List.mem_map.mp sends with ⟨payload, _, rfl⟩
          exact ⟨rfl, rfl⟩
      | keyed producer =>
          rcases List.mem_map.mp sends with ⟨payload, _, rfl⟩
          exact ⟨key, rfl, rfl⟩
  | flush => cases sends
  | close => cases sends

/-- The records that a call has taken when it is over: all that it sends, or none if it fails. -/
def taken (producer : StreamProducer) (call : Call) (line : Timeline Log) : List Record :=
  if (producer.perform call line).1.isOk then producer.records call else []

end StreamProducer

/-- A producer that a bus has opened for a stream, the broker at that time, what has come to pass on
it since, and the records that calls of the producer have taken. A call finds the broker as it is; the
clock, the watches and what lies ahead may be anything. -/
inductive Sent (bus : Bus) (stream : Stream) :
    Broker → List (Occurrence Broker) → List Record → StreamProducer → Prop where
  | opened {actions : List Action} {line : Timeline Broker} {producer : StreamProducer}
      (present : line.log = empty.run actions)
      (opens : (bus.producer stream line).1 = .ok producer) :
      Sent bus stream (bus.producer stream line).2.log [] [] producer
  | meanwhile {start : Broker} {journal : List (Occurrence Broker)} {accepted : List Record}
      {producer : StreamProducer} (action : Action)
      (sent : Sent bus stream start journal accepted producer) :
      Sent bus stream start (journal ++ [.event action]) accepted producer
  | called {start : Broker} {journal occurred : List (Occurrence Broker)} {accepted : List Record}
      {producer : StreamProducer} {line : Timeline Broker} (call : Call)
      (sent : Sent bus stream start journal accepted producer)
      (present : line.log = journal.foldl Occurrence.befall start)
      (comes : line.Comes occurred (producer.perform call line).2.2) :
      Sent bus stream start (journal ++ occurred) (accepted ++ producer.taken call line)
        (producer.perform call line).2.1

/-- The producer of a stream has put these records into the topic, each once, and in every partition
those that are there in their order. -/
def Arrived (topic : String) (start : Broker) (journal : List (Occurrence Broker))
    (records : List Record) : Prop :=
  ∃ entries : List (Record × Nat), entries.map Prod.fst = records ∧ ∀ partition,
    (start.delivered topic partition journal).map Message.stored = Topic.laidIn partition entries

namespace Arrived

variable {topic : String} {start : Broker} {journal more : List (Occurrence Broker)}
  {records others lost : List Record}

/-- Where nothing is delivered, nothing arrives. -/
theorem append_quiet (arrived : Arrived topic start journal records)
    (quiet : ∀ occurrence ∈ more, occurrence.isDelivery = false) :
    Arrived topic start (journal ++ more) records := by
  rcases arrived with ⟨entries, areRecords, lie⟩
  refine ⟨entries, areRecords, ?_⟩
  intro partition
  rw [delivered_append, delivered_of_quiet quiet, List.append_nil]
  exact lie partition

/-- How many records have arrived is told by the log. -/
theorem length_eq (arrived : Arrived topic start journal records)
    (otherwise : Arrived topic start journal others) : records.length = others.length := by
  rcases arrived with ⟨entries, rfl, lie⟩
  rcases otherwise with ⟨otherEntries, rfl, otherLie⟩
  have samePlaces : (entries.map Prod.snd).Perm (otherEntries.map Prod.snd) := by
    apply List.perm_iff_count.mpr
    intro partition
    rw [← Topic.length_laidIn, ← Topic.length_laidIn, ← lie, otherLie]
  simpa using samePlaces.length_eq

/-- What has arrived and more have arrived just if there are no more. -/
theorem append_iff (arrived : Arrived topic start journal records) :
    Arrived topic start journal (records ++ lost) ↔ lost = [] := by
  constructor
  · intro allArrived
    have same := allArrived.length_eq arrived
    rw [List.length_append] at same
    apply List.eq_nil_of_length_eq_zero
    omega
  · rintro rfl
    rw [List.append_nil]
    exact arrived

end Arrived

/-- What holds of a producer of a topic at every point between its calls. -/
structure Sends (topic : String) (count : Nat) (partitioning : Option Partitioning)
    (start : Broker) (journal : List (Occurrence Broker)) (accepted : List Record)
    (producer : StreamProducer) : Prop where
  offers : start.Offers topic count
  fit : Occurrence.AllFit start journal
  suited : Suited topic count (journal.filterMap Occurrence.exchange?)
  conserves : storedBy (journal.filterMap Occurrence.exchange?) ++ producer.core.buffer.toList =
    accepted
  ready : producer.core.Ready topic count (journal.foldl Occurrence.befall start)
  routing_eq : producer.routing = partitioning.map fun partitioning => (partitioning, count)
  routed : ∀ record ∈ accepted, record.Routed producer.routing

namespace Sends

variable {topic : String} {count : Nat} {partitioning : Option Partitioning} {start : Broker}
  {journal occurred : List (Occurrence Broker)} {accepted : List Record}
  {producer : StreamProducer} {line : Timeline Broker} {call : Call}

theorem opened (offers : start.Offers topic count) (connection : Connection)
    (partitioning : Option Partitioning) :
    Sends topic count partitioning start [] [] (.create topic connection
      (partitioning.map fun partitioning => (partitioning, count))) := by
  have empty := StreamProducer.core_create topic connection
    (partitioning.map fun partitioning => (partitioning, count))
  refine ⟨offers, trivial, suited_of_quiet .nothing, ?_, ?_,
    StreamProducer.routing_create topic connection _, by simp⟩
  · rw [empty]
    rfl
  · rw [empty]
    exact ⟨rfl, offers, fun _ held => (List.not_mem_nil held).elim, fun _ => rfl⟩

theorem meanwhile (sends : Sends topic count partitioning start journal accepted producer)
    (action : Action) :
    Sends topic count partitioning start (journal ++ [.event action]) accepted producer := by
  have same : (journal ++ [Occurrence.event action]).filterMap Occurrence.exchange? =
      journal.filterMap Occurrence.exchange? := by
    rw [List.filterMap_append]
    exact List.append_nil _
  refine ⟨sends.offers, ?_, ?_, ?_, ?_, sends.routing_eq, sends.routed⟩
  · exact Occurrence.allFit_append.mpr ⟨sends.fit, trivial, trivial⟩
  · rw [same]
    exact sends.suited
  · rw [same]
    exact sends.conserves
  · rw [List.foldl_append]
    exact { sends.ready with offers := sends.ready.offers.step action }

theorem fits (sends : Sends topic count partitioning start journal accepted producer)
    {record : Record} (isSent : record ∈ producer.records call) : record.Fits count := by
  have routed := StreamProducer.routed_of_mem_records isSent
  rw [sends.routing_eq] at routed
  exact routed.fits sends.offers.1

theorem exists_forwards (sends : Sends topic count partitioning start journal accepted producer)
    (call : Call) (present : line.log = journal.foldl Occurrence.befall start) :
    ∃ occurred, producer.core.Forwards topic count line (producer.taken call line)
      (producer.perform call line).2.1.core (producer.perform call line).2.2 occurred := by
  have ready := sends.ready
  rw [← present] at ready
  exact Producer.course_forwards ready (fun record isSent => sends.fits isSent)
    (StreamProducer.course_perform call producer line)

/-- Whatever comes to pass during a call, what is acknowledged then, followed by what is held back
afterwards, is what was held back before, followed by what the call has taken. -/
theorem forwards (sends : Sends topic count partitioning start journal accepted producer)
    (present : line.log = journal.foldl Occurrence.befall start)
    (comes : line.Comes occurred (producer.perform call line).2.2) :
    producer.core.Forwards topic count line (producer.taken call line)
      (producer.perform call line).2.1.core (producer.perform call line).2.2 occurred := by
  rcases sends.exists_forwards call present with ⟨others, forwards⟩
  have same := comes.exchanges_eq forwards.comes
  refine ⟨comes, ?_, ?_, forwards.ready⟩
  · rw [same]
    exact forwards.suited
  · rw [same]
    exact forwards.conserves

theorem called (sends : Sends topic count partitioning start journal accepted producer)
    (present : line.log = journal.foldl Occurrence.befall start)
    (comes : line.Comes occurred (producer.perform call line).2.2) :
    Sends topic count partitioning start (journal ++ occurred)
      (accepted ++ producer.taken call line) (producer.perform call line).2.1 := by
  have forwards := sends.forwards present comes
  have sameRouting := StreamProducer.routing_perform call producer line
  refine ⟨sends.offers, ?_, ?_, ?_, ?_, ?_, ?_⟩
  · rw [Occurrence.allFit_append, ← present]
    exact ⟨sends.fit, comes.allFit⟩
  · rw [List.filterMap_append]
    exact sends.suited.append forwards.suited
  · rw [List.filterMap_append, storedBy_append, List.append_assoc, forwards.conserves,
      ← List.append_assoc, sends.conserves]
  · have later := forwards.ready
    rw [comes.log_eq, present] at later
    rw [List.foldl_append]
    exact later
  · rw [sameRouting]
    exact sends.routing_eq
  · intro record isAccepted
    rw [sameRouting]
    rcases List.mem_append.mp isAccepted with before | now
    · exact sends.routed record before
    · simp only [StreamProducer.taken] at now
      split at now
      · exact StreamProducer.routed_of_mem_records now
      · cases now

theorem laid (sends : Sends topic count partitioning start journal accepted producer)
    {front : List (Occurrence Broker)} (isFront : front <+: journal) :
    ∃ entries, Laid topic count start front entries ∧ entries.map Prod.fst <+: accepted := by
  rcases isFront with ⟨back, rfl⟩
  have fit := (Occurrence.allFit_append.mp sends.fit).1
  have suited := sends.suited
  have conserves := sends.conserves
  rw [List.filterMap_append] at suited conserves
  rcases laid_of_allFit sends.offers fit (suited.of_sublist (List.sublist_append_left _ _)) with
    ⟨entries, laid⟩
  refine ⟨entries, laid, ?_⟩
  rw [laid.isStored, ← conserves, storedBy_append, List.append_assoc]
  exact List.prefix_append _ _

section Laid

variable {entries : List (Record × Nat)} {entry other : Record × Nat}

/-- A record that a keyed producer has laid down has a key, and lies where the key is routed. -/
theorem routed_of_laid (sends : Sends topic count partitioning start journal accepted producer)
    (laid : Laid topic count start journal entries) (beginning : entries.map Prod.fst <+: accepted)
    (present : entry ∈ entries) {routing : Partitioning × Nat}
    (isRouted : producer.routing = some routing) :
    ∃ key, entry.1.key = some key ∧ entry.2 = routing.1.route key routing.2 := by
  have routed := sends.routed entry.1 (beginning.subset (List.mem_map_of_mem present))
  rw [isRouted] at routed
  rcases routed with ⟨key, hasKey, goes⟩
  exact ⟨key, hasKey, (laid.placed entry present).2 _ goes⟩

/-- Records that are laid down under one key lie together. -/
theorem together_of_key (sends : Sends topic count partitioning start journal accepted producer)
    (laid : Laid topic count start journal entries) (beginning : entries.map Prod.fst <+: accepted)
    (present : entry ∈ entries) (otherPresent : other ∈ entries) {key : ByteArray}
    (hasKey : entry.1.key = some key) (otherKey : other.1.key = some key) :
    entry.2 = other.2 := by
  cases isRouted : producer.routing with
  | none =>
      have routed := sends.routed entry.1 (beginning.subset (List.mem_map_of_mem present))
      rw [isRouted] at routed
      rw [routed.2] at hasKey
      cases hasKey
  | some routing =>
      rcases sends.routed_of_laid laid beginning present isRouted with ⟨_, isKey, isThere⟩
      rcases sends.routed_of_laid laid beginning otherPresent isRouted with
        ⟨_, isOtherKey, otherThere⟩
      rw [hasKey, Option.some.injEq] at isKey
      rw [otherKey, Option.some.injEq] at isOtherKey
      rw [isThere, otherThere, ← isKey, ← isOtherKey]

end Laid

/-- A record that has arrived lies where its key is routed. -/
theorem routed_of_mem_delivered
    (sends : Sends topic count partitioning start journal accepted producer)
    {routing : KeyedProducer} (isKeyed : producer = .keyed routing) {partition : Nat}
    {message : Message} (present : message ∈ start.delivered topic partition journal) :
    ∃ key, message.key = some key ∧ partition = routing.partitionFor key := by
  rcases sends.laid (List.prefix_refl journal) with ⟨entries, laid, beginning⟩
  have stored : message.stored ∈ Topic.laidIn partition entries := by
    rw [← laid.delivered_eq]
    exact List.mem_map_of_mem present
  rcases List.mem_map.mp stored with ⟨entry, amongThem, same⟩
  rcases List.mem_filter.mp amongThem with ⟨isEntry, inPartition⟩
  have isRouted : producer.routing = some (routing.partitioning, routing.partitions) := by
    rw [isKeyed]
    rfl
  rcases sends.routed_of_laid laid beginning isEntry isRouted with ⟨key, hasKey, goes⟩
  have sameKey : entry.1.key = message.key := congrArg StoredRecord.key same
  have isThere : entry.2 = partition := by simpa using inPartition
  exact ⟨key, sameKey.symm.trans hasKey, isThere.symm.trans goes⟩

theorem arrived (sends : Sends topic count partitioning start journal accepted producer) :
    ∃ arrived, Arrived topic start journal arrived ∧
      arrived ++ producer.core.buffer.toList = accepted := by
  rcases sends.laid (List.prefix_refl journal) with ⟨entries, laid, _⟩
  refine ⟨_, ⟨entries, rfl, laid.delivered_eq⟩, ?_⟩
  rw [laid.isStored]
  exact sends.conserves

theorem arrived_of_emptied
    (sends : Sends topic count partitioning start journal accepted producer)
    (present : line.log = journal.foldl Occurrence.befall start)
    (comes : line.Comes occurred (producer.perform call line).2.2)
    (answered : (producer.perform call line).1 = .ok ())
    (empties : call = .flush ∨ call = .close) :
    Arrived topic start (journal ++ occurred) accepted := by
  have course := StreamProducer.course_perform call producer line
  rw [answered] at course
  have emptied := Producer.toList_of_course_ok sends.ready.nothing course empties
  have nothingTaken : producer.taken call line = [] := by
    rcases empties with rfl | rfl
    · exact ite_self []
    · exact ite_self []
  rcases (sends.called present comes).arrived with ⟨arrived, isArrived, all⟩
  rw [emptied, nothingTaken, List.append_nil, List.append_nil] at all
  rw [← all]
  exact isArrived

theorem inOrder_of_seen (sends : Sends topic count partitioning start journal accepted producer)
    {partition : Nat} {seen : List Message}
    (read : seen <+: (journal.foldl Occurrence.befall start).messages topic partition)
    (key : ByteArray) :
    (seen.filter fun message => message ∈ start.delivered topic partition journal ∧
      message.key = some key).map Message.stored <+:
        (accepted.filter fun record => record.key = some key).map Record.stored := by
  rcases sends.laid (List.prefix_refl journal) with ⟨entries, laid, beginning⟩
  have together : ∀ entry ∈ entries, ∀ other ∈ entries, entry.1.key = some key →
      other.1.key = some key → entry.2 = other.2 := by
    intro entry present other otherPresent hasKey otherKey
    exact sends.together_of_key laid beginning present otherPresent hasKey otherKey
  have sentFirst := (beginning.filter fun record => record.key = some key).map Record.stored
  exact (laid.inOrder_of_seen read together).trans sentFirst

end Sends

theorem sends_of_sent {bus : Bus} {stream : Stream} {start : Broker}
    {journal : List (Occurrence Broker)} {accepted : List Record} {producer : StreamProducer}
    (sent : Sent bus stream start journal accepted producer) :
    ∃ count, Sends (stream.topic bus.settings) count (stream.partitioning bus.settings) start journal
      accepted producer := by
  induction sent with
  | opened present opens =>
      rcases Bus.offers_of_producer ⟨_, present⟩ opens with ⟨count, offers, rfl⟩
      exact ⟨count, .opened offers _ _⟩
  | meanwhile action _ hypothesis =>
      rcases hypothesis with ⟨count, sends⟩
      exact ⟨count, sends.meanwhile action⟩
  | called call _ present comes hypothesis =>
      rcases hypothesis with ⟨count, sends⟩
      exact ⟨count, sends.called present comes⟩

variable {bus : Bus} {stream : Stream} {start : Broker} {journal : List (Occurrence Broker)}
  {accepted : List Record} {producer : StreamProducer}

/-- Whatever happens on the broker, what a producer has sent has arrived up to some record, each
record once and where its key is routed, and the rest is held back. No record is turned down for a
partition that does not exist. After a flush or a close that succeeds all has arrived, and a session
that reads a partition through sees what was sent under a key in the order in which it was sent. -/
theorem arrived_of_sent (sent : Sent bus stream start journal accepted producer) :
    let topic := stream.topic bus.settings
    let present := journal.foldl Occurrence.befall start
    (∃ arrived, Arrived topic start journal arrived ∧
        arrived ++ producer.core.buffer.toList = accepted) ∧
      (∀ front, front <+: journal →
        ∃ arrived, Arrived topic start front arrived ∧ arrived <+: accepted) ∧
      (∀ partition, (start.delivered topic partition journal).Sublist
        (present.messages topic partition)) ∧
      (∀ exchange, .request exchange ∈ journal → ∀ partition name,
        .error (.refused (.noSuchPartition partition name)) ∉ exchange.outcomes) ∧
      (∀ routing, producer = .keyed routing → ∀ partition,
        ∀ message ∈ start.delivered topic partition journal,
          ∃ key, message.key = some key ∧ partition = routing.partitionFor key) ∧
      (∀ (call : Call) (line : Timeline Broker) (occurred : List (Occurrence Broker)),
        call = .flush ∨ call = .close → line.log = present →
        (producer.perform call line).1 = .ok () →
        line.Comes occurred (producer.perform call line).2.2 →
          Arrived topic start (journal ++ occurred) accepted) ∧
      ∀ (group : String) (id partition : Nat) (actions : List Action) (seen : List Message)
        (key : ByteArray), empty.run actions = present →
        ReadThrough ⟨topic, group, id⟩ partition actions seen →
          (seen.filter fun message => message ∈ start.delivered topic partition journal ∧
            message.key = some key).map Message.stored <+:
              (accepted.filter fun record => record.key = some key).map Record.stored := by
  intro topic present
  rcases sends_of_sent sent with ⟨count, sends⟩
  refine ⟨?_, ?_, ?_, ?_, ?_, ?_, ?_⟩
  · exact sends.arrived
  · intro front isFront
    rcases sends.laid isFront with ⟨entries, laid, beginning⟩
    exact ⟨_, ⟨entries, rfl, laid.delivered_eq⟩, beginning⟩
  · intro partition
    exact (List.sublist_append_right _ _).trans
      (messages_append_delivered_sublist topic partition start journal)
  · intro exchange made partition name failed
    rcases unavailable_of_allFit sends.offers sends.fit sends.suited made failed with ⟨cause, same⟩
    cases same
  · intro routing isKeyed partition message delivered
    exact sends.routed_of_mem_delivered isKeyed delivered
  · intro call line occurred empties isPresent answered comes
    exact sends.arrived_of_emptied isPresent comes answered empties
  · intro group id partition actions seen key isPresent read
    have behind := (standsBehind_of_readThrough read).inOrder
    rw [isPresent] at behind
    exact sends.inOrder_of_seen behind key

/-- A producer can be called at every point. -/
theorem called_of_sent (sent : Sent bus stream start journal accepted producer) (call : Call)
    {line : Timeline Broker} (present : line.log = journal.foldl Occurrence.befall start) :
    ∃ occurred, line.Comes occurred (producer.perform call line).2.2 ∧
      Sent bus stream start (journal ++ occurred) (accepted ++ producer.taken call line)
        (producer.perform call line).2.1 := by
  rcases sends_of_sent sent with ⟨count, sends⟩
  rcases sends.exists_forwards call present with ⟨occurred, forwards⟩
  exact ⟨occurred, forwards.comes, sent.called call present forwards.comes⟩

/-- A broker with the topic of the feed. -/
def feedLine : Timeline Broker :=
  .start (empty.run [.createTopic "frontier-todo" 2])

/-- The producer that the bus opens on it. -/
def feedProducer : StreamProducer :=
  .create "frontier-todo" .standard (some (.fingerprint, 2))

/-- A record under a key, which goes to the second partition. -/
def keyedRecord : Record :=
  ⟨some 1, some ⟨#[97]⟩, ⟨#[98]⟩⟩

/-- A record that is held back while the next request is made to fail arrives with the flush. -/
theorem arrived_after_failure :
    ∃ journal producer,
      Sent twoLanes .feed (twoLanes.producer .feed feedLine).2.log journal [keyedRecord] producer ∧
        Arrived "frontier-todo" (twoLanes.producer .feed feedLine).2.log journal [keyedRecord] := by
  let line := (twoLanes.producer .feed feedLine).2
  let call : Call := .send ⟨#[97]⟩ [⟨#[98]⟩]
  let failing : Timeline Broker :=
    .start ((feedProducer.perform call line).2.2.log.step (.failNext 1)).2
  have opened : Sent twoLanes .feed line.log [] [] feedProducer := .opened rfl (by decide +kernel)
  rcases called_of_sent opened call (show line.log = _ from rfl) with ⟨occurred, comes, called⟩
  have sent := called.meanwhile (.failNext 1)
  have taken : [] ++ feedProducer.taken call line = [keyedRecord] := by decide +kernel
  have present : failing.log =
      ([] ++ occurred ++ [(.event (.failNext 1) : Occurrence Broker)]).foldl Occurrence.befall
        line.log := by
    rw [List.foldl_append, List.nil_append, ← comes.log_eq]
    rfl
  rcases called_of_sent sent .flush present with ⟨rest, flushes, flushed⟩
  have answered : ((feedProducer.perform call line).2.1.perform .flush failing).1 = .ok () := by
    decide +kernel
  have arrived := (arrived_of_sent sent).2.2.2.2.2.1 .flush failing rest (Or.inl rfl) present
    answered flushes
  have nothing : (feedProducer.perform call line).2.1.taken .flush failing = [] := ite_self []
  rw [taken, nothing] at flushed
  rw [taken] at arrived
  exact ⟨_, _, flushed, arrived⟩

end FrontierBus
