import FrontierBus.Request
import FrontierBus.Settings.Basic
import FrontierBus.Broker.Topic

/-!
# The log in memory

A broker keeps topics with their groups in one value. Most requests have to reach it: while it is
disconnected they all fail, and a set number of them can be made to fail while it is connected. A
request that fails changes nothing else.
-/

namespace FrontierBus

/-- The log in memory. -/
structure Broker where
  topics : List (String × Broker.Topic)
  /-- The number of the next member of any group, a word of 64 bits. Fewer joins are meant than
  there are such words, so it never starts again. -/
  nextMember : Nat
  connected : Bool
  /-- How many more requests are made to fail. -/
  failuresLeft : Nat
  /-- How many deliveries have arrived. -/
  arrivals : Nat

namespace Broker

/-- A broker without topics. -/
def empty : Broker := ⟨[], 0, true, 0, 0⟩

/-- The topic with a name. -/
def topic? (broker : Broker) (name : String) : Option Topic :=
  broker.topics.lookup name

/-- The topics with one exchanged. -/
def replaceTopic (name : String) (topic : Topic) : List (String × Topic) → List (String × Topic)
  | [] => [(name, topic)]
  | (other, otherTopic) :: rest =>
    if other = name then (name, topic) :: rest
    else (other, otherTopic) :: replaceTopic name topic rest

/-- The broker with one topic exchanged. -/
def setTopic (broker : Broker) (name : String) (topic : Topic) : Broker :=
  { broker with topics := replaceTopic name topic broker.topics }

/-- Creates a topic. -/
def createTopic (name : String) (count : Nat) (broker : Broker) : Except Fault Unit × Broker :=
  if count = 0 then (.error (.misconfigured (.noPartition name)), broker)
  else if (broker.topic? name).isSome then
    (.error (.misconfigured (.topicExists name)), broker)
  else (.ok (), broker.setTopic name (.create count))

/-- A broker with the topics of the settings. A topic whose layout is not given has one
partition. -/
def withTopics (settings : Settings) : Except Fault Broker :=
  [(settings.feedTopic, settings.feedPartitions), (settings.logTopic, settings.logPartitions),
    (settings.scoringTopic, settings.scoringPartitions.getD 1),
    (settings.statsTopic, settings.statsPartitions.getD 1)].foldlM (fun broker entry =>
      match broker.createTopic entry.1 entry.2 with
      | (.ok _, broker) => .ok broker
      | (.error fault, _) => .error fault) empty

/-- The fault of a request that cannot reach the broker, if it cannot. -/
def interruption (broker : Broker) : Option Fault × Broker :=
  if !broker.connected then (some (.unavailable .disconnected), broker)
  else match broker.failuresLeft with
    | 0 => (none, broker)
    | left + 1 => (some (.unavailable .injected), { broker with failuresLeft := left })

/-- A request that has to reach the broker. -/
def reaching {Answer : Type} (request : Broker → Except Fault Answer × Broker)
    (broker : Broker) : Except Fault Answer × Broker :=
  match broker.interruption with
  | (some fault, broker) => (.error fault, broker)
  | (none, broker) => request broker

/-- A request that has to reach a topic. -/
def reachingTopic {Answer : Type} (name : String)
    (request : Topic → Broker → Except Fault Answer × Broker) (broker : Broker) :
    Except Fault Answer × Broker :=
  reaching (fun broker =>
    match broker.topic? name with
    | none => (.error (.unknownTopic name), broker)
    | some topic => request topic broker) broker

/-- The group on a topic; one that nobody has joined is empty. -/
def group (broker : Broker) (topic group : String) : Group :=
  match broker.topic? topic with
  | none => .empty
  | some found => found.group group

/-- The offset that the next record of a partition will have. -/
def highWatermark? (broker : Broker) (topic : String) (partition : Nat) : Option Nat :=
  (broker.topic? topic).bind fun found => found.highWatermark? partition

/-- The checkpoint of a group in a partition. -/
def checkpoint? (broker : Broker) (topic group : String) (partition : Nat) : Option Nat :=
  (broker.group topic group).checkpoint? partition

/-- The number of live members of a group. -/
def memberCount (broker : Broker) (topic group : String) : Nat :=
  (broker.group topic group).members.length

/-- The member behind a session, while the session is open. -/
def member? (broker : Broker) (reader : Reader) : Option Member :=
  (broker.group reader.topic reader.group).member? reader.member

/-- The partitions that a session owns. -/
def assigned (reader : Reader) (broker : Broker) : List Nat :=
  match broker.topic? reader.topic with
  | none => []
  | some topic => topic.assigned reader.group reader.member

/-- The offset that a session reads next in a partition, whether it owns it or not. -/
def effectivePosition (broker : Broker) (reader : Reader) (partition : Nat) : Nat :=
  let group := broker.group reader.topic reader.group
  match group.member? reader.member with
  | none => group.startOffset partition
  | some member => (group.cursor member partition).position

/-- The number of partitions of a topic. -/
def partitionCount (name : String) : Broker → Except Fault Nat × Broker :=
  reachingTopic name fun topic broker => (.ok topic.count, broker)

/-- Opens a consumer session. A partition of its own must exist and have no other static owner. -/
def join (name groupName : String) (assignment : Assignment) :
    Broker → Except Fault Nat × Broker :=
  reachingTopic name fun topic broker =>
    let group := topic.group groupName
    let admitted :=
      ({ broker with nextMember := broker.nextMember + 1 } : Broker).setTopic name
        (topic.setGroup groupName (group.enlist broker.nextMember assignment))
    match assignment with
    | .dynamic => (.ok broker.nextMember, admitted)
    | .static partition =>
      if topic.count ≤ partition then
        (.error (.misconfigured (.partitionOutOfRange partition name topic.count)), broker)
      else if group.isOwned partition then
        (.error (.alreadyOwned name groupName partition), broker)
      else (.ok broker.nextMember, admitted)

/-- Opens a session that only has to find its topic. -/
def openOn (name : String) : Broker → Except Fault Unit × Broker :=
  reachingTopic name fun _ broker => (.ok (), broker)

/-- Hands messages to a session; `none` if there is room for some but nothing to hand out. -/
def poll (reader : Reader) (limit : Nat) (broker : Broker) :
    Except Fault (Option (List Message)) × Broker :=
  match broker.member? reader with
  | none => (.error .closed, broker)
  | some member =>
    reachingTopic reader.topic (fun topic broker =>
      let (messages, topic) := topic.fetch reader.group member limit
      let answer := if messages.isEmpty && limit ≠ 0 then none else some messages
      (.ok answer, broker.setTopic reader.topic topic)) broker

/-- The position of a session in a partition that it owns. -/
def position (reader : Reader) (partition : Nat) (broker : Broker) : Except Fault Nat :=
  if (broker.assigned reader).contains partition then
    .ok (broker.effectivePosition reader partition)
  else .error (.notAssigned reader.topic partition)

/-- The checkpoint of the group of a session. -/
def committed (reader : Reader) (partition : Nat) :
    Broker → Except Fault (Option Nat) × Broker :=
  reaching fun broker =>
    (.ok (broker.checkpoint? reader.topic reader.group partition), broker)

/-- The broker with the group of a session exchanged. -/
def updateGroup (broker : Broker) (reader : Reader) (change : Nat → Group → Group) : Broker :=
  match broker.topic? reader.topic with
  | none => broker
  | some topic =>
    broker.setTopic reader.topic
      (topic.setGroup reader.group (change topic.count (topic.group reader.group)))

/-- Makes the positions of a session the checkpoints of its group, in the partitions it owns. -/
def commit (reader : Reader) : Broker → Except Fault Unit × Broker :=
  reaching fun broker =>
    (.ok (), broker.updateGroup reader fun count group => group.commit count reader.member)

/-- Closes a consumer session. -/
def leave (reader : Reader) (broker : Broker) : Broker :=
  broker.updateGroup reader fun _ group => group.dismiss reader.member

/-- Stores the records of a delivery, unless the broker cannot be reached. -/
def deliver (name : String) (records : List Record) (broker : Broker) : Report × Broker :=
  match broker.interruption with
  | (some fault, broker) => (.uniform records.length (.error fault), broker)
  | (none, broker) =>
    match broker.topic? name with
    | none => (.uniform records.length (.error (.unknownTopic name)), broker)
    | some topic =>
      let (outcomes, topic) := topic.appendAll name records
      let reached : Broker := { broker with arrivals := broker.arrivals + 1 }
      (⟨outcomes⟩, reached.setTopic name topic)

/-- What a probe learns of the first partitions of a topic for a group. -/
def offsets (name group : String) (count : Nat) :
    Broker → Except Fault (List PartitionOffsets) × Broker :=
  reachingTopic name fun topic broker => (topic.offsets name group count, broker)

/-- An answer without a delay. -/
def atOnce {request : Request} (result : request.Answer × Broker) : Reply request × Broker :=
  (⟨0, result.1⟩, result.2)

/-- Serves a request at once. -/
def serve (request : Request) (broker : Broker) : Reply request × Broker :=
  match request with
  | .partitionCount topic => atOnce (broker.partitionCount topic)
  | .join topic group assignment => atOnce (broker.join topic group assignment)
  | .openProducer topic _ => atOnce (broker.openOn topic)
  | .openProbe topic _ => atOnce (broker.openOn topic)
  | .poll reader limit _ => atOnce (broker.poll reader limit)
  | .position reader partition => (⟨0, broker.position reader partition⟩, broker)
  | .committed reader partition => atOnce (broker.committed reader partition)
  | .commit reader => atOnce (broker.commit reader)
  | .leave reader => (⟨0, ()⟩, broker.leave reader)
  | .deliver topic records =>
    let (report, broker) := broker.deliver topic records
    (⟨0, some report⟩, broker)
  | .closeProducer _ => (⟨0, ()⟩, broker)
  | .offsets topic group count => atOnce (broker.offsets topic group count)

end Broker

end FrontierBus
