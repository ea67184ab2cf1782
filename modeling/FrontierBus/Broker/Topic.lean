import FrontierBus.Lag
import FrontierBus.Broker.Group

/-!
# Topics

A topic is a fixed number of partitions, each a sequence of records that only grows, with the
groups that read it. A record without a partition goes to the next one in turn.
-/

namespace FrontierBus.Broker

/-- A record as it is stored. -/
structure StoredRecord where
  key : Option ByteArray
  payload : ByteArray
  deriving DecidableEq

/-- A topic. -/
structure Topic where
  partitions : Array (Array StoredRecord)
  /-- The turn of the next record without a partition, a word of 64 bits. -/
  turn : Nat
  groups : List (String × Group)

namespace Topic

/-- A topic without records. -/
def create (count : Nat) : Topic :=
  ⟨Array.replicate count #[], 0, []⟩

/-- The number of partitions. -/
def count (topic : Topic) : Nat :=
  topic.partitions.size

/-- The records of a partition. -/
def records (topic : Topic) (partition : Nat) : Array StoredRecord :=
  topic.partitions.getD partition #[]

/-- The offset that the next record of a partition will have. -/
def highWatermark? (topic : Topic) (partition : Nat) : Option Nat :=
  topic.partitions[partition]?.map Array.size

/-- A group on the topic. -/
def group (topic : Topic) (name : String) : Group :=
  (topic.groups.lookup name).getD .empty

/-- The groups with one exchanged. -/
def replaceGroup (name : String) (group : Group) :
    List (String × Group) → List (String × Group)
  | [] => [(name, group)]
  | (other, otherGroup) :: rest =>
    if other = name then (name, group) :: rest
    else (other, otherGroup) :: replaceGroup name group rest

/-- The topic with one group exchanged. -/
def setGroup (topic : Topic) (name : String) (group : Group) : Topic :=
  { topic with groups := replaceGroup name group topic.groups }

/-- The partitions that a member of a group owns. -/
def assigned (topic : Topic) (group : String) (member : Nat) : List Nat :=
  (topic.group group).assigned topic.count member

/-- The topic with one more record at the end of a partition. -/
def push (topic : Topic) (partition : Nat) (record : StoredRecord) : Topic :=
  { topic with partitions := topic.partitions.modify partition (·.push record) }

/-- Stores a record, or refuses it if it names a partition that does not exist. -/
def append (name : String) (topic : Topic) (record : Record) : Except Fault Unit × Topic :=
  let stored : StoredRecord := ⟨record.key, record.payload⟩
  match record.partition with
  | none =>
    (.ok (), { topic.push (topic.turn % topic.count) stored with
      turn := (topic.turn + 1) % Word.count64 })
  | some partition =>
    if partition < topic.count then (.ok (), topic.push partition stored)
    else (.error (.refused (.noSuchPartition partition name)), topic)

/-- Stores records in order, each with an outcome of its own. -/
def appendAll (name : String) (topic : Topic) :
    List Record → List (Except Fault Unit) × Topic
  | [] => ([], topic)
  | record :: records =>
    let (outcome, topic) := topic.append name record
    let (outcomes, topic) := topic.appendAll name records
    (outcome :: outcomes, topic)

/-- The record at a cursor, as a message. -/
def messageAt (topic : Topic) (cursor : Cursor) : Option Message :=
  (topic.records cursor.partition)[cursor.position]?.map fun record =>
    ⟨cursor.partition, cursor.position, record.key, record.payload⟩

/-- One round over the cursors: one message from each that has one, as long as there is room. -/
def takeRound (topic : Topic) : (room : Nat) → List Cursor → List Message × List Cursor
  | _, [] => ([], [])
  | 0, cursors => ([], cursors)
  | room + 1, cursor :: cursors =>
    match topic.messageAt cursor with
    | none =>
      let (messages, cursors) := topic.takeRound (room + 1) cursors
      (messages, cursor :: cursors)
    | some message =>
      let (messages, cursors) := topic.takeRound room cursors
      (message :: messages, { cursor with position := cursor.position + 1 } :: cursors)

/-- Rounds over the cursors until there is no room or no message left. -/
def takeBatch (topic : Topic) (room : Nat) (cursors : List Cursor) :
    List Message × List Cursor :=
  if _room : room = 0 then ([], cursors)
  else match topic.takeRound room cursors with
    | ([], _) => ([], cursors)
    | (message :: messages, cursors) =>
      let (others, cursors) := topic.takeBatch (room - (messages.length + 1)) cursors
      (message :: messages ++ others, cursors)
termination_by room
decreasing_by omega

/-- Hands messages to a member of a group, at most `room`, and moves it past them. -/
def fetch (topic : Topic) (name : String) (member : Member) (room : Nat) :
    List Message × Topic :=
  let group := topic.group name
  let (messages, cursors) := topic.takeBatch room (group.freshCursors topic.count member)
  (messages, topic.setGroup name (group.setCursors member.id cursors))

/-- What a probe learns of the first `count` partitions for a group, or the first partition that
is missing. -/
def offsets (name : String) (topic : Topic) (group : String) (count : Nat) :
    Except Fault (List PartitionOffsets) :=
  if topic.count < count then .error (.lagUnknown (.missingPartition topic.count name))
  else .ok <| (List.range count).map fun partition =>
    ⟨partition, (topic.records partition).size, (topic.group group).checkpoint? partition⟩

end Topic

end FrontierBus.Broker
