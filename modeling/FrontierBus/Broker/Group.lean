import FrontierBus.Record

/-!
# Consumer groups

A group on a topic has checkpoints and live members. What a member owns is not stored but follows
from the members: a static member owns the partition it asked for, and the dynamic members share,
in the order in which they joined, the partitions that no static member owns. A member remembers
how far it has read in the partitions it owned when it last read.
-/

namespace FrontierBus.Broker

/-- How far a member has read in a partition: the offset it reads next. -/
structure Cursor where
  partition : Nat
  position : Nat
  deriving Repr, DecidableEq

/-- A live member of a group. -/
structure Member where
  id : Nat
  assignment : Assignment
  cursors : List Cursor
  deriving Repr, DecidableEq

/-- A group on a topic. -/
structure Group where
  /-- The checkpoints, by partition. -/
  committed : List (Nat × Nat)
  /-- The live members, in the order in which they joined. -/
  members : List Member
  deriving Repr, DecidableEq

namespace Group

/-- A group that nobody has joined. -/
def empty : Group := ⟨[], []⟩

/-- The member with a number. -/
def member? (group : Group) (id : Nat) : Option Member :=
  group.members.find? fun member => member.id = id

/-- The checkpoint of a partition. -/
def checkpoint? (group : Group) (partition : Nat) : Option Nat :=
  group.committed.lookup partition

/-- Where reading starts in a partition: at the checkpoint, or at the beginning. -/
def startOffset (group : Group) (partition : Nat) : Nat :=
  (group.checkpoint? partition).getD 0

/-- A static member owns the partition. -/
def isOwned (group : Group) (partition : Nat) : Bool :=
  group.members.any fun member => member.assignment = .static partition

/-- The partitions, of a topic with `count`, that no static member owns. -/
def free (group : Group) (count : Nat) : List Nat :=
  (List.range count).filter fun partition => !group.isOwned partition

/-- The numbers of the members that share the free partitions. -/
def sharers (group : Group) : List Nat :=
  (group.members.filter fun member => member.assignment = .dynamic).map Member.id

/-- The share with the given index when items are dealt out in `parts` runs as equal as possible,
the longer runs first. -/
def share {Item : Type} (items : List Item) (parts index : Nat) : List Item :=
  let length := items.length / parts
  let extra := items.length % parts
  (items.drop (index * length + min index extra)).take (length + if index < extra then 1 else 0)

/-- The partitions that a member owns on a topic with `count`. -/
def assigned (group : Group) (count id : Nat) : List Nat :=
  match group.member? id with
  | none => []
  | some member => match member.assignment with
    | .static partition => [partition]
    | .dynamic => share (group.free count) group.sharers.length (group.sharers.idxOf id)

/-- Where a member stands in a partition: where it has read to, or where it would start. -/
def cursor (group : Group) (member : Member) (partition : Nat) : Cursor :=
  (member.cursors.find? fun cursor => cursor.partition = partition).getD
    ⟨partition, group.startOffset partition⟩

/-- The cursors for the partitions that a member owns now. What it knew of others is dropped. -/
def freshCursors (group : Group) (count : Nat) (member : Member) : List Cursor :=
  (group.assigned count member.id).map (group.cursor member)

/-- The group with one member exchanged. -/
def setCursors (group : Group) (id : Nat) (cursors : List Cursor) : Group :=
  { group with members := group.members.map fun member =>
      if member.id = id then { member with cursors } else member }

/-- The group with a new member. -/
def enlist (group : Group) (id : Nat) (assignment : Assignment) : Group :=
  { group with members := group.members ++ [⟨id, assignment, []⟩] }

/-- The group without a member. -/
def dismiss (group : Group) (id : Nat) : Group :=
  { group with members := group.members.filter fun member => member.id ≠ id }

/-- Sets one checkpoint. -/
def setCheckpoint (partition offset : Nat) : List (Nat × Nat) → List (Nat × Nat)
  | [] => [(partition, offset)]
  | (other, otherOffset) :: rest =>
    if other = partition then (partition, offset) :: rest
    else (other, otherOffset) :: setCheckpoint partition offset rest

/-- The group after a member has checked off what it has read in the partitions it owns. -/
def commit (group : Group) (count id : Nat) : Group :=
  match group.member? id with
  | none => group
  | some member =>
    let owned := group.assigned count id
    let reached := member.cursors.filter fun cursor => owned.contains cursor.partition
    { group with committed := reached.foldl (fun committed cursor =>
        setCheckpoint cursor.partition cursor.position committed) group.committed }

end Group

end FrontierBus.Broker
