/-!
# Lag

How far a group is behind in each partition: the records at or past its checkpoint.
-/

namespace FrontierBus

/-- What a probe learns of one partition: where the next record will be stored, and the checkpoint
of the group. -/
structure PartitionOffsets where
  partition : Nat
  highWatermark : Nat
  committed : Option Nat
  deriving Repr, DecidableEq

/-- The records that the group has not checked off; a group without a checkpoint has checked off
none. -/
def PartitionOffsets.lag (offsets : PartitionOffsets) : Nat :=
  offsets.highWatermark - offsets.committed.getD 0

/-- The lags of the partitions at one moment, ascending by partition. -/
structure LagSnapshot where
  lags : List (Nat × Nat)
  /-- When the probe answered that the snapshot stems from, if it stems from one. -/
  refreshedAt : Option Nat
  deriving Repr, DecidableEq

namespace LagSnapshot

/-- What is known before the first probe. -/
def empty : LagSnapshot := ⟨[], none⟩

/-- Sets the lag of a partition in an ascending list. -/
def insertLag (partition lag : Nat) : List (Nat × Nat) → List (Nat × Nat)
  | [] => [(partition, lag)]
  | (other, otherLag) :: rest =>
    if partition < other then (partition, lag) :: (other, otherLag) :: rest
    else if partition = other then (partition, lag) :: rest
    else (other, otherLag) :: insertLag partition lag rest

/-- The snapshot of what a probe answers at a moment. Of several entries for a partition the last
counts. -/
def ofOffsets (moment : Nat) (offsets : List PartitionOffsets) : LagSnapshot :=
  ⟨offsets.foldl (fun lags entry => insertLag entry.partition entry.lag lags) [], some moment⟩

/-- The lag of a partition, if it is known. -/
def lag? (snapshot : LagSnapshot) (partition : Nat) : Option Nat :=
  snapshot.lags.lookup partition

/-- The partitions whose lag is below a threshold, ascending. -/
def below (snapshot : LagSnapshot) (threshold : Nat) : List Nat :=
  (snapshot.lags.filter fun entry => entry.2 < threshold).map Prod.fst

/-- Nothing is known. -/
def isEmpty (snapshot : LagSnapshot) : Bool :=
  snapshot.lags.isEmpty

end LagSnapshot

end FrontierBus
