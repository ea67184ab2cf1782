import FrontierBus.Fault

/-!
# Records, messages and reports

A record goes out to a topic with an optional partition and key; a message comes back with the
place where it is stored. A report has the outcome of each record of a delivery, in the same
order.
-/

namespace FrontierBus

/-- Octets are compared by value. -/
instance octetsDecidableEq : DecidableEq ByteArray :=
  ByteArray.instDecidableEq

/-- A record on its way to a topic. Without a partition, the topic chooses one. -/
structure Record where
  partition : Option Nat
  key : Option ByteArray
  payload : ByteArray
  deriving DecidableEq

/-- The octets that a record counts for in limits. -/
def Record.size (record : Record) : Nat :=
  record.payload.size + match record.key with
    | some key => key.size
    | none => 0

/-- A stored record with the partition and offset at which it is stored. -/
structure Message where
  partition : Nat
  offset : Nat
  key : Option ByteArray
  payload : ByteArray
  deriving DecidableEq

/-- The outcomes of a delivery, one per record. -/
structure Report where
  outcomes : List (Except Fault Unit)

namespace Report

/-- The report that gives all records one outcome. -/
def uniform (count : Nat) (outcome : Except Fault Unit) : Report :=
  ⟨List.replicate count outcome⟩

/-- How many records were stored. -/
def acknowledged (report : Report) : Nat :=
  report.outcomes.countP fun outcome => outcome.isOk

/-- Success if every record was stored, else the first fault. -/
def result (report : Report) : Except Fault Unit :=
  report.outcomes.foldr (fun outcome rest => outcome.bind fun _ => rest) (.ok ())

end Report

/-- Which partitions a consumer asks for: one of its own, or a share of those that nobody owns. -/
inductive Assignment where
  | static (partition : Nat)
  | dynamic
  deriving Repr, DecidableEq

namespace Assignment

/-- A named partition is asked for statically. -/
def ofPartition : Option Nat → Assignment
  | some partition => static partition
  | none => dynamic

/-- The assignment in words. -/
def label : Assignment → String
  | static partition => toString partition
  | dynamic => "all"

end Assignment

end FrontierBus
