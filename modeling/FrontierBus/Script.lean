import FrontierBus.Request

/-!
# A scripted log

A transport whose answers are written beforehand: for each kind of request a list of entries, of
which each request takes the next and the last one stays. Where nothing is written the answer is a
plain success.
-/

namespace FrontierBus

/-- What is written for a request. -/
structure Script.Entry (Value : Type) where
  delay : Nat
  outcome : Except Fault Value

/-- What is written for a delivery. -/
inductive Script.Delivery where
  /-- No report ever comes. -/
  | silent
  /-- The same outcome for every record. -/
  | uniform (delay : Nat) (outcome : Except Fault Unit)
  /-- A report as it stands, whatever the number of records. -/
  | report (delay : Nat) (outcomes : List (Except Fault Unit))

/-- A log whose answers are written beforehand. -/
structure Script where
  partitionCount : List (Script.Entry Nat)
  join : List (Script.Entry Unit)
  openProducer : List (Script.Entry Unit)
  openProbe : List (Script.Entry Unit)
  poll : List (Script.Entry (List Message))
  position : List (Script.Entry Nat)
  committed : List (Script.Entry (Option Nat))
  commit : List (Script.Entry Unit)
  deliver : List Script.Delivery
  offsets : List (Script.Entry (List PartitionOffsets))
  /-- The partitions that every session owns. -/
  assigned : List Nat

namespace Script

/-- The next entry, and the entries for later. The last one stays. -/
def next {Item : Type} (default : Item) : List Item → Item × List Item
  | [] => (default, [])
  | [last] => (last, [last])
  | entry :: rest => (entry, rest)

/-- The plain success. -/
def Entry.plain {Value : Type} (value : Value) : Entry Value :=
  ⟨0, .ok value⟩

/-- The answer to a delivery of `count` records, with its delay. -/
def Delivery.reply (count : Nat) : Delivery → Nat × Option Report
  | silent => (0, none)
  | uniform delay outcome => (delay, some (.uniform count outcome))
  | report delay outcomes => (delay, some ⟨outcomes⟩)

/-- Serves a request by the next entry for its kind. -/
def serve (request : Request) (script : Script) : Reply request × Script :=
  match request with
  | .partitionCount _ =>
    let (entry, rest) := next (Entry.plain 0) script.partitionCount
    (⟨entry.delay, entry.outcome⟩, { script with partitionCount := rest })
  | .join .. =>
    let (entry, rest) := next (Entry.plain ()) script.join
    (⟨entry.delay, entry.outcome.map fun _ => 0⟩, { script with join := rest })
  | .openProducer .. =>
    let (entry, rest) := next (Entry.plain ()) script.openProducer
    (⟨entry.delay, entry.outcome⟩, { script with openProducer := rest })
  | .openProbe .. =>
    let (entry, rest) := next (Entry.plain ()) script.openProbe
    (⟨entry.delay, entry.outcome⟩, { script with openProbe := rest })
  | .poll .. =>
    let (entry, rest) := next (Entry.plain []) script.poll
    (⟨entry.delay, entry.outcome.map some⟩, { script with poll := rest })
  | .position .. =>
    let (entry, rest) := next (Entry.plain 0) script.position
    (⟨entry.delay, entry.outcome⟩, { script with position := rest })
  | .committed .. =>
    let (entry, rest) := next (Entry.plain none) script.committed
    (⟨entry.delay, entry.outcome⟩, { script with committed := rest })
  | .commit _ =>
    let (entry, rest) := next (Entry.plain ()) script.commit
    (⟨entry.delay, entry.outcome⟩, { script with commit := rest })
  | .leave _ => (⟨0, ()⟩, script)
  | .deliver _ records =>
    let (entry, rest) := next (Delivery.uniform 0 (.ok ())) script.deliver
    let (delay, report) := entry.reply records.length
    (⟨delay, report⟩, { script with deliver := rest })
  | .closeProducer _ => (⟨0, ()⟩, script)
  | .offsets .. =>
    let (entry, rest) := next (Entry.plain []) script.offsets
    (⟨entry.delay, entry.outcome⟩, { script with offsets := rest })

instance : Transport Script where
  serve := serve
  assigned _ script := script.assigned
  setsDeadline _ _ := false
  arrivals _ := 0
  arrivals_poll _ _ _ _ := rfl
  Event := Empty
  Outcome := nofun
  happen event := nomatch event

end Script

end FrontierBus
