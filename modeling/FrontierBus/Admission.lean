import FrontierBus.Timeline

/-!
# Admission

Work is handed to a partition only if the group that reads it is not too far behind. A watch looks
at the lags again and again; questions are answered from its last complete look, without waiting.
-/

namespace FrontierBus

/-- The admission of work to the partitions of a topic: a watch of the timeline, and the lag from
which on a partition takes no more. -/
structure Admission where
  watch : Nat
  threshold : Nat
  deriving Repr, DecidableEq

namespace Admission

variable {Log : Type} [Transport Log]

/-- A watch that has seen nothing. -/
def blindWatch (topic group : String) (partitions interval : Nat) (interval_pos : 0 < interval) :
    Watch :=
  { topic, group, partitions, interval, interval_pos
    before := .empty
    latest := .empty
    arrival := 0
    running := true }

/-- Looks once, and then sets the watch up. -/
def start (watch : Watch) (threshold : Nat) (line : Timeline Log) : Admission × Timeline Log :=
  let (watch, asked) := Timeline.look watch line
  let answered := asked.pauseUntil watch.arrival
  (⟨answered.watches.length, threshold⟩,
    { answered with watches := answered.watches ++ [watch] })

/-- What is known of the lags now. -/
def snapshot (admission : Admission) (line : Timeline Log) : LagSnapshot :=
  match line.watches[admission.watch]? with
  | none => .empty
  | some watch => watch.snapshot line.now

/-- The partitions with less lag than a threshold, ascending. -/
def availableBelow (threshold : Nat) (admission : Admission) (line : Timeline Log) : List Nat :=
  (admission.snapshot line).below threshold

/-- The partitions that take work, ascending. -/
def available (admission : Admission) (line : Timeline Log) : List Nat :=
  admission.availableBelow admission.threshold line

/-- A partition takes work: its lag is known and below the threshold. -/
def isAvailable (partition : Nat) (admission : Admission) (line : Timeline Log) : Bool :=
  match (admission.snapshot line).lag? partition with
  | none => false
  | some lag => lag < admission.threshold

/-- The watch looks no more. -/
def cancel (admission : Admission) (line : Timeline Log) : Timeline Log :=
  { line with watches := line.watches.modify admission.watch fun watch =>
      { watch with running := false } }

/-- Ends the watch, after a look that is under way. -/
def stop (admission : Admission) (line : Timeline Log) : Timeline Log :=
  match line.watches[admission.watch]? with
  | none => line
  | some watch =>
    if watch.running then (admission.cancel line).pauseUntil watch.arrival else line

end Admission

end FrontierBus
