import FrontierBus.Producer
import FrontierBus.Proofs.Timeline.Past
import Mathlib.Data.List.Nodup

/-!
# Ledgers

What a producer owes is told by a ledger that knows nothing of buffers: the records that were
taken, in the order in which they were sent, and the places of those that a report has acknowledged
in time. A ledger follows the requests that were made; each delivery among them hands out just what
is outstanding.
-/

namespace FrontierBus

/-- The records that were taken, in the order in which they were sent, and the places of those that
are acknowledged. -/
structure Ledger where
  taken : List Record
  acknowledged : List Nat
  acknowledged_lt : ∀ place ∈ acknowledged, place < taken.length

theorem Report.unacknowledged_nil (records : List Record) :
    unacknowledged records [] = records := by
  cases records with
  | nil => rfl
  | cons record records => rfl

namespace Ledger

/-- Nothing is taken yet. -/
def empty : Ledger :=
  ⟨[], [], by simp⟩

/-- The records that are not acknowledged, with their places. -/
def pending (ledger : Ledger) : List (Record × Nat) :=
  ledger.taken.zipIdx.filter fun entry => !ledger.acknowledged.contains entry.2

/-- The records that are not acknowledged. -/
def outstanding (ledger : Ledger) : List Record :=
  ledger.pending.map Prod.fst

/-- The places of the entries whose own outcome is a success. -/
def served (entries : List (Record × Nat)) (outcomes : List (Except Fault Unit)) : List Nat :=
  ((entries.zip outcomes).filter fun pair => pair.2.isOk).map fun pair => pair.1.2

variable {ledger between after : Ledger} {records : List Record}
  {outcomes : List (Except Fault Unit)} {place : Nat}

theorem mem_of_mem_served {entries : List (Record × Nat)}
    (isServed : place ∈ served entries outcomes) : place ∈ entries.map Prod.snd := by
  rcases List.mem_map.mp isServed with ⟨⟨entry, outcome⟩, paired, rfl⟩
  exact List.mem_map_of_mem (List.of_mem_zip (List.mem_of_mem_filter paired)).1

theorem lt_of_mem_pending (present : place ∈ ledger.pending.map Prod.snd) :
    place < ledger.taken.length := by
  rcases List.mem_map.mp present with ⟨entry, isPending, rfl⟩
  exact List.snd_lt_of_mem_zipIdx (List.mem_of_mem_filter isPending)

/-- The ledger with records taken. -/
def take (ledger : Ledger) (records : List Record) : Ledger where
  taken := ledger.taken ++ records
  acknowledged := ledger.acknowledged
  acknowledged_lt := by
    intro place isAcknowledged
    rw [List.length_append]
    exact Nat.lt_add_right _ (ledger.acknowledged_lt place isAcknowledged)

/-- The ledger after a report on what is outstanding. -/
def acknowledge (ledger : Ledger) (outcomes : List (Except Fault Unit)) : Ledger where
  taken := ledger.taken
  acknowledged := ledger.acknowledged ++ served ledger.pending outcomes
  acknowledged_lt := by
    intro place isAcknowledged
    rcases List.mem_append.mp isAcknowledged with before | now
    · exact ledger.acknowledged_lt place before
    · exact lt_of_mem_pending (mem_of_mem_served now)

@[simp]
theorem taken_take (ledger : Ledger) (records : List Record) :
    (ledger.take records).taken = ledger.taken ++ records := rfl

theorem outstanding_take (ledger : Ledger) (records : List Record) :
    (ledger.take records).outstanding = ledger.outstanding ++ records := by
  simp only [outstanding, pending, take]
  rw [List.zipIdx_append, List.filter_append, List.map_append]
  congr 1
  rw [List.filter_eq_self.mpr, List.zipIdx_map_fst]
  intro entry isNew
  have beyond := List.le_snd_of_mem_zipIdx isNew
  have notAcknowledged : entry.2 ∉ ledger.acknowledged := by
    intro isAcknowledged
    have before := ledger.acknowledged_lt entry.2 isAcknowledged
    omega
  simpa using notAcknowledged

theorem pending_nodup (ledger : Ledger) : (ledger.pending.map Prod.snd).Nodup := by
  refine List.Nodup.sublist (List.filter_sublist.map _) ?_
  rw [List.zipIdx_map_snd]
  exact List.nodup_range'

/-- The entries that are left when those with a success of their own are taken out are the ones
that the report does not acknowledge. -/
theorem map_fst_filter_not_served {entries : List (Record × Nat)}
    (distinct : (entries.map Prod.snd).Nodup) (outcomes : List (Except Fault Unit)) :
    (entries.filter fun entry => !(served entries outcomes).contains entry.2).map Prod.fst =
      Report.unacknowledged (entries.map Prod.fst) outcomes := by
  induction entries generalizing outcomes with
  | nil => simp [Report.unacknowledged]
  | cons entry entries hypothesis =>
      rw [List.map_cons, List.nodup_cons] at distinct
      cases outcomes with
      | nil => simp [served, Report.unacknowledged_nil]
      | cons outcome outcomes =>
          have unchanged := hypothesis distinct.2 outcomes
          cases outcome with
          | ok _ =>
              have isServed : served (entry :: entries) (.ok () :: outcomes) =
                  entry.2 :: served entries outcomes := rfl
              rw [isServed, List.filter_cons_of_neg (by simp), List.map_cons,
                Report.unacknowledged, ← unchanged]
              congr 1
              apply List.filter_congr
              intro other present
              have different : other.2 ≠ entry.2 := by
                intro same
                exact distinct.1 (same ▸ List.mem_map_of_mem present)
              simp [different]
          | error fault =>
              have isServed : served (entry :: entries) (.error fault :: outcomes) =
                  served entries outcomes := rfl
              have notServed : entry.2 ∉ served entries outcomes := by
                intro later
                exact distinct.1 (mem_of_mem_served later)
              rw [isServed, List.filter_cons_of_pos (by simpa using notServed), List.map_cons,
                List.map_cons, Report.unacknowledged, unchanged]

/-- A report leaves outstanding what it does not acknowledge. -/
theorem outstanding_acknowledge (ledger : Ledger) (outcomes : List (Except Fault Unit)) :
    (ledger.acknowledge outcomes).outstanding =
      Report.unacknowledged ledger.outstanding outcomes := by
  simp only [outstanding]
  rw [← map_fst_filter_not_served ledger.pending_nodup]
  congr 1
  unfold pending acknowledge
  simp only [List.filter_filter, pending]
  apply List.filter_congr
  intro entry _
  simp [Bool.and_comm]

/-- What a report tells that comes by a deadline; nothing if it comes later or never. -/
def outcomesBy (deadline moment : Nat) {topic : String} {records : List Record}
    (reply : Reply (.deliver topic records)) : List (Except Fault Unit) :=
  match reply.answer with
  | none => []
  | some report => if moment + reply.delay ≤ deadline then report.outcomes else []

/-- A ledger settles requests: each delivery hands out what is outstanding, and what a report
acknowledges by the deadline is not outstanding any more. -/
inductive Settles (topic : String) (deadline : Nat) : Ledger → List Exchange → Ledger → Prop where
  | done (ledger : Ledger) : Settles topic deadline ledger [] ledger
  | aside {ledger after : Ledger} {exchange : Exchange} {made : List Exchange}
      (notDelivery : exchange.isDelivery = false)
      (rest : Settles topic deadline ledger made after) :
      Settles topic deadline ledger (exchange :: made) after
  | delivered {ledger after : Ledger} {moment : Nat}
      {reply : Reply (.deliver topic ledger.outstanding)} {made : List Exchange}
      (rest : Settles topic deadline (ledger.acknowledge (outcomesBy deadline moment reply)) made
        after) :
      Settles topic deadline ledger (⟨moment, .deliver topic ledger.outstanding, reply⟩ :: made)
        after

/-- A ledger settles the requests of a flush, which begins with a delivery and waits for reports for
some time from then on. A flush that finds nothing to deliver makes no delivery. -/
inductive Flushes (topic : String) (patience : Nat) : Ledger → List Exchange → Ledger → Prop where
  | idle {ledger : Ledger} {made : List Exchange} (quiet : Timeline.Quiet made) :
      Flushes topic patience ledger made ledger
  | started {ledger after : Ledger} {moment : Nat}
      {reply : Reply (.deliver topic ledger.outstanding)} {made : List Exchange}
      (settles : Settles topic (moment + patience) ledger
        (⟨moment, .deliver topic ledger.outstanding, reply⟩ :: made) after) :
      Flushes topic patience ledger (⟨moment, .deliver topic ledger.outstanding, reply⟩ :: made)
        after

variable {topic : String} {deadline patience : Nat} {front back made : List Exchange}

theorem Settles.quiet (quiet : Timeline.Quiet made) :
    Settles topic deadline ledger made ledger := by
  induction made with
  | nil => exact .done ledger
  | cons exchange made hypothesis =>
      rw [Timeline.Quiet, List.forall_mem_cons] at quiet
      exact .aside quiet.1 (hypothesis quiet.2)

theorem Settles.append (first : Settles topic deadline ledger front between)
    (second : Settles topic deadline between back after) :
    Settles topic deadline ledger (front ++ back) after := by
  induction first with
  | done => exact second
  | aside notDelivery _ hypothesis => exact .aside notDelivery (hypothesis second)
  | delivered _ hypothesis => exact .delivered (hypothesis second)

theorem Settles.taken_eq (settles : Settles topic deadline ledger made after) :
    after.taken = ledger.taken := by
  induction settles with
  | done => rfl
  | aside _ _ hypothesis => exact hypothesis
  | delivered _ hypothesis => exact hypothesis

theorem Flushes.nothing (topic : String) (patience : Nat) (ledger : Ledger) :
    Flushes topic patience ledger [] ledger :=
  .idle .nothing

theorem Flushes.append_quiet (flushes : Flushes topic patience ledger front after)
    (quiet : Timeline.Quiet back) : Flushes topic patience ledger (front ++ back) after := by
  cases flushes with
  | idle frontQuiet => exact .idle (frontQuiet.append quiet)
  | started settles => exact .started (settles.append (.quiet quiet))

theorem Flushes.taken_eq (flushes : Flushes topic patience ledger made after) :
    after.taken = ledger.taken := by
  cases flushes with
  | idle => rfl
  | started settles => exact settles.taken_eq

end Ledger

end FrontierBus
