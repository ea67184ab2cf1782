import FrontierBus.Proofs.Producer.Budget
import FrontierBus.Proofs.Producer.Lifetime
import FrontierBus.Proofs.Producer.Reports
import FrontierBus.Proofs.Timeline.Reckoning

/-!
# The pace of a flush

A flush delivers what is held back, and delivers again what a report has left, after a wait that
grows from one attempt to the next. It gives up as soon as no attempt is spare or the deadline would
come first, so it is bounded both in time and in deliveries, whatever is answered. It panics if its
deadline has no number, or the end of a wait that it plans.
-/

namespace FrontierBus

/-- Among limits that are in order there is some time for a delivery. -/
theorem Connection.maxBlock_pos_of_check {connection : Connection} {isFile : String → Bool}
    (valid : connection.check isFile = .ok ()) : 0 < connection.maxBlock := by
  apply Nat.pos_of_ne_zero
  intro none
  simp only [check, none, if_true] at valid
  split at valid
  · cases valid
  · split at valid
    · cases valid
    · split at valid
      · cases valid
      · cases valid

theorem Producer.maxAttempts_backoff (producer : Producer) :
    1 ≤ producer.backoff.maxAttempts ∧
      producer.backoff.maxAttempts ≤ producer.connection.retries + 1 := by
  have bounds : producer.backoff.maxAttempts =
      max (min (producer.connection.retries + 1) (Word.count32 - 1)) 1 := rfl
  omega

namespace Report

/-- The records that outcomes leave: all but those whose own outcome, by their places, is a success.
-/
def left (records : List Record) (outcomes : List (Except Fault Unit)) : List Record :=
  (records.zipIdx.filter fun entry => !(outcomes[entry.2]?.any Except.isOk)).map Prod.fst

theorem mem_served_zipIdx {records : List Record} {outcomes : List (Except Fault Unit)}
    {entry : Record × Nat} (present : entry ∈ records.zipIdx) :
    entry.2 ∈ Ledger.served records.zipIdx outcomes ↔
      outcomes[entry.2]?.any Except.isOk = true := by
  rcases entry with ⟨record, place⟩
  have isThere := List.mk_mem_zipIdx_iff_getElem?.mp present
  simp only [Ledger.served, List.mem_map, List.mem_filter, Option.any_eq_true]
  constructor
  · rintro ⟨⟨entry, outcome⟩, ⟨paired, isOk⟩, isPlace⟩
    rcases List.mem_iff_getElem?.mp paired with ⟨index, isPair⟩
    rcases List.getElem?_zip_eq_some.mp isPair with ⟨isEntry, isOutcome⟩
    rw [List.getElem?_zipIdx, Nat.zero_add] at isEntry
    rcases Option.map_eq_some_iff.mp isEntry with ⟨_, _, rfl⟩
    cases isPlace
    exact ⟨outcome, isOutcome, isOk⟩
  · rintro ⟨outcome, isOutcome, isOk⟩
    refine ⟨((record, place), outcome), ⟨?_, isOk⟩, rfl⟩
    refine List.mem_iff_getElem?.mpr ⟨place, List.getElem?_zip_eq_some.mpr ⟨?_, isOutcome⟩⟩
    rw [List.getElem?_zipIdx, isThere, Nat.zero_add]
    rfl

/-- What a report does not acknowledge, record by record, is what it leaves. -/
theorem unacknowledged_eq_left (records : List Record) (outcomes : List (Except Fault Unit)) :
    unacknowledged records outcomes = left records outcomes := by
  have distinct : (records.zipIdx.map Prod.snd).Nodup := by
    rw [List.zipIdx_map_snd]
    exact List.nodup_range'
  have kept := Ledger.map_fst_filter_not_served distinct outcomes
  rw [List.zipIdx_map_fst] at kept
  rw [← kept, left]
  congr 1
  apply List.filter_congr
  intro entry present
  congr 1
  rw [Bool.eq_iff_iff, List.contains_iff_mem]
  exact mem_served_zipIdx present

/-- The first fault that outcomes tell of records, or that some record has none. -/
def fault (records : List Record) (outcomes : List (Except Fault Unit)) : Fault :=
  match (outcomes.take records.length).find? fun outcome => !outcome.isOk with
  | some (.error fault) => fault
  | _ => .refused .missingOutcome

theorem firstFault_eq_fault (records : List Record) (outcomes : List (Except Fault Unit)) :
    (firstFault records outcomes).getD (.refused .missingOutcome) = fault records outcomes := by
  induction records generalizing outcomes with
  | nil => simp [firstFault, fault]
  | cons record records hypothesis =>
      cases outcomes with
      | nil => rfl
      | cons outcome outcomes =>
          cases outcome with
          | ok _ => exact hypothesis outcomes
          | error fault => rfl

end Report

namespace Exchange

/-- The records that are handed over, if it is a delivery. -/
def handed (exchange : Exchange) : List Record :=
  match exchange.request with
  | .deliver _ records => records
  | _ => []

/-- The report that answers it, if it is a delivery and one ever comes. -/
def report? : Exchange → Option Report
  | ⟨_, .deliver _ _, reply⟩ => reply.answer
  | _ => none

/-- When the answer comes, if one comes. -/
def arrival (exchange : Exchange) : Nat :=
  exchange.moment + exchange.reply.delay

/-- The report that has come by a moment. -/
def reportBy (moment : Nat) (exchange : Exchange) : Option Report :=
  if exchange.arrival ≤ moment then exchange.report? else none

/-- The records that a delivery leaves: all but those that its report, if it comes by a moment,
acknowledges. -/
def leftBy (moment : Nat) (exchange : Exchange) : List Record :=
  Report.left exchange.handed (exchange.outcomesBy moment)

/-- The fault that the report of a delivery tells, if it comes by a moment. -/
def faultBy (moment : Nat) (exchange : Exchange) : Fault :=
  Report.fault exchange.handed (exchange.outcomesBy moment)

theorem outcomesBy_eq (moment : Nat) (exchange : Exchange) :
    exchange.outcomesBy moment = ((exchange.reportBy moment).map Report.outcomes).getD [] := by
  rcases exchange with ⟨start, request, reply⟩
  cases request with
  | deliver topic records =>
      simp only [outcomesBy, Ledger.outcomesBy, reportBy, report?, arrival]
      split
      · simp [*]
      · split
        · simp [*]
        · simp [*]
  | _ => simp [outcomesBy, reportBy, report?]

/-- One delivery is followed by another: its report has come and leaves some records, for a reason
that is expected to pass, and they are handed over again as soon as the wait after this attempt is
over. -/
structure Precedes (topic : String) (policy : Backoff) (deadline attempt : Nat)
    (earlier later : Exchange) : Prop where
  reported : (earlier.reportBy deadline).isSome = true
  unfinished : earlier.leftBy deadline ≠ []
  passing : (earlier.faultBy deadline).isTransient = true
  moment_eq : later.moment = earlier.arrival + policy.delay attempt
  request_eq : later.request = .deliver topic (earlier.leftBy deadline)

/-- No delivery follows one that was the `attempt`th of at most `most`, and this is answered, at this
moment: all is acknowledged; no report has come by the deadline; the wait after this attempt would
not be over before the deadline; no attempt is spare; or the fault is not expected to pass. -/
inductive Concludes (policy : Backoff) (timeout : Fault) (deadline most attempt : Nat)
    (last : Exchange) : Except Fault Unit → Nat → Prop where
  | complete (reported : (last.reportBy deadline).isSome = true)
      (nothing : last.leftBy deadline = []) :
      Concludes policy timeout deadline most attempt last (.ok ()) last.arrival
  | late (untold : last.reportBy deadline = none) :
      Concludes policy timeout deadline most attempt last (.error timeout) deadline
  | beyond (reported : (last.reportBy deadline).isSome = true)
      (passing : (last.faultBy deadline).isTransient = true) (spare : attempt < most)
      (tooLate : deadline ≤ last.arrival + policy.delay attempt) :
      Concludes policy timeout deadline most attempt last (.error timeout) deadline
  | exhausted (reported : (last.reportBy deadline).isSome = true)
      (passing : (last.faultBy deadline).isTransient = true) (noneSpare : attempt = most) :
      Concludes policy timeout deadline most attempt last (.error (last.faultBy deadline))
        last.arrival
  | permanent (reported : (last.reportBy deadline).isSome = true)
      (lasting : (last.faultBy deadline).isTransient = false) :
      Concludes policy timeout deadline most attempt last (.error (last.faultBy deadline))
        last.arrival

/-- After the `attempt`th of at most `most` deliveries another one is wanted, and the wait before it
would end at a moment that has no number. -/
structure Overruns (policy : Backoff) (deadline most attempt : Nat) (round : Exchange) : Prop where
  reported : (round.reportBy deadline).isSome = true
  unfinished : round.leftBy deadline ≠ []
  passing : (round.faultBy deadline).isTransient = true
  spare : attempt < most
  beyond : Moment.last < round.arrival + policy.delay attempt

theorem exists_overruns_cons {policy : Backoff} {deadline most attempt : Nat} {first : Exchange}
    {rest : List Exchange} :
    (∃ (index : Nat) (round : Exchange), (first :: rest)[index]? = some round ∧
        round.Overruns policy deadline most (attempt + index)) ↔
      first.Overruns policy deadline most attempt ∨
        ∃ (index : Nat) (round : Exchange), rest[index]? = some round ∧
          round.Overruns policy deadline most (attempt + 1 + index) := by
  rw [← Nat.or_exists_add_one]
  simp [Nat.add_assoc, Nat.add_comm 1]

end Exchange

theorem Timeline.Quiet.filter_isDelivery {made : List Exchange} (quiet : Timeline.Quiet made) :
    made.filter Exchange.isDelivery = [] := by
  apply List.filter_eq_nil_iff.mpr
  intro exchange isMade
  rw [quiet exchange isMade]
  decide

namespace Producer

variable {Log : Type} [Transport Log] {producer changed last : Producer}
  {line between ended : Timeline Log} {deadline most attempt : Nat} {delivery : Delivery}
  {answer : Except Fault Unit} {rounds : List Exchange}

/-- The request for a delivery of what a producer holds back. -/
def request (producer : Producer) : Request :=
  .deliver producer.topic producer.buffer.toList

/-- That request as it is made at the present moment, and answered. -/
def asking (producer : Producer) (line : Timeline Log) : Exchange :=
  ⟨line.now, producer.request, (line.serve producer.request).1⟩

/-- What is made of a delivery that is waited for until a deadline, and when. -/
def Delivery.Tells (deadline : Nat) (round : Exchange) (now : Nat) : Delivery → Prop
  | .complete => (round.reportBy deadline).isSome = true ∧ round.leftBy deadline = [] ∧
      now = round.arrival
  | .failed fault => (round.reportBy deadline).isSome = true ∧ round.leftBy deadline ≠ [] ∧
      now = round.arrival ∧ fault = round.faultBy deadline
  | .late => round.reportBy deadline = none ∧ now = deadline

/-- What a delivery that is waited for until a deadline comes to: no other one is made, and the
producer holds back what it has left. -/
structure Round (deadline : Nat) (producer : Producer) (line : Timeline Log) (delivery : Delivery)
    (changed : Producer) (ended : Timeline Log) : Prop where
  makes : ∃ waited, line.Makes (producer.asking line :: waited) ended ∧ Timeline.Quiet waited
  held_eq : changed.buffer.toList = (producer.asking line).leftBy deadline
  topic_eq : changed.topic = producer.topic
  connection_eq : changed.connection = producer.connection
  le_deadline : ended.now ≤ deadline
  panicked_eq : ended.panicked = line.panicked
  tells : delivery.Tells deadline (producer.asking line) ended.now

theorem Round.backoff_eq (round : Round deadline producer line delivery changed ended) :
    changed.backoff = producer.backoff := by
  rw [backoff, round.connection_eq, backoff]

theorem Round.timeout_eq (round : Round deadline producer line delivery changed ended) :
    changed.timeout = producer.timeout := by
  rw [timeout, round.connection_eq, timeout]

theorem toList_settle (producer : Producer) (report : Report) :
    (producer.settle report).2.buffer.toList =
      Report.left producer.buffer.toList report.outcomes := by
  rw [← Report.unacknowledged_eq_left]
  simp [settle, Buffer.ofRecords, Buffer.toList]

/-- What a producer makes of a report. -/
def settled : Option Fault → Delivery
  | none => .complete
  | some fault => .failed fault

theorem fst_settle (producer : Producer) (report : Report) :
    (producer.settle report).1 =
      if Report.left producer.buffer.toList report.outcomes = [] then none
      else some (Report.fault producer.buffer.toList report.outcomes) := by
  rw [← Report.unacknowledged_eq_left, ← Report.firstFault_eq_fault]
  simp only [settle, List.isEmpty_iff]

/-- Waiting after a delivery, until a moment that has not passed. -/
theorem waits_asking {moment : Nat} (notPast : line.now ≤ moment) (producer : Producer) :
    (∃ waited, line.Makes (producer.asking line :: waited)
        ((line.serve producer.request).2.pauseUntil moment) ∧ Timeline.Quiet waited) ∧
      ((line.serve producer.request).2.pauseUntil moment).now = moment := by
  have asks := Timeline.makes_serve producer.request line
  have sameMoment : (line.serve producer.request).2.now = line.now := rfl
  rcases Timeline.makes_pauseUntil moment (line.serve producer.request).2 with
    ⟨waited, waits, quiet⟩
  refine ⟨⟨waited, asks.trans waits, quiet⟩, ?_⟩
  rw [Timeline.now_pauseUntil, sameMoment]
  omega

/-- No report comes in time: all is still held back at the deadline. -/
theorem round_of_late (inTime : line.now ≤ deadline)
    (untold : (producer.asking line).reportBy deadline = none) :
    Round deadline producer line .late producer
      ((line.serve producer.request).2.pauseUntil deadline) where
  makes := (waits_asking inTime producer).1
  held_eq := by
    rw [Exchange.leftBy, Exchange.outcomesBy_eq, untold, ← Report.unacknowledged_eq_left]
    exact (Report.unacknowledged_nil _).symm
  topic_eq := rfl
  connection_eq := rfl
  le_deadline := Nat.le_of_eq (waits_asking inTime producer).2
  panicked_eq := Timeline.panicked_pauseUntil deadline _
  tells := ⟨untold, (waits_asking inTime producer).2⟩

/-- A report comes in time: what it leaves is held back when it comes. -/
theorem round_of_report {report : Report}
    (reported : (line.serve producer.request).1.answer = some report)
    (came : line.now + (line.serve producer.request).1.delay ≤ deadline) :
    Round deadline producer line (settled (producer.settle report).1) (producer.settle report).2
      ((line.serve producer.request).2.pauseUntil
        (line.now + (line.serve producer.request).1.delay)) := by
  have waits :=
    waits_asking (Nat.le_add_right line.now (line.serve producer.request).1.delay) producer
  have reportBy_eq : (producer.asking line).reportBy deadline = some report := by
    rw [Exchange.reportBy]
    exact (if_pos came).trans reported
  have outcomes_eq : (producer.asking line).outcomesBy deadline = report.outcomes := by
    rw [Exchange.outcomesBy_eq, reportBy_eq]
    rfl
  have left_eq : (producer.asking line).leftBy deadline =
      Report.left producer.buffer.toList report.outcomes := by
    rw [Exchange.leftBy, outcomes_eq]
    rfl
  have isSome : ((producer.asking line).reportBy deadline).isSome = true := by
    rw [reportBy_eq]
    rfl
  refine ⟨waits.1, ?_, rfl, rfl, ?_, Timeline.panicked_pauseUntil _ _, ?_⟩
  · rw [toList_settle, left_eq]
  · rw [waits.2]
    exact came
  · rw [fst_settle]
    split
    · rename_i nothing
      exact ⟨isSome, left_eq.trans nothing, waits.2⟩
    · rename_i something
      refine ⟨isSome, left_eq ▸ something, waits.2, ?_⟩
      rw [Exchange.faultBy, outcomes_eq]
      rfl

theorem deliverBy_round (inTime : line.now ≤ deadline) (producer : Producer) :
    Round deadline producer line (producer.deliverBy deadline line).1
      (producer.deliverBy deadline line).2.1 (producer.deliverBy deadline line).2.2 := by
  have sameMoment :
      (line.serve (.deliver producer.topic producer.buffer.toList)).2.now = line.now := rfl
  simp only [deliverBy, sameMoment]
  split
  · rename_i silent
    apply round_of_late inTime
    rw [Exchange.reportBy]
    split
    · exact silent
    · rfl
  · rename_i report reported
    split
    · rename_i came
      have round := round_of_report reported came
      split
      · rename_i changed isChanged
        rwa [isChanged] at round
      · rename_i fault changed isChanged
        rwa [isChanged] at round
    · rename_i notCome
      exact round_of_late inTime (if_neg notCome)

/-- From one timeline to a later one deliveries are made, the first one at once and of what is held
back, each further one after a wait; none begins at the deadline, and there is one for each attempt
at most. What is held back in the end is what all of them have left. -/
structure Paced (deadline most attempt : Nat) (producer : Producer) (line : Timeline Log)
    (answer : Except Fault Unit) (changed : Producer) (ended : Timeline Log)
    (rounds : List Exchange) : Prop where
  makes : ∃ made, line.Makes made ended ∧ made.filter Exchange.isDelivery = rounds
  begins : ∃ rest, rounds = producer.asking line :: rest
  length_le : attempt + rounds.length ≤ most + 1
  early : ∀ round ∈ rounds, round.moment < deadline
  goesOn : ∀ index earlier later, rounds[index]? = some earlier → rounds[index + 1]? = some later →
    Exchange.Precedes producer.topic producer.backoff deadline (attempt + index) earlier later
  concludes : ∃ index last, rounds.length = index + 1 ∧ rounds[index]? = some last ∧
    Exchange.Concludes producer.backoff producer.timeout deadline most (attempt + index) last answer
      ended.now
  held_eq : changed.buffer.toList = rounds.foldl
    (fun kept round => Report.left kept (round.outcomesBy deadline)) producer.buffer.toList
  le_deadline : ended.now ≤ deadline
  panicked_iff : ended.panicked = true ↔ line.panicked = true ∨
    ∃ (index : Nat) (round : Exchange), rounds[index]? = some round ∧
      round.Overruns producer.backoff deadline most (attempt + index)

/-- A delivery with a wait behind it or none, and no other one after it. -/
structure Sole (deadline most attempt : Nat) (producer : Producer) (line : Timeline Log)
    (answer : Except Fault Unit) (changed : Producer) (ended : Timeline Log) : Prop where
  makes : ∃ waited, line.Makes (producer.asking line :: waited) ended ∧ Timeline.Quiet waited
  held_eq : changed.buffer.toList = (producer.asking line).leftBy deadline
  concludes : Exchange.Concludes producer.backoff producer.timeout deadline most attempt
    (producer.asking line) answer ended.now
  le_deadline : ended.now ≤ deadline
  panicked_iff : ended.panicked = true ↔ line.panicked = true ∨
    (producer.asking line).Overruns producer.backoff deadline most attempt

theorem Sole.filter_since (sole : Sole deadline most attempt producer line answer changed ended) :
    (line.since ended).filter Exchange.isDelivery = [producer.asking line] := by
  rcases sole.makes with ⟨waited, makes, quiet⟩
  rw [makes.since_eq, List.filter_cons_of_pos rfl, quiet.filter_isDelivery]

theorem Sole.paced (sole : Sole deadline most attempt producer line answer changed ended)
    (inTime : line.now < deadline) (spare : attempt ≤ most) :
    Paced deadline most attempt producer line answer changed ended [producer.asking line] where
  makes := by
    rcases sole.makes with ⟨waited, makes, quiet⟩
    exact ⟨_, makes, by rw [List.filter_cons_of_pos rfl, quiet.filter_isDelivery]⟩
  begins := ⟨[], rfl⟩
  length_le := Nat.succ_le_succ spare
  early := List.forall_mem_singleton.mpr inTime
  goesOn := by
    intro index earlier later _ isLater
    cases isLater
  concludes := ⟨0, _, rfl, rfl, sole.concludes⟩
  held_eq := sole.held_eq
  le_deadline := sole.le_deadline
  panicked_iff := by
    rw [sole.panicked_iff, Exchange.exists_overruns_cons]
    simp

theorem Round.sole (round : Round deadline producer line delivery changed ended)
    (concludes : Exchange.Concludes producer.backoff producer.timeout deadline most attempt
      (producer.asking line) answer ended.now)
    (plansNone : ¬ (producer.asking line).Overruns producer.backoff deadline most attempt) :
    Sole deadline most attempt producer line answer changed ended where
  makes := round.makes
  held_eq := round.held_eq
  concludes := concludes
  le_deadline := round.le_deadline
  panicked_iff := by
    rw [round.panicked_eq]
    simp [plansNone]

/-- Another delivery is wanted: the end of the wait before it has no number, or else it is
planned. -/
theorem Round.panicked_reckon {fault : Fault}
    (round : Round deadline producer line (.failed fault) changed between)
    (transient : fault.isTransient = true) (spare : attempt < most) :
    (between.reckon (between.now + changed.backoff.delay attempt)).panicked = true ↔
      line.panicked = true ∨
        (producer.asking line).Overruns producer.backoff deadline most attempt := by
  rcases round.tells with ⟨reported, unfinished, arrived, rfl⟩
  rw [Timeline.panicked_reckon, round.panicked_eq, arrived, round.backoff_eq]
  exact or_congr_right ⟨fun beyond => ⟨reported, unfinished, transient, spare, beyond⟩,
    fun overruns => overruns.beyond⟩

/-- A delivery whose report has come and leaves something, the wait after it, and what follows. -/
theorem Round.again {fault : Fault}
    (round : Round deadline producer line (.failed fault) changed between)
    (transient : fault.isTransient = true) (inTime : line.now < deadline)
    (rest : Paced deadline most (attempt + 1) changed
      ((between.reckon (between.now + changed.backoff.delay attempt)).pauseUntil
        (between.now + changed.backoff.delay attempt)) answer last ended rounds) :
    Paced deadline most attempt producer line answer last ended (producer.asking line :: rounds) := by
  have spare : attempt < most := by
    have few := rest.length_le
    rcases rest.begins with ⟨further, rfl⟩
    rw [List.length_cons] at few
    omega
  have panicked_iff := round.panicked_reckon transient spare
  rcases round.tells with ⟨reported, unfinished, arrived, rfl⟩
  refine ⟨?_, ⟨rounds, rfl⟩, ?_, List.forall_mem_cons.mpr ⟨inTime, rest.early⟩, ?_, ?_, ?_,
    rest.le_deadline, ?_⟩
  · rcases round.makes with ⟨waited, makes, quiet⟩
    rcases Timeline.makes_pauseUntil (between.now + changed.backoff.delay attempt)
      (between.reckon (between.now + changed.backoff.delay attempt)) with
      ⟨more, waits, quietMore⟩
    rcases rest.makes with ⟨made, makesRest, areRounds⟩
    refine ⟨_, (makes.trans waits).trans makesRest, ?_⟩
    rw [List.filter_append, areRounds, List.cons_append, List.filter_cons_of_pos rfl,
      (quiet.append quietMore).filter_isDelivery]
    rfl
  · have few := rest.length_le
    rw [List.length_cons]
    omega
  · intro index earlier later isEarlier isLater
    cases index with
    | zero =>
        rcases rest.begins with ⟨further, rfl⟩
        cases isEarlier
        cases isLater
        refine ⟨reported, unfinished, transient, ?_, ?_⟩
        · change ((between.reckon _).pauseUntil _).now = _
          rw [Timeline.now_pauseUntil, ← arrived, ← round.backoff_eq]
          exact Nat.max_eq_right (Nat.le_add_right _ _)
        · change Request.deliver changed.topic changed.buffer.toList = _
          rw [round.topic_eq, round.held_eq]
    | succ index =>
        have follows := rest.goesOn index earlier later isEarlier isLater
        rw [round.topic_eq, round.backoff_eq, Nat.add_assoc, Nat.add_comm 1] at follows
        exact follows
  · rcases rest.concludes with ⟨index, final, isLength, isFinal, concludes⟩
    rw [round.backoff_eq, round.timeout_eq, Nat.add_assoc, Nat.add_comm 1] at concludes
    exact ⟨index + 1, final, congrArg Nat.succ isLength, isFinal, concludes⟩
  · rw [rest.held_eq, round.held_eq]
    rfl
  · rw [rest.panicked_iff, Timeline.panicked_pauseUntil, panicked_iff, or_assoc, round.backoff_eq,
      Exchange.exists_overruns_cons]

/-- Either the delivery is the only one, or its report leaves something for a reason that is expected
to pass, an attempt is spare, and the wait is over before the deadline. -/
theorem deliveries_cases (spare attempt : Nat) (producer : Producer) (inTime : line.now ≤ deadline) :
    Sole deadline (attempt + spare) attempt producer line
        (producer.deliveries deadline spare attempt line).1
        (producer.deliveries deadline spare attempt line).2.1
        (producer.deliveries deadline spare attempt line).2.2 ∨
      ∃ fewer fault changed between, spare = fewer + 1 ∧
        Round deadline producer line (.failed fault) changed between ∧
        fault.isTransient = true ∧ between.now + changed.backoff.delay attempt < deadline ∧
        producer.deliveries deadline spare attempt line =
          changed.deliveries deadline fewer (attempt + 1)
            ((between.reckon (between.now + changed.backoff.delay attempt)).pauseUntil
              (between.now + changed.backoff.delay attempt)) := by
  have round := deliverBy_round inTime producer
  fun_cases deliveries deadline spare attempt producer line with
  | case1 spare attempt producer line changed later delivered =>
      rw [delivered] at round
      rcases round.tells with ⟨reported, nothing, arrived⟩
      refine Or.inl (round.sole ?_ fun overruns => overruns.unfinished nothing)
      rw [arrived]
      exact .complete reported nothing
  | case2 spare attempt producer line changed later delivered =>
      rw [delivered] at round
      rcases round.tells with ⟨untold, atDeadline⟩
      have untoldStill : ¬ ((producer.asking line).reportBy deadline).isSome = true := by
        simp [untold]
      refine Or.inl (round.sole ?_ fun overruns => untoldStill overruns.reported)
      rw [atDeadline, round.timeout_eq]
      exact .late untold
  | case3 attempt producer line fault changed later delivered transient =>
      rw [delivered] at round
      rcases round.tells with ⟨reported, _, arrived, rfl⟩
      refine Or.inl (round.sole ?_ fun overruns => Nat.lt_irrefl _ overruns.spare)
      rw [arrived]
      exact .exhausted reported transient rfl
  | case4 attempt producer line fault changed later delivered transient spare next reckoned
      beyond =>
      rw [delivered] at round
      have isSpare : attempt < attempt + (spare + 1) := Nat.lt_add_of_pos_right (Nat.succ_pos spare)
      have panicked_iff := round.panicked_reckon transient isSpare
      rcases round.tells with ⟨reported, _, arrived, rfl⟩
      have atDeadline : ((later.reckon next).pauseUntil deadline).now = deadline := by
        rw [Timeline.now_pauseUntil]
        exact Nat.max_eq_right round.le_deadline
      have tooLate : deadline ≤ later.now + changed.backoff.delay attempt := beyond
      rw [arrived, round.backoff_eq] at tooLate
      rcases round.makes with ⟨waited, makes, quiet⟩
      rcases Timeline.makes_pauseUntil deadline (later.reckon next) with ⟨more, waits, quietMore⟩
      refine Or.inl ⟨⟨_, makes.trans waits, quiet.append quietMore⟩, round.held_eq, ?_,
        Nat.le_of_eq atDeadline, ?_⟩
      · rw [atDeadline, round.timeout_eq]
        exact .beyond reported transient isSpare tooLate
      · rw [Timeline.panicked_pauseUntil]
        exact panicked_iff
  | case5 attempt producer line fault changed later delivered transient spare next reckoned
      notBeyond =>
      rw [delivered] at round
      exact Or.inr ⟨spare, fault, changed, later, rfl, round, transient, Nat.lt_of_not_le notBeyond,
        rfl⟩
  | case6 spare attempt producer line fault changed later delivered permanent =>
      rw [delivered] at round
      rcases round.tells with ⟨reported, _, arrived, rfl⟩
      refine Or.inl (round.sole ?_ fun overruns => permanent overruns.passing)
      rw [arrived]
      exact .permanent reported (by simpa using permanent)

theorem deliveries_paced (spare attempt : Nat) (producer : Producer)
    (inTime : line.now < deadline) :
    ∃ rounds, Paced deadline (attempt + spare) attempt producer line
      (producer.deliveries deadline spare attempt line).1
      (producer.deliveries deadline spare attempt line).2.1
      (producer.deliveries deadline spare attempt line).2.2 rounds := by
  induction spare generalizing attempt producer line with
  | zero =>
      rcases deliveries_cases 0 attempt producer (Nat.le_of_lt inTime) with sole | ⟨_, _, _, _, none, _⟩
      · exact ⟨_, sole.paced inTime (Nat.le_refl attempt)⟩
      · cases none
  | succ fewer hypothesis =>
      rcases deliveries_cases (fewer + 1) attempt producer (Nat.le_of_lt inTime) with
        sole | ⟨_, fault, changed, between, ⟨⟩, round, transient, notBeyond, isRest⟩
      · exact ⟨_, sole.paced inTime (Nat.le_add_right _ _)⟩
      · have begins :
            ((between.reckon (between.now + changed.backoff.delay attempt)).pauseUntil
              (between.now + changed.backoff.delay attempt)).now < deadline := by
          rw [Timeline.now_pauseUntil, Timeline.now_reckon]
          omega
        rcases hypothesis (attempt + 1) changed begins with ⟨rounds, rest⟩
        rw [Nat.add_assoc, Nat.add_comm 1, ← isRest] at rest
        exact ⟨_, round.again transient inTime rest⟩

/-- A flush succeeds just if nothing is held back in the end. -/
theorem flush_eq_ok_iff :
    (producer.flush line).1 = .ok () ↔ (producer.flush line).2.1.buffer.toList = [] := by
  constructor
  · exact toList_of_flush_ok
  · intro isEmpty
    cases answered : (producer.flush line).1 with
    | ok _ => rfl
    | error fault => exact absurd isEmpty (toList_of_flush_error answered)

theorem isEmpty_iff : producer.buffer.isEmpty = true ↔ producer.buffer.toList = [] := by
  simp [Buffer.isEmpty, Buffer.toList]

theorem flush_of_nothing (nothing : producer.buffer.toList = []) (line : Timeline Log) :
    producer.flush line = (.ok (), producer, line) := by
  rw [flush, if_pos (isEmpty_iff.mpr nothing)]

/-- A flush of what is held back asks for its deadline and keeps the pace. -/
theorem flush_of_something (something : producer.buffer.toList ≠ [])
    (positive : 0 < producer.connection.maxBlock) (line : Timeline Log) :
    Paced (line.now + producer.connection.maxBlock) producer.backoff.maxAttempts 1 producer
      (line.reckon (line.now + producer.connection.maxBlock)) (producer.flush line).1
      (producer.flush line).2.1 (producer.flush line).2.2
      ((line.since (producer.flush line).2.2).filter Exchange.isDelivery) := by
  have inTime : (line.reckon (line.now + producer.connection.maxBlock)).now <
      line.now + producer.connection.maxBlock := Nat.lt_add_of_pos_right positive
  simp only [flush, if_neg (mt isEmpty_iff.mp something)]
  rcases deliveries_paced (producer.backoff.maxAttempts - 1) 1 producer inTime with
    ⟨rounds, paced⟩
  rw [Nat.add_sub_cancel' producer.maxAttempts_backoff.1] at paced
  rcases paced.makes with ⟨made, makes, areRounds⟩
  have isMade : line.since _ = made := makes.since_eq
  rw [isMade, areRounds]
  exact paced

/-- Whatever is answered, and when, a flush is over by its deadline and makes one delivery for each
retry at most, and one. The first delivery begins at once with what is held back, and each further
one begins before the deadline, when the wait after the last answer is over, with what the last
report has left. The flush ends behind a delivery only if nothing is left, if no report has come by
the deadline, if no attempt is spare or could be made before the deadline, or if a fault is not
expected to pass. In the end just what none of the reports has acknowledged is held back, in the
order in which it was sent; the flush succeeds if that is nothing, and else it fails. All of this is
seen unless the deadline has no number, or the end of the wait that is planned behind a delivery. -/
theorem flush_paced (producer : Producer) {isFile : String → Bool}
    (valid : producer.connection.check isFile = .ok ()) (line : Timeline Log) :
    let flushed := producer.flush line
    let held := flushed.2.1.buffer.toList
    let deadline := line.now + producer.connection.maxBlock
    let rounds := (line.since flushed.2.2).filter Exchange.isDelivery
    flushed.2.2.now ≤ deadline ∧
    rounds.length ≤ producer.connection.retries + 1 ∧
    (∀ round ∈ rounds, round.moment < deadline) ∧
    (rounds = [] ↔ producer.buffer.toList = []) ∧
    (∀ first, rounds[0]? = some first → first.moment = line.now ∧
      first.request = .deliver producer.topic producer.buffer.toList) ∧
    (∀ index earlier later, rounds[index]? = some earlier → rounds[index + 1]? = some later →
      Exchange.Precedes producer.topic producer.backoff deadline (index + 1) earlier later) ∧
    (∀ index last, rounds.length = index + 1 → rounds[index]? = some last →
      Exchange.Concludes producer.backoff producer.timeout deadline producer.backoff.maxAttempts
        (index + 1) last flushed.1 flushed.2.2.now) ∧
    held = rounds.foldl (fun kept round => Report.left kept (round.outcomesBy deadline))
      producer.buffer.toList ∧
    held.Sublist producer.buffer.toList ∧
    (flushed.1 = .ok () ↔ held = []) ∧
    (Timeline.told flushed.2 = none ↔ line.panicked = true ∨
      (producer.buffer.toList ≠ [] ∧ Moment.last < deadline) ∨
      ∃ (index : Nat) (round : Exchange), rounds[index]? = some round ∧
        round.Overruns producer.backoff deadline producer.backoff.maxAttempts (index + 1)) := by
  intro flushed held deadline rounds
  have sheds : held.Sublist producer.buffer.toList := (flush_sheds producer line).held_sublist
  have succeeds : flushed.1 = .ok () ↔ held = [] := flush_eq_ok_iff
  by_cases nothing : producer.buffer.toList = []
  · have unmoved : flushed = (.ok (), producer, line) := flush_of_nothing nothing line
    have none : rounds = [] := by
      simp only [rounds, unmoved]
      rw [(Timeline.Makes.nothing line).since_eq]
      rfl
    have same : held = producer.buffer.toList := by simp only [held, unmoved]
    refine ⟨?_, ?_, ?_, ?_, ?_, ?_, ?_, ?_, sheds, succeeds, ?_⟩
    · rw [unmoved]
      exact Nat.le_add_right _ _
    · simp [none]
    · simp [none]
    · simp [none, nothing]
    · simp [none]
    · simp [none]
    · simp [none]
    · rw [none, same]
      rfl
    · rw [Timeline.told_eq_none, unmoved]
      simp [none, nothing]
  · have paced : Paced deadline producer.backoff.maxAttempts 1 producer (line.reckon deadline)
        flushed.1 flushed.2.1 flushed.2.2 rounds :=
      flush_of_something nothing (Connection.maxBlock_pos_of_check valid) line
    rcases paced.begins with ⟨rest, begins⟩
    refine ⟨paced.le_deadline, ?_, paced.early, ?_, ?_, ?_, ?_, paced.held_eq, sheds, succeeds, ?_⟩
    · have few := paced.length_le
      have attempts := producer.maxAttempts_backoff.2
      omega
    · simp [begins, nothing]
    · intro first isFirst
      rw [begins] at isFirst
      cases isFirst
      exact ⟨rfl, rfl⟩
    · intro index earlier later isEarlier isLater
      rw [Nat.add_comm]
      exact paced.goesOn index earlier later isEarlier isLater
    · intro index last isLength isLast
      rcases paced.concludes with ⟨other, final, sameLength, isFinal, concludes⟩
      have sameIndex : other = index := by omega
      subst sameIndex
      rw [isFinal] at isLast
      cases isLast
      rw [Nat.add_comm]
      exact concludes
    · rw [Timeline.told_eq_none, paced.panicked_iff, Timeline.panicked_reckon, or_assoc]
      simp [nothing, Nat.add_comm 1]

/-- A log that refuses the second of two records at first and takes what it is handed then, with a
report that takes its time. -/
def halfTaken : Script where
  partitionCount := []
  join := []
  openProducer := []
  openProbe := []
  poll := []
  position := []
  committed := []
  commit := []
  deliver := [.report (Duration.ofMillis 10) [.ok (), .error (.unavailable .injected)],
    .uniform 0 (.ok ())]
  offsets := []
  assigned := []

/-- Two records, of which the log takes one at a time. -/
def holdingTwo (maxBlock : Nat) : Producer :=
  (Producer.create "t" { Connection.standard with maxBlock }).hold
    [⟨none, none, ⟨#[97]⟩⟩, ⟨none, none, ⟨#[98]⟩⟩]

theorem flush_paced_halfTaken :
    let producer := holdingTwo (Duration.ofMillis 211)
    let line : Timeline Script := .start halfTaken
    let deadline := line.now + producer.connection.maxBlock
    let rounds := (line.since (producer.flush line).2.2).filter Exchange.isDelivery
    producer.connection.check (fun _ => true) = .ok () ∧
      (producer.flush line).1 = .ok () ∧ (producer.flush line).2.1.buffer.toList = [] ∧
      rounds.length = 2 ∧
      ∀ earlier later, rounds[0]? = some earlier → rounds[1]? = some later →
        Exchange.Precedes "t" producer.backoff deadline 1 earlier later := by
  intro producer line deadline rounds
  have valid : producer.connection.check (fun _ => true) = .ok () := by decide +kernel
  have succeeds : (producer.flush line).1 = .ok () := by decide +kernel
  rcases flush_paced producer valid line with ⟨_, _, _, _, _, goesOn, _, _, _, empties, _⟩
  exact ⟨valid, succeeds, empties.mp succeeds, by decide +kernel, goesOn 0⟩

/-- If the wait would end just at the deadline, the flush ends there, with the record that was
refused. -/
example :
    let flushed := (holdingTwo (Duration.ofMillis 210)).flush (Timeline.start halfTaken)
    flushed.1 = .error (.produceTimeout (Duration.ofMillis 210)) ∧
      flushed.2.1.buffer.toList = [⟨none, none, ⟨#[98]⟩⟩] ∧
      flushed.2.2.now = Duration.ofMillis 210 := by
  decide +kernel

end Producer

end FrontierBus
