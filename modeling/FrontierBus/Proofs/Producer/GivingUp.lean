import FrontierBus.Proofs.Producer.Pacing

/-!
# Giving up

A report may tell of several records that have failed, some for a reason that is expected to pass and
some for good. A flush looks at the first of them only. So whether a record that has failed for a
passing reason is delivered again depends on what stands before it.
-/

namespace FrontierBus

namespace Report

/-- The records that have failed, in their order, each with its fault. -/
def failed (records : List Record) (outcomes : List (Except Fault Unit)) : List (Record × Fault) :=
  (records.zip outcomes).filterMap fun entry =>
    match entry.2 with
    | .ok _ => none
    | .error fault => some (entry.1, fault)

/-- Some record has failed for a reason that is expected to pass, but stands behind one that has
failed for good. -/
def IsMasked (failed : List (Record × Fault)) : Prop :=
  ∃ first rest, failed = first :: rest ∧ first.2.isTransient = false ∧
    ∃ entry ∈ rest, entry.2.isTransient = true

variable {records : List Record} {outcomes : List (Except Fault Unit)}

/-- The fault that a report tells is that of the first record that has failed. -/
theorem fault_eq_first (records : List Record) (outcomes : List (Except Fault Unit)) :
    fault records outcomes =
      (((failed records outcomes).head?).map Prod.snd).getD (.refused .missingOutcome) := by
  rw [← firstFault_eq_fault]
  congr 1
  induction records generalizing outcomes with
  | nil => rfl
  | cons record records hypothesis =>
      cases outcomes with
      | nil => rfl
      | cons outcome outcomes =>
          cases outcome with
          | ok _ => exact hypothesis outcomes
          | error fault => rfl

/-- If each record has an outcome, those that are left are those that have failed. -/
theorem left_eq_failed (whole : outcomes.length = records.length) :
    left records outcomes = (failed records outcomes).map Prod.fst := by
  rw [← unacknowledged_eq_left]
  induction records generalizing outcomes with
  | nil => rfl
  | cons record records hypothesis =>
      cases outcomes with
      | nil => cases whole
      | cons outcome outcomes =>
          have rest := hypothesis (Nat.succ.inj whole)
          cases outcome with
          | ok _ => exact rest
          | error fault => exact congrArg (List.cons record) rest

end Report

namespace Exchange

/-- The records that have failed by the report that has come by a moment. -/
def failedBy (moment : Nat) (exchange : Exchange) : List (Record × Fault) :=
  Report.failed exchange.handed (exchange.outcomesBy moment)

/-- The report, if it has come by a moment, has one outcome for each record. -/
def IsWholeBy (moment : Nat) (exchange : Exchange) : Prop :=
  ∀ report, exchange.reportBy moment = some report →
    report.outcomes.length = exchange.handed.length

variable {moment : Nat} {exchange : Exchange}

theorem leftBy_eq_failedBy (whole : exchange.IsWholeBy moment)
    (reported : (exchange.reportBy moment).isSome = true) :
    exchange.leftBy moment = (exchange.failedBy moment).map Prod.fst := by
  rcases Option.isSome_iff_exists.mp reported with ⟨report, isReport⟩
  apply Report.left_eq_failed
  rw [outcomesBy_eq, isReport]
  exact whole report isReport

theorem faultBy_of_failedBy {first : Record × Fault} {rest : List (Record × Fault)}
    (failed : exchange.failedBy moment = first :: rest) : exchange.faultBy moment = first.2 := by
  rw [faultBy, Report.fault_eq_first, show Report.failed _ _ = _ from failed]
  rfl

/-- As long as there is no report, no record is known to have failed. -/
theorem failedBy_of_untold (untold : exchange.reportBy moment = none) :
    exchange.failedBy moment = [] := by
  rw [failedBy, outcomesBy_eq, untold]
  simp [Report.failed]

theorem handed_of_request {topic : String} {records : List Record}
    (delivers : exchange.request = .deliver topic records) : exchange.handed = records := by
  rw [handed, delivers]

/-- Along deliveries each of which is of what the one before has left, the last one leaves what all
of them leave. -/
theorem foldl_left_eq {rounds : List Exchange} {kept : List Record} {last : Exchange}
    (begins : ∀ first, rounds[0]? = some first → first.handed = kept)
    (goesOn : ∀ index earlier later, rounds[index]? = some earlier →
      rounds[index + 1]? = some later → later.handed = earlier.leftBy moment)
    (isLast : rounds.getLast? = some last) :
    rounds.foldl (fun kept round => Report.left kept (round.outcomesBy moment)) kept =
      last.leftBy moment := by
  induction rounds generalizing kept with
  | nil => cases isLast
  | cons first rest hypothesis =>
      have isKept := begins first rfl
      rw [List.foldl_cons, ← isKept]
      change rest.foldl _ (first.leftBy moment) = _
      cases rest with
      | nil =>
          cases isLast
          rfl
      | cons second more =>
          apply hypothesis
          · rintro _ ⟨⟩
            exact goesOn 0 first second rfl rfl
          · intro index earlier later isEarlier isLater
            exact goesOn (index + 1) earlier later isEarlier isLater
          · rwa [List.getLast?_cons_cons] at isLast

end Exchange

namespace Producer

variable {Log : Type} [Transport Log] {producer changed : Producer} {line ended : Timeline Log}
  {deadline most attempt : Nat} {answer : Except Fault Unit} {rounds : List Exchange}
  {last : Exchange}

namespace Paced

/-- What is held back in the end is what the last delivery has left. -/
theorem held_eq_leftBy
    (paced : Paced deadline most attempt producer line answer changed ended rounds)
    (isLast : rounds.getLast? = some last) : changed.buffer.toList = last.leftBy deadline := by
  rw [paced.held_eq]
  refine Exchange.foldl_left_eq ?_ ?_ isLast
  · rcases paced.begins with ⟨rest, rfl⟩
    rintro _ ⟨⟩
    rfl
  · intro index earlier later isEarlier isLater
    exact Exchange.handed_of_request
      (paced.goesOn index earlier later isEarlier isLater).request_eq

/-- How the deliveries end. -/
theorem concludes_last
    (paced : Paced deadline most 1 producer line answer changed ended rounds)
    (isLast : rounds.getLast? = some last) :
    Exchange.Concludes producer.backoff producer.timeout deadline most rounds.length last answer
      ended.now := by
  rcases paced.concludes with ⟨index, final, isLength, isFinal, concludes⟩
  rw [List.getLast?_eq_getElem?, isLength, Nat.add_sub_cancel, isFinal, Option.some.injEq] at isLast
  subst isLast
  rwa [isLength, Nat.add_comm index]

end Paced

/-- A flush that has no time makes one delivery. -/
theorem sole_of_no_time (something : producer.buffer.toList ≠ [])
    (noTime : producer.connection.maxBlock = 0) (line : Timeline Log) :
    Sole (line.now + producer.connection.maxBlock) producer.backoff.maxAttempts 1 producer
      (line.reckon (line.now + producer.connection.maxBlock)) (producer.flush line).1
      (producer.flush line).2.1 (producer.flush line).2.2 := by
  have inTime : (line.reckon (line.now + producer.connection.maxBlock)).now ≤
      line.now + producer.connection.maxBlock := Nat.le_add_right _ _
  simp only [flush, if_neg (mt isEmpty_iff.mp something)]
  rcases deliveries_cases (producer.backoff.maxAttempts - 1) 1 producer inTime with
    sole | ⟨_, fault, changed, between, _, round, _, notBeyond, _⟩
  · rwa [Nat.add_sub_cancel' producer.maxAttempts_backoff.1] at sole
  · rcases round.tells with ⟨_, _, arrived, _⟩
    have notPast : line.now + producer.connection.maxBlock ≤ between.now := by
      rw [arrived, noTime]
      exact Nat.le_add_right _ _
    omega

/-- What is held back in the end is what the last delivery of a flush has left, and the flush ends
with it. -/
theorem flush_ends (something : producer.buffer.toList ≠ []) (line : Timeline Log)
    (isLast : ((line.since (producer.flush line).2.2).filter Exchange.isDelivery).getLast? =
      some last) :
    (producer.flush line).2.1.buffer.toList =
        last.leftBy (line.now + producer.connection.maxBlock) ∧
      Exchange.Concludes producer.backoff producer.timeout
        (line.now + producer.connection.maxBlock) producer.backoff.maxAttempts
        ((line.since (producer.flush line).2.2).filter Exchange.isDelivery).length last
        (producer.flush line).1 (producer.flush line).2.2.now := by
  rcases Nat.eq_zero_or_pos producer.connection.maxBlock with noTime | positive
  · have sole := sole_of_no_time something noTime line
    have isSole : (line.since (producer.flush line).2.2).filter Exchange.isDelivery =
        [producer.asking line] := sole.filter_since
    rw [isSole] at isLast ⊢
    cases isLast
    exact ⟨sole.held_eq, sole.concludes⟩
  · have paced := flush_of_something something positive line
    exact ⟨paced.held_eq_leftBy isLast, paced.concludes_last isLast⟩

theorem ne_timeout_of_lasting {fault : Fault} (lasting : fault.isTransient = false) :
    fault ≠ producer.timeout := by
  rintro rfl
  cases lasting

/-- A delivery after which a flush has given up, other than by its deadline, is one whose first
failure is for good, or the last one that may be made. -/
theorem gives_up_iff {now : Nat}
    (concludes : Exchange.Concludes producer.backoff producer.timeout deadline most attempt last
      answer now)
    (succeeds : answer = .ok () ↔ last.leftBy deadline = []) (whole : last.IsWholeBy deadline) :
    (∃ fault, answer = .error fault ∧ fault ≠ producer.timeout) ↔
      ∃ first rest, last.failedBy deadline = first :: rest ∧
        (first.2.isTransient = false ∨ attempt = most ∧ first.2 ≠ producer.timeout) := by
  have some_failed : ∀ {fault : Fault}, (last.reportBy deadline).isSome = true →
      answer = .error fault → ∃ first rest, last.failedBy deadline = first :: rest := by
    intro fault reported fails
    apply List.exists_cons_of_ne_nil
    intro none
    have isDone := Exchange.leftBy_eq_failedBy whole reported
    rw [none] at isDone
    rw [succeeds.mpr isDone] at fails
    cases fails
  have isFirst : ∀ first rest, last.failedBy deadline = first :: rest →
      last.faultBy deadline = first.2 := fun _ _ => Exchange.faultBy_of_failedBy
  cases concludes with
  | complete reported nothing =>
      rw [Exchange.leftBy_eq_failedBy whole reported, List.map_eq_nil_iff] at nothing
      simp [nothing]
  | late untold =>
      have none : last.failedBy deadline = [] := Exchange.failedBy_of_untold untold
      simp [none]
  | beyond reported passing spare tooLate =>
      constructor
      · rintro ⟨fault, isFault, other⟩
        cases isFault
        exact absurd rfl other
      · rintro ⟨first, rest, failed, lasting | ⟨noneSpare, _⟩⟩
        · rw [isFirst first rest failed, lasting] at passing
          cases passing
        · exact absurd noneSpare (Nat.ne_of_lt spare)
  | exhausted reported passing noneSpare =>
      rcases some_failed reported rfl with ⟨first, rest, failed⟩
      rw [isFirst first rest failed] at passing ⊢
      simp [failed, passing, noneSpare]
  | permanent reported lasting =>
      rcases some_failed reported rfl with ⟨first, rest, failed⟩
      rw [isFirst first rest failed] at lasting ⊢
      simp [failed, lasting, ne_timeout_of_lasting lasting]

/-- If the last report of a flush has an outcome for each record, the flush holds back those that have
failed by it. It gives up, other than by its deadline, just if the first of them has failed for good,
or if no attempt is spare. So it gives up in spite of a spare attempt and of a failure that is
expected to pass just if that failure stands behind one that is for good. -/
theorem flush_gives_up_iff (producer : Producer) (line : Timeline Log) (last : Exchange) :
    let flushed := producer.flush line
    let deadline := line.now + producer.connection.maxBlock
    let rounds := (line.since flushed.2.2).filter Exchange.isDelivery
    let failed := last.failedBy deadline
    let givesUp := ∃ fault, flushed.1 = .error fault ∧ fault ≠ producer.timeout
    rounds.getLast? = some last → last.IsWholeBy deadline →
      ((last.reportBy deadline).isSome = true →
        flushed.2.1.buffer.toList = failed.map Prod.fst) ∧
      (givesUp ↔ ∃ first rest, failed = first :: rest ∧ (first.2.isTransient = false ∨
        rounds.length = producer.backoff.maxAttempts ∧ first.2 ≠ producer.timeout)) ∧
      (givesUp ∧ rounds.length < producer.backoff.maxAttempts ∧
          (∃ entry ∈ failed, entry.2.isTransient = true) ↔
        rounds.length < producer.backoff.maxAttempts ∧ Report.IsMasked failed) := by
  intro flushed deadline rounds failed givesUp isLast whole
  have something : producer.buffer.toList ≠ [] := by
    intro nothing
    have unmoved : flushed = (.ok (), producer, line) := flush_of_nothing nothing line
    have none : rounds = [] := by
      simp only [rounds, unmoved, (Timeline.Makes.nothing line).since_eq, List.filter_nil]
    rw [none] at isLast
    cases isLast
  rcases flush_ends something line isLast with ⟨isHeld, concludes⟩
  have succeeds : flushed.1 = .ok () ↔ last.leftBy deadline = [] := by
    rw [← isHeld]
    exact flush_eq_ok_iff
  have gives_up : givesUp ↔ ∃ first rest, failed = first :: rest ∧ (first.2.isTransient = false ∨
      rounds.length = producer.backoff.maxAttempts ∧ first.2 ≠ producer.timeout) :=
    gives_up_iff concludes succeeds whole
  refine ⟨?_, gives_up, ?_⟩
  · intro reported
    rw [isHeld, Exchange.leftBy_eq_failedBy whole reported]
  · constructor
    · rintro ⟨up, spare, entry, present, transient⟩
      rcases gives_up.mp up with ⟨first, rest, isFailed, lasting | ⟨noneSpare, _⟩⟩
      · refine ⟨spare, first, rest, isFailed, lasting, entry, ?_, transient⟩
        rw [isFailed] at present
        rcases List.mem_cons.mp present with rfl | behind
        · rw [lasting] at transient
          cases transient
        · exact behind
      · exact absurd noneSpare (Nat.ne_of_lt spare)
    · rintro ⟨spare, first, rest, isFailed, lasting, entry, behind, transient⟩
      refine ⟨gives_up.mpr ⟨first, rest, isFailed, Or.inl lasting⟩, spare, entry, ?_, transient⟩
      rw [isFailed]
      exact List.mem_cons_of_mem first behind

/-- A log that reports these outcomes of the first delivery, and takes what it is handed then. -/
def refusing (outcomes : List (Except Fault Unit)) : Script where
  partitionCount := []
  join := []
  openProducer := []
  openProbe := []
  poll := []
  position := []
  committed := []
  commit := []
  deliver := [.report 0 outcomes, .uniform 0 (.ok ())]
  offsets := []
  assigned := []

/-- A refusal for good. -/
def bad : Fault := .refused (.reported "bad")

/-- Of two records one is refused for good and the other one for a reason that is expected to pass,
and attempts are spare. If the first one is refused for good the flush gives up at once, and the
other one is not delivered again; the other way round both are. -/
theorem gives_up_on_masked :
    let producer := holdingTwo (Duration.ofMillis 1000)
    let masked := Timeline.start (refusing [.error bad, .error (.unavailable .injected)])
    let unmasked := Timeline.start (refusing [.error (.unavailable .injected), .error bad])
    let rounds := fun line : Timeline Script =>
      (line.since (producer.flush line).2.2).filter Exchange.isDelivery
    (producer.flush masked).1 = .error bad ∧ bad ≠ producer.timeout ∧
      (rounds masked).length < producer.backoff.maxAttempts ∧
      (rounds masked).getLast?.map (Exchange.failedBy (Duration.ofMillis 1000)) =
        some [(⟨none, none, ⟨#[97]⟩⟩, bad), (⟨none, none, ⟨#[98]⟩⟩, .unavailable .injected)] ∧
      (producer.flush masked).2.1.buffer.toList =
        [⟨none, none, ⟨#[97]⟩⟩, ⟨none, none, ⟨#[98]⟩⟩] ∧
      (Fault.unavailable .injected).isTransient = true ∧
      (producer.flush unmasked).1 = .ok () ∧ (rounds unmasked).length = 2 := by
  decide +kernel

theorem flush_gives_up_iff_masked :
    let producer := holdingTwo (Duration.ofMillis 1000)
    let line := Timeline.start (refusing [.error bad, .error (.unavailable .injected)])
    let deadline := line.now + producer.connection.maxBlock
    let rounds := (line.since (producer.flush line).2.2).filter Exchange.isDelivery
    ∃ last, rounds.getLast? = some last ∧ last.IsWholeBy deadline ∧
      Report.IsMasked (last.failedBy deadline) ∧
      ∃ fault, (producer.flush line).1 = .error fault ∧ fault ≠ producer.timeout := by
  intro producer line deadline rounds
  have isThere : rounds.getLast?.isSome = true := by decide +kernel
  rcases Option.isSome_iff_exists.mp isThere with ⟨last, isLast⟩
  have isWhole : rounds.getLast?.all (fun last => (last.reportBy deadline).all fun report =>
      report.outcomes.length == last.handed.length) = true := by decide +kernel
  have isFailed : rounds.getLast?.map (Exchange.failedBy deadline) =
      some [(⟨none, none, ⟨#[97]⟩⟩, bad), (⟨none, none, ⟨#[98]⟩⟩, .unavailable .injected)] := by
    decide +kernel
  have spare : rounds.length < producer.backoff.maxAttempts := by decide +kernel
  rw [isLast] at isWhole isFailed
  have whole : last.IsWholeBy deadline := by
    intro report isReport
    rw [Option.all_some, isReport] at isWhole
    exact eq_of_beq isWhole
  have masked : Report.IsMasked (last.failedBy deadline) :=
    ⟨_, _, Option.some.inj isFailed, rfl, _, List.mem_singleton_self _, rfl⟩
  rcases flush_gives_up_iff producer line last isLast whole with ⟨_, _, in_spite_iff⟩
  exact ⟨last, isLast, whole, masked, (in_spite_iff.mpr ⟨spare, masked⟩).1⟩

end Producer

end FrontierBus
