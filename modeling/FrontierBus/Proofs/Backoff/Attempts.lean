import FrontierBus.Proofs.Backoff.Waits
import Mathlib.Order.Bounds.Basic

/-!
# Attempts of an operation

An operation is tried again until an outcome settles the matter or no attempt is spare, and not
once more. To say how often it was tried, and when, its attempts are written down in a journal that
travels along with the world. Which attempts there could be at all does not depend on the policy's
number of attempts: each begins where the one before it, and the wait after that, have led.
-/

namespace FrontierBus

/-- An attempt: when it began, what came of it, and when that was known. -/
structure Attempt (Answer : Type) where
  start : Nat
  outcome : Except Fault Answer
  stop : Nat

/-- A world together with the attempts made in it, the first of them first. -/
structure Journal (World Answer : Type) where
  world : World
  attempts : List (Attempt Answer)

namespace Journal

variable {World Answer : Type} [Clock World]

instance : Clock (Journal World Answer) where
  now journal := Clock.now journal.world
  pauseUntil moment journal := { journal with world := Clock.pauseUntil moment journal.world }

/-- The attempt that an operation makes in a world. -/
def attempt (operation : World → Except Fault Answer × World) (world : World) : Attempt Answer :=
  ⟨Clock.now world, (operation world).1, Clock.now (operation world).2⟩

/-- The operation with each attempt of it written down. -/
def noting (operation : World → Except Fault Answer × World) (journal : Journal World Answer) :
    Except Fault Answer × Journal World Answer :=
  ((operation journal.world).1,
    ⟨(operation journal.world).2, journal.attempts ++ [attempt operation journal.world]⟩)

end Journal

namespace Backoff

variable {World Answer : Type} [Clock World] (policy : Backoff)
  (operation : World → Except Fault Answer × World)

/-- Whether an outcome leaves nothing to try again: a success, or a failure for good. -/
def isSettled : Except Fault Answer → Bool
  | .ok _ => true
  | .error fault => !fault.isTransient

/-- The world in which an attempt begins, counted from zero, should it be made at all. -/
def course (world : World) : Nat → World
  | 0 => world
  | index + 1 =>
    let after := (operation (course world index)).2
    Clock.pauseUntil (Clock.now after + policy.delay (index + 1)) after

/-- The attempts after which there is a reason to stop, counted from one: the last that the policy
allows, and those that settle the matter. -/
def endings (outcome : Nat → Except Fault Answer) : Set Nat :=
  {count | count = max 1 policy.maxAttempts ∨
    ∃ index, count = index + 1 ∧ isSettled (outcome index) = true}

theorem attempts_of_settled (world : World) (settled : isSettled (operation world).1 = true)
    (spare attempt : Nat) : policy.attempts operation spare attempt world = operation world := by
  cases spare with
  | zero => rfl
  | succ spare =>
      rcases tried : operation world with ⟨_ | fault, after⟩
      · simp_all [attempts, isSettled]
      · simp [attempts, tried]

theorem attempts_of_unsettled (world : World) (unsettled : isSettled (operation world).1 = false)
    (spare attempt : Nat) :
    policy.attempts operation (spare + 1) attempt world =
      policy.attempts operation spare (attempt + 1)
        (Clock.pauseUntil (Clock.now (operation world).2 + policy.delay attempt)
          (operation world).2) := by
  rcases tried : operation world with ⟨fault | _, after⟩
  · simp_all [attempts, isSettled]
  · simp [isSettled, tried] at unsettled

/-- Writing the attempts down changes neither the outcome nor the world. -/
theorem attempts_eq_noting (spare attempt : Nat) (journal : Journal World Answer) :
    policy.attempts operation spare attempt journal.world =
      ((policy.attempts (Journal.noting operation) spare attempt journal).1,
        (policy.attempts (Journal.noting operation) spare attempt journal).2.world) := by
  induction spare generalizing attempt journal with
  | zero => rfl
  | succ spare hypothesis =>
      cases settled : isSettled (operation journal.world).1 with
      | true =>
          rw [policy.attempts_of_settled operation _ settled,
            policy.attempts_of_settled (Journal.noting operation) journal settled]
          rfl
      | false =>
          rw [policy.attempts_of_unsettled operation _ settled,
            policy.attempts_of_unsettled (Journal.noting operation) journal settled, ← hypothesis]
          rfl

section Course

variable (world : World)

/-- The attempts up to one of them, the first of them first. -/
def attemptsUpTo (count : Nat) : List (Attempt Answer) :=
  (List.range count).map fun index =>
    Journal.attempt operation (policy.course operation world index)

/-- The outcome of an attempt, counted from zero. -/
def outcomeAt (index : Nat) : Except Fault Answer :=
  (operation (policy.course operation world index)).1

/-- With some attempts spare, the tries that begin with one attempt end with another. -/
structure EndsWith (first spare last : Nat) : Prop where
  notBefore : first ≤ last
  notBeyond : last ≤ first + spare
  unsettled : ∀ index, first ≤ index → index < last →
    isSettled (policy.outcomeAt operation world index) = false
  reason : last = first + spare ∨ isSettled (policy.outcomeAt operation world last) = true

variable {policy operation world}

theorem EndsWith.at_once {first spare : Nat}
    (reason : spare = 0 ∨ isSettled (policy.outcomeAt operation world first) = true) :
    policy.EndsWith operation world first spare first :=
  ⟨Nat.le_refl first, by omega, by omega, reason.imp_left (by omega)⟩

theorem EndsWith.later {first spare last : Nat}
    (unsettled : isSettled (policy.outcomeAt operation world first) = false)
    (ends : policy.EndsWith operation world (first + 1) spare last) :
    policy.EndsWith operation world first (spare + 1) last := by
  have notBefore := ends.notBefore
  have notBeyond := ends.notBeyond
  refine ⟨by omega, by omega, ?_, ?_⟩
  · intro index notBefore before
    rcases Nat.eq_or_lt_of_le notBefore with rfl | after
    · exact unsettled
    · exact ends.unsettled index after before
  · exact ends.reason.imp_left (by omega)

/-- Where the tries end is the least of the attempts after which there is a reason to stop. -/
theorem EndsWith.isLeast {last : Nat}
    (ends : policy.EndsWith operation world 0 (policy.maxAttempts - 1) last) :
    IsLeast (policy.endings (policy.outcomeAt operation world)) (last + 1) := by
  constructor
  · rcases ends.reason with isLast | settled
    · exact .inl (by omega)
    · exact .inr ⟨last, rfl, settled⟩
  · have notBeyond := ends.notBeyond
    rintro count (rfl | ⟨index, rfl, settled⟩)
    · omega
    · by_contra earlier
      have unsettled := ends.unsettled index (Nat.zero_le index) (by omega)
      simp [settled] at unsettled

variable (policy operation world)

theorem attemptsUpTo_concat (index : Nat) :
    policy.attemptsUpTo operation world (index + 1) =
      policy.attemptsUpTo operation world index ++
        [Journal.attempt operation (policy.course operation world index)] := by
  simp [attemptsUpTo, List.range_succ]

/-- When the attempts before one of them are written down, the tries that begin with it end with
some attempt, and all attempts up to that one are written down then. -/
theorem attempts_noting (spare first : Nat) :
    ∃ last, policy.EndsWith operation world first spare last ∧
      policy.attempts (Journal.noting operation) spare (first + 1)
          ⟨policy.course operation world first, policy.attemptsUpTo operation world first⟩ =
        (policy.outcomeAt operation world last,
          ⟨(operation (policy.course operation world last)).2,
            policy.attemptsUpTo operation world (last + 1)⟩) := by
  induction spare generalizing first with
  | zero =>
      refine ⟨first, .at_once (.inl rfl), ?_⟩
      rw [attemptsUpTo_concat]
      rfl
  | succ spare hypothesis =>
      have noted := policy.attemptsUpTo_concat operation world first
      cases settled : isSettled (policy.outcomeAt operation world first) with
      | true =>
          refine ⟨first, .at_once (.inr settled), ?_⟩
          rw [policy.attempts_of_settled (Journal.noting operation) ⟨_, _⟩ settled, noted]
          rfl
      | false =>
          rcases hypothesis (first + 1) with ⟨last, ends, same⟩
          refine ⟨last, ends.later settled, ?_⟩
          rw [policy.attempts_of_unsettled (Journal.noting operation) ⟨_, _⟩ settled, ← same, noted]
          rfl

variable {policy operation world} in
/-- Between two attempts in a row lies the wait that belongs to the earlier one. -/
theorem start_eq_of_next
    (lawful : ∀ (moment : Nat) (world : World),
      Clock.now (Clock.pauseUntil moment world) = max (Clock.now world) moment)
    {count index : Nat} {earlier later : Attempt Answer}
    (first : (policy.attemptsUpTo operation world count)[index]? = some earlier)
    (next : (policy.attemptsUpTo operation world count)[index + 1]? = some later) :
    later.start = earlier.stop + policy.delay (index + 1) := by
  simp only [attemptsUpTo, List.getElem?_map, Option.map_eq_some_iff, List.getElem?_eq_some_iff,
    List.getElem_range] at first next
  rcases first with ⟨_, ⟨_, rfl⟩, rfl⟩
  rcases next with ⟨_, ⟨_, rfl⟩, rfl⟩
  simp [Journal.attempt, course, lawful]

/-- An operation is tried until its outcome settles the matter or the attempts run out, whichever
comes first, and at least once. Its outcomes are those along its course, and the last of them is
the answer. Between one attempt and the next there is just the wait of the policy, and these waits
never get shorter and never exceed the longest one. -/
theorem retry_noting
    (lawful : ∀ (moment : Nat) (world : World),
      Clock.now (Clock.pauseUntil moment world) = max (Clock.now world) moment) :
    let noted := policy.retry (Journal.noting operation) ⟨world, []⟩
    let attempts := noted.2.attempts
    policy.retry operation world = (noted.1, noted.2.world) ∧
      IsLeast (policy.endings (policy.outcomeAt operation world)) attempts.length ∧
      attempts.map Attempt.outcome =
        (List.range attempts.length).map (policy.outcomeAt operation world) ∧
      attempts.getLast?.map Attempt.outcome = some noted.1 ∧
      (∀ (index : Nat) (earlier later : Attempt Answer),
        attempts[index]? = some earlier → attempts[index + 1]? = some later →
          later.start = earlier.stop + policy.delay (index + 1)) ∧
      Monotone policy.delay ∧ ∀ attempt, policy.delay attempt ≤ policy.longest := by
  intro noted attempts
  rcases policy.attempts_noting operation world (policy.maxAttempts - 1) 0 with ⟨last, ends, same⟩
  have isNoted : noted = _ := same
  have count : attempts.length = last + 1 := by simp [attempts, isNoted, attemptsUpTo]
  refine ⟨policy.attempts_eq_noting operation _ 1 ⟨world, []⟩, ?_, ?_, ?_, ?_, policy.delay_mono,
    policy.delay_le_longest⟩
  · rw [count]
    exact ends.isLeast
  · rw [count]
    simp only [attempts, isNoted, attemptsUpTo, List.map_map]
    rfl
  · simp only [attempts, isNoted, attemptsUpTo_concat, List.getLast?_concat]
    rfl
  · simp only [attempts, isNoted]
    intro index earlier later
    exact start_eq_of_next lawful

end Course

/-- Every sequence of outcomes is the course of some operation. -/
theorem outcomeAt_call (rehearsal : Rehearsal Answer) (index : Nat) :
    policy.outcomeAt Rehearsal.call rehearsal index =
      rehearsal.outcomes (rehearsal.calls.length + index) := by
  have along : (policy.course Rehearsal.call rehearsal index).outcomes = rehearsal.outcomes ∧
      (policy.course Rehearsal.call rehearsal index).calls.length =
        rehearsal.calls.length + index := by
    induction index with
    | zero => exact ⟨rfl, rfl⟩
    | succ index hypothesis => exact ⟨hypothesis.1, congrArg (· + 1) hypothesis.2⟩
  rw [← along.1, ← along.2]
  rfl

/-- The third attempt succeeds, the fourth would fail for good, and all others fail for a reason
expected to pass. -/
def thirdTime : Rehearsal Nat :=
  ⟨fun index => if index = 2 then .ok 7 else if index = 3 then .error .closed else
    .error (.unavailable .injected), [], 10⟩

theorem retry_noting_thirdTime :
    (∀ (moment : Nat) (rehearsal : Rehearsal Nat),
      Clock.now (Clock.pauseUntil moment rehearsal) = max (Clock.now rehearsal) moment) ∧
    IsLeast (standard.endings (standard.outcomeAt Rehearsal.call thirdTime)) 3 ∧
    ((standard.retry (Journal.noting Rehearsal.call) ⟨thirdTime, []⟩).2.attempts.map
      Attempt.start) = [10, 200000010, 600000010] :=
  ⟨fun _ _ => rfl, (standard.retry_noting Rehearsal.call thirdTime fun _ _ => rfl).2.1, by decide⟩

end Backoff

end FrontierBus
