import FrontierBus.Backoff
import Mathlib.Algebra.Group.Nat.Defs
import Mathlib.Order.Monotone.Basic

/-!
# Waits between attempts

The wait doubles from one attempt to the next and never exceeds the longest one. It stops doubling
after the seventeenth attempt, though, whether it has reached the longest wait by then or not. So a
policy whose longest wait is far beyond its initial one never waits that long.
-/

namespace FrontierBus.Backoff

variable {policy : Backoff} {attempt : Nat}

/-- The wait after an attempt if nothing but the longest wait ends the doubling. -/
def doubled (policy : Backoff) (attempt : Nat) : Nat :=
  min (policy.initial * 2 ^ (attempt - 1)) policy.longest

theorem doubled_mono (policy : Backoff) : Monotone policy.doubled := by
  intro earlier later notBefore
  have powers : 2 ^ (earlier - 1) ≤ 2 ^ (later - 1) :=
    Nat.pow_le_pow_right (by decide) (Nat.sub_le_sub_right notBefore 1)
  have products := Nat.mul_le_mul_left policy.initial powers
  simp only [doubled]
  omega

/-- The longest span is no limit of its own for a policy whose longest wait is a span. -/
theorem delay_eq_doubled_min (inRange : policy.longest ≤ Duration.longest) (attempt : Nat) :
    policy.delay attempt = policy.doubled (min attempt 17) := by
  have exponent : min (attempt - 1) 16 = min attempt 17 - 1 := by omega
  simp only [delay, doubled, exponent]
  change min (min (policy.initial * 2 ^ (min attempt 17 - 1)) Duration.longest) policy.longest = _
  omega

theorem delay_mono (policy : Backoff) : Monotone policy.delay := by
  intro earlier later notBefore
  have exponents : min (earlier - 1) 16 ≤ min (later - 1) 16 := by omega
  have powers : Nat.pow 2 (min (earlier - 1) 16) ≤ Nat.pow 2 (min (later - 1) 16) :=
    Nat.pow_le_pow_right (by decide) exponents
  have products := Nat.mul_le_mul_left policy.initial powers
  simp only [delay]
  omega

theorem delay_le_longest (policy : Backoff) (attempt : Nat) :
    policy.delay attempt ≤ policy.longest :=
  Nat.min_le_right _ _

/-- Where the wait has reached the longest one by the seventeenth attempt, it stays there. -/
theorem doubled_of_reached (reached : policy.longest ≤ policy.initial * 2 ^ 16)
    (late : 17 ≤ attempt) : policy.doubled attempt = policy.longest := by
  have further := policy.doubled_mono late
  have atMost : policy.doubled attempt ≤ policy.longest := Nat.min_le_right _ _
  simp only [doubled] at further atMost ⊢
  omega

/-- Where it has not, one more doubling would make it longer. -/
theorem lt_doubled_of_unreached (some_wait : policy.initial ≠ 0)
    (unreached : policy.initial * 2 ^ 16 < policy.longest) (late : 17 < attempt) :
    policy.initial * 2 ^ 16 < policy.doubled attempt := by
  have further : policy.doubled 18 ≤ policy.doubled attempt := policy.doubled_mono late
  have once_more : policy.initial * 2 ^ 17 = policy.initial * 2 ^ 16 * 2 := by omega
  simp only [doubled] at further ⊢
  omega

/-- The wait after an attempt is the initial one, doubled for each attempt before and limited by
nothing but the longest wait, just for the first seventeen attempts, if there is no initial wait,
or if sixteen doublings reach the longest wait. Otherwise it is the initial wait doubled sixteen
times, and that is too short. -/
theorem delay_eq_doubled_iff (inRange : policy.longest ≤ Duration.longest) (attempt : Nat) :
    (policy.delay attempt = policy.doubled attempt ↔
      attempt ≤ 17 ∨ policy.initial = 0 ∨ policy.longest ≤ policy.initial * 2 ^ 16) ∧
    (policy.delay attempt ≠ policy.doubled attempt →
      policy.delay attempt = policy.initial * 2 ^ 16 ∧
        policy.delay attempt < policy.doubled attempt) := by
  rw [delay_eq_doubled_min inRange]
  by_cases early : attempt ≤ 17
  · rw [Nat.min_eq_left early]
    exact ⟨iff_of_true rfl (.inl early), fun differs => absurd rfl differs⟩
  · rw [Nat.min_eq_right (by omega)]
    by_cases some_wait : policy.initial = 0
    · have same : policy.doubled 17 = policy.doubled attempt := by simp [doubled, some_wait]
      exact ⟨iff_of_true same (.inr (.inl some_wait)), fun differs => absurd same differs⟩
    · by_cases reached : policy.longest ≤ policy.initial * 2 ^ 16
      · have same : policy.doubled 17 = policy.doubled attempt := by
          rw [doubled_of_reached reached (Nat.le_refl 17), doubled_of_reached reached (by omega)]
        exact ⟨iff_of_true same (.inr (.inr reached)), fun differs => absurd same differs⟩
      · have isProduct : policy.doubled 17 = policy.initial * 2 ^ 16 :=
          Nat.min_eq_left (by omega)
        have longer := lt_doubled_of_unreached some_wait (by omega) (by omega : 17 < attempt)
        rw [isProduct]
        refine ⟨iff_of_false (Nat.ne_of_lt longer) ?_, fun _ => ⟨rfl, longer⟩⟩
        rintro (isEarly | none | isReached)
        · exact early isEarly
        · exact some_wait none
        · exact reached isReached

/-- Waits from a millisecond up to a thousand seconds. -/
def patient : Backoff :=
  ⟨30, Duration.ofMillis 1, Duration.ofMillis 1000000⟩

/-- After the eighteenth attempt the wait ought to be two minutes and is only one. -/
theorem delay_stays_short :
    patient.doubled 18 = Duration.ofMillis 131072 ∧ patient.delay 18 = Duration.ofMillis 65536 ∧
      patient.delay 18 ≠ patient.doubled 18 := by
  decide

theorem delay_eq_doubled_iff_patient :
    patient.longest ≤ Duration.longest ∧ patient.delay 17 = patient.doubled 17 ∧
      patient.delay 18 < patient.doubled 18 :=
  ⟨by decide, (delay_eq_doubled_iff (by decide) 17).1.mpr (.inl (by decide)),
    ((delay_eq_doubled_iff (by decide) 18).2 (by decide)).2⟩

end FrontierBus.Backoff
