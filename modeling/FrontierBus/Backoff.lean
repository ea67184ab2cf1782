import FrontierBus.Fault

/-!
# Trying again

A request that fails for a reason expected to pass is tried again after a wait that doubles from
one attempt to the next, up to a longest wait and a largest number of attempts.
-/

namespace FrontierBus

/-- How often to try, and how long to wait in between. -/
structure Backoff where
  maxAttempts : Nat
  initial : Nat
  longest : Nat
  deriving Repr, DecidableEq

namespace Backoff

/-- Five attempts, with waits from a fifth of a second up to five seconds. -/
def standard : Backoff :=
  ⟨5, Duration.ofMillis 200, Duration.ofMillis 5000⟩

/-- One attempt. -/
def once : Backoff :=
  { standard with maxAttempts := 1 }

/-- The policy with another number of attempts, at least one. -/
def withMaxAttempts (policy : Backoff) (count : Nat) : Backoff :=
  { policy with maxAttempts := max count 1 }

/-- The wait after a failed attempt, counted from one: the initial wait, doubled for each attempt
before, for at most sixteen of them. -/
def delay (policy : Backoff) (attempt : Nat) : Nat :=
  min (min (policy.initial * Nat.pow 2 (min (attempt - 1) 16)) Duration.longest) policy.longest

/-- Tries `operation` until it succeeds, fails for good, or no attempt is spare. -/
def attempts {World : Type} [Clock World] {Answer : Type} (policy : Backoff)
    (operation : World → Except Fault Answer × World) :
    (spare attempt : Nat) → World → Except Fault Answer × World
  | 0, _, world => operation world
  | spare + 1, attempt, world =>
    match operation world with
    | (.ok answer, after) => (.ok answer, after)
    | (.error fault, after) =>
      if fault.isTransient then
        attempts policy operation spare (attempt + 1)
          (Clock.pauseUntil (Clock.now after + policy.delay attempt) after)
      else (.error fault, after)

/-- Tries an operation as often as the policy allows. -/
def retry {World : Type} [Clock World] {Answer : Type} (policy : Backoff)
    (operation : World → Except Fault Answer × World) (world : World) :
    Except Fault Answer × World :=
  policy.attempts operation (policy.maxAttempts - 1) 1 world

end Backoff

/-- An operation whose outcomes are known beforehand, and the moments at which it was tried, latest
first. -/
structure Rehearsal (Answer : Type) where
  outcomes : Nat → Except Fault Answer
  calls : List Nat
  now : Nat

namespace Rehearsal

instance {Answer : Type} : Clock (Rehearsal Answer) where
  now := Rehearsal.now
  pauseUntil moment rehearsal := { rehearsal with now := max rehearsal.now moment }

/-- The next outcome. -/
def call {Answer : Type} (rehearsal : Rehearsal Answer) :
    Except Fault Answer × Rehearsal Answer :=
  (rehearsal.outcomes rehearsal.calls.length,
    { rehearsal with calls := rehearsal.now :: rehearsal.calls })

end Rehearsal

end FrontierBus
