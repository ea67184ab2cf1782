import FrontierBus.Timeline

/-!
# Reckoning

A call that asks for the number of a moment panics if the moment has none, and then nothing is seen
of its result. Nothing else makes a timeline panic: not a request, not a turn, not waiting for a
moment or an arrival, however long.
-/

namespace FrontierBus.Timeline

variable {Log : Type} [Transport Log] {line : Timeline Log} {moment : Nat}

theorem panicked_reckon :
    (line.reckon moment).panicked = true ↔ line.panicked = true ∨ Moment.last < moment := by
  simp [reckon]

section Seeing

variable {Answer : Type} {result seen : Answer × Timeline Log}

theorem told_eq_none : told result = none ↔ result.2.panicked = true := by
  simp [told]

theorem told_eq_some : told result = some seen ↔ result.2.panicked = false ∧ result = seen := by
  simp [told]

end Seeing

theorem panicked_take (turn : Turn) (line : Timeline Log) :
    (line.take turn).panicked = line.panicked := by
  cases turn with
  | event =>
      simp only [take, takeEvent]
      split
      · rfl
      · rfl
  | look index =>
      simp only [take, takeLook]
      split
      · rfl
      · rfl

theorem panicked_pauseUntil (moment : Nat) (line : Timeline Log) :
    (line.pauseUntil moment).panicked = line.panicked := by
  fun_induction pauseUntil moment line with
  | case1 => rfl
  | case2 line turn _ hypothesis => exact hypothesis.trans (panicked_take turn line)

theorem panicked_takeDue (count : Nat) (line : Timeline Log) :
    (line.takeDue count).panicked = line.panicked := by
  fun_induction takeDue count line with
  | case1 => rfl
  | case2 => rfl
  | case3 _ line turn _ hypothesis => exact hypothesis.trans (panicked_take turn line)

theorem panicked_gap (usual : Nat) (line : Timeline Log) :
    (line.gap usual).panicked = line.panicked := by
  unfold gap
  split
  · exact panicked_takeDue usual line
  · exact panicked_takeDue _ _

theorem panicked_awaitArrival (seen moment : Nat) (line : Timeline Log) :
    (line.awaitArrival seen moment).2.panicked = line.panicked := by
  fun_induction awaitArrival seen moment line with
  | case1 => rfl
  | case2 line _ turn _ hypothesis => exact hypothesis.trans (panicked_take turn line)
  | case3 line => exact panicked_gap _ line

/-- However often a poll is repeated, it asks for no other moment than its deadline. -/
theorem panicked_pollUntil (reader : Reader) (limit patience deadline : Nat)
    (line : Timeline Log) :
    (line.pollUntil reader limit patience deadline).2.panicked = line.panicked := by
  fun_induction pollUntil reader limit patience deadline line with
  | case1 line asked
  | case2 line asked => exact (panicked_pauseUntil _ asked.2).trans (panicked_gap 0 line)
  | case3 line seen asked _ later late =>
      have waited := panicked_awaitArrival seen deadline (asked.2.gap 0)
      rw [late, panicked_gap] at waited
      exact waited.trans (panicked_gap 0 line)
  | case4 line seen asked _ later arrived hypothesis =>
      have waited := panicked_awaitArrival seen deadline (asked.2.gap 0)
      rw [arrived, panicked_gap] at waited
      exact hypothesis.trans (waited.trans (panicked_gap 0 line))

theorem panicked_poll (reader : Reader) (limit patience : Nat) (line : Timeline Log) :
    (line.poll reader limit patience).2.panicked = true ↔
      line.panicked = true ∨
        Transport.setsDeadline reader line.log = true ∧ Moment.last < line.now + patience := by
  simp only [poll, panicked_pollUntil]
  split
  · rename_i sets
    rw [panicked_reckon]
    simp [sets]
  · rename_i setsNone
    simp [setsNone]

end FrontierBus.Timeline
