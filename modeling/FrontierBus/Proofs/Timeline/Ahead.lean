import FrontierBus.Proofs.Timeline.Chronicle

/-!
# What lies ahead

The events that lie ahead until a moment are those that have happened when one has waited until
then. They happen turn by turn: a turn takes the first of them, or leaves them all for later because
a watch looks first. Until the clock reaches the next turn, none is due.
-/

namespace FrontierBus.Timeline

variable {Log : Type} [Transport Log] {line : Timeline Log} {moment earlier later : Nat}
  {turn : Turn}

/-- The events that happen until a moment, that moment included, the first of them first. -/
def ahead (moment : Nat) (line : Timeline Log) : List (Transport.Event Log) :=
  (line.upcoming.takeWhile fun entry => entry.1 ≤ moment).map Prod.snd

theorem ahead_prefix (notLater : earlier ≤ later) (line : Timeline Log) :
    line.ahead earlier <+: line.ahead later := by
  apply List.IsPrefix.map
  induction line.upcoming with
  | nil => exact List.prefix_rfl
  | cons entry upcoming hypothesis =>
      by_cases due : entry.1 ≤ earlier
      · have stillDue : entry.1 ≤ later := Nat.le_trans due notLater
        simpa [due, stillDue] using hypothesis
      · simp [due]

theorem ahead_eq_nil (none_due : ∀ due, line.nextEvent = some due → moment < due) :
    line.ahead moment = [] := by
  simp only [nextEvent] at none_due
  cases upcoming : line.upcoming with
  | nil => simp [ahead, upcoming]
  | cons entry rest =>
      have late : moment < entry.1 := none_due entry.1 (by simp [upcoming])
      simp [ahead, upcoming, late]

/-- Where no turn is left until a moment, no event is. -/
theorem ahead_of_no_turn (none_left : line.nextTurn moment = none) : line.ahead moment = [] := by
  apply ahead_eq_nil
  intro due isNext
  simp only [nextTurn, isNext] at none_left
  grind

/-- No event is due before the clock reaches the next turn. -/
theorem ahead_of_before_turn (next : line.nextTurn moment = some turn)
    (notBefore : line.now ≤ earlier) (before : earlier < (line.take turn).now) :
    line.ahead earlier = [] := by
  apply ahead_eq_nil
  intro due isNext
  rcases due_le_of_nextTurn next with ⟨rfl, _⟩ | ⟨index, lookDue, rfl, isLook, _⟩
  · rw [now_take_event isNext] at before
    omega
  · have notLater : lookDue < due := by
      simp only [nextTurn, isNext, isLook] at next
      grind
    rw [now_take_look isLook] at before
    omega

/-- A turn is the first of the events ahead, or the look of a watch, which takes none of them. -/
theorem take_cases (next : line.nextTurn moment = some turn) :
    (∃ event, (line.take turn).log = (Transport.happen event line.log).2 ∧
      ∀ later, (line.take turn).now ≤ later →
        line.ahead later = event :: (line.take turn).ahead later) ∨
    ∃ watch : Watch, (line.take turn).log = (Transport.serve watch.request line.log).2 ∧
      ∀ later, (line.take turn).ahead later = line.ahead later := by
  rcases due_le_of_nextTurn next with ⟨rfl, _, isNext, _⟩ | ⟨index, _, rfl, isLook, _⟩
  · left
    have moved := now_take_event isNext
    simp only [nextEvent, Option.map_eq_some_iff] at isNext
    rcases isNext with ⟨⟨due, event⟩, isFirst, rfl⟩
    rcases List.head?_eq_some_iff.mp isFirst with ⟨rest, upcoming⟩
    refine ⟨event, by simp [take, takeEvent, upcoming], ?_⟩
    intro later notBefore
    rw [moved] at notBefore
    have isDue : due ≤ later := by omega
    simp [ahead, take, takeEvent, upcoming, isDue]
  · right
    rcases nextLook_spec isLook with ⟨place, watch, placed, isThere, _⟩
    obtain rfl : index = place := by omega
    refine ⟨watch, by simp [take, takeLook, isThere, look, serve, moveTo], ?_⟩
    intro later
    simp [ahead, take, takeLook, isThere, look, serve, moveTo]

/-- A turn that is due by some moment is due by any later one. -/
theorem nextTurn_of_earlier (next : line.nextTurn earlier = some turn)
    (notLater : earlier ≤ later) : line.nextTurn later = some turn := by
  simp only [nextTurn] at next ⊢
  grind

/-- Whoever has waited until a moment has left no turn until then. -/
theorem nextTurn_pauseUntil (moment : Nat) (line : Timeline Log) :
    (line.pauseUntil moment).nextTurn moment = none := by
  fun_induction pauseUntil moment line with
  | case1 line none_left => exact none_left
  | case2 line turn _ hypothesis => exact hypothesis

theorem now_pauseUntil_now (line : Timeline Log) : (line.pauseUntil line.now).now = line.now :=
  (now_pauseUntil line.now line).trans (Nat.max_self line.now)

/-- When whatever is due by now has taken its turn, no turn is due. -/
theorem nextTurn_pauseUntil_now (line : Timeline Log) :
    (line.pauseUntil line.now).nextTurn (line.pauseUntil line.now).now = none := by
  rw [now_pauseUntil_now]
  exact nextTurn_pauseUntil line.now line

/-- Waiting for the present moment changes nothing if no turn is left. -/
theorem pauseUntil_now (none_left : line.nextTurn line.now = none) :
    line.pauseUntil line.now = line := by
  unfold pauseUntil
  split
  · simp [moveTo]
  · rename_i next
    rw [none_left] at next
    cases next

section Keeping

variable {deadline : Nat} (Inv : Timeline Log → Prop)
  (plans : ∀ (line : Timeline Log) (gaps : List Nat), Inv line → Inv (line.plan gaps))

section Due

variable (turns : ∀ (line : Timeline Log) (turn : Turn), line.nextTurn line.now = some turn →
    Inv line → Inv (line.take turn))

include turns

/-- What the turns keep that are due by now is kept when some of them are taken. -/
theorem keeps_takeDue (holds : Inv line) (count : Nat) : Inv (line.takeDue count) := by
  fun_induction takeDue count line with
  | case1 => exact holds
  | case2 => exact holds
  | case3 count line turn next hypothesis => exact hypothesis (turns line turn next holds)

include plans

/-- If the plan of the gaps has no part in it, it is kept in a gap. -/
theorem keeps_gap (holds : Inv line) (usual : Nat) : Inv (line.gap usual) := by
  unfold gap
  split
  · exact keeps_takeDue Inv turns holds usual
  · rename_i count gaps _
    exact keeps_takeDue Inv turns (plans line gaps holds) count

end Due

variable
  (turns : ∀ (line : Timeline Log) (turn : Turn), line.nextTurn deadline = some turn →
    Inv line → Inv (line.take turn))
  (clock : ∀ (line : Timeline Log) (moment : Nat), moment ≤ deadline → Inv line →
    Inv (line.moveTo moment))

include turns clock

/-- What neither the turns until a deadline nor the clock change is kept while one waits until a
moment before the deadline. -/
theorem keeps_pauseUntil (inTime : moment ≤ deadline) (holds : Inv line) :
    Inv (line.pauseUntil moment) := by
  fun_induction pauseUntil moment line with
  | case1 line => exact clock line moment inTime holds
  | case2 line turn next hypothesis =>
      exact hypothesis (turns line turn (nextTurn_of_earlier next inTime) holds)

include plans

/-- If the plan of the gaps has no part in it, it is kept as well while one waits for an arrival. -/
theorem keeps_awaitArrival (seen : Nat) (inTime : line.now ≤ deadline) (holds : Inv line) :
    Inv (line.awaitArrival seen deadline).2 := by
  fun_induction awaitArrival seen deadline line with
  | case1 line => exact clock line deadline (Nat.le_refl _) holds
  | case2 line _ turn next hypothesis =>
      have moved := (now_take next).2
      exact hypothesis (by omega) (turns line turn next holds)
  | case3 line =>
      refine (keeps_gap (fun later => later.now ≤ deadline ∧ Inv later) ?_ ?_ ⟨inTime, holds⟩ _).2
      · rintro later gaps ⟨notLate, kept⟩
        exact ⟨notLate, plans later gaps kept⟩
      · rintro later turn next ⟨notLate, kept⟩
        have moved := (now_take next).2
        exact ⟨by omega, turns later turn (nextTurn_of_earlier next notLate) kept⟩

end Keeping

/-- Whoever has waited for an arrival in vain has left no turn that is due. -/
theorem nextTurn_awaitArrival {seen deadline : Nat} {ended : Timeline Log}
    (inTime : line.now ≤ deadline) (late : line.awaitArrival seen deadline = (false, ended)) :
    ended.nextTurn ended.now = none := by
  fun_induction awaitArrival seen deadline line with
  | case1 line _ none_left =>
      obtain rfl := (Prod.mk.inj late).2
      have now_eq : (line.moveTo deadline).now = deadline := Nat.max_eq_right inTime
      rw [now_eq]
      exact none_left
  | case2 line _ turn next hypothesis =>
      have moved := (now_take next).2
      exact hypothesis (by omega) late
  | case3 => cases late

end FrontierBus.Timeline
