import FrontierBus.Proofs.Producer.Calls
import FrontierBus.Proofs.Timeline.Chronicle

/-!
# Reports that come in time

A producer waits for every report until a deadline of the flush, and a flush is over by its deadline.
So the reports that count are those that have come when the flush ends; and if the flush succeeds,
all of them have.
-/

namespace FrontierBus

/-- What the report on a delivery tells that has come by a moment. -/
def Exchange.outcomesBy (moment : Nat) : Exchange → List (Except Fault Unit)
  | ⟨start, .deliver _ _, reply⟩ => Ledger.outcomesBy moment start reply
  | _ => []

/-- The same reports have come by two moments. -/
def Told (moment other : Nat) (made : List Exchange) : Prop :=
  ∀ exchange ∈ made, exchange.outcomesBy moment = exchange.outcomesBy other

namespace Told

variable {moment other : Nat} {front back made : List Exchange}

theorem quiet (quiet : Timeline.Quiet made) : Told moment other made := by
  intro exchange present
  have notDelivery := quiet exchange present
  rcases exchange with ⟨start, request, reply⟩
  cases request with
  | deliver => simp [Exchange.isDelivery] at notDelivery
  | _ => rfl

theorem append (first : Told moment other front) (second : Told moment other back) :
    Told moment other (front ++ back) := by
  intro exchange present
  rcases List.mem_append.mp present with inFront | inBack
  · exact first exchange inFront
  · exact second exchange inBack

end Told

namespace Producer

variable {Log : Type} [Transport Log] {producer changed : Producer}
  {line between ended : Timeline Log} {deadline : Nat} {allCame : Prop}
  {front back made : List Exchange}

/-- These requests were made from one timeline to a later one, not beyond a deadline, and the reports
that have come by the deadline are those that have come by the end. If all have come there are no
more of them later. -/
structure Hears (deadline : Nat) (line : Timeline Log) (allCame : Prop) (made : List Exchange)
    (ended : Timeline Log) : Prop where
  makes : line.Makes made ended
  line_le : line.now ≤ ended.now
  le_deadline : ended.now ≤ deadline
  told : Told deadline ended.now made
  toldLater : allCame → ∀ later, ended.now ≤ later → Told deadline later made

namespace Hears

theorem append (first : Hears deadline line True front between)
    (second : Hears deadline between allCame back ended) :
    Hears deadline line allCame (front ++ back) ended where
  makes := first.makes.trans second.makes
  line_le := Nat.le_trans first.line_le second.line_le
  le_deadline := second.le_deadline
  told := (first.toldLater trivial ended.now second.line_le).append second.told
  toldLater := by
    intro came later notBefore
    apply (first.toldLater trivial later (Nat.le_trans second.line_le notBefore)).append
    exact second.toldLater came later notBefore

theorem reckoned (moment : Nat) (inTime : line.now ≤ deadline) :
    Hears deadline line True [] (line.reckon moment) where
  makes := rfl
  line_le := Nat.le_refl _
  le_deadline := inTime
  told := .quiet .nothing
  toldLater := fun _ _ _ => .quiet .nothing

theorem weaken (hears : Hears deadline line allCame made ended) {fewer : Prop}
    (only : fewer → allCame) : Hears deadline line fewer made ended :=
  { hears with toldLater := fun came => hears.toldLater (only came) }

/-- A wait until a moment that is not beyond the deadline. -/
theorem wait {moment : Nat} (inTime : line.now ≤ deadline) (notBeyond : moment ≤ deadline) :
    ∃ made, Hears deadline line True made (line.pauseUntil moment) := by
  rcases Timeline.makes_pauseUntil moment line with ⟨made, waits, quiet⟩
  have moved := Timeline.now_pauseUntil moment line
  refine ⟨made, waits, ?_, ?_, .quiet quiet, fun _ _ _ => .quiet quiet⟩
  · omega
  · omega

end Hears

/-- A wait that follows a delivery: either the report has come by its end, or the wait ends at the
deadline and no report has come. -/
theorem hears_delivery {topic : String} {records : List Record} {moment : Nat}
    (inTime : line.now ≤ deadline) (notBeyond : moment ≤ deadline)
    (told : ∀ later, line.now ≤ later → moment ≤ later → (allCame ∨ later = max line.now moment) →
      Ledger.outcomesBy deadline line.now (line.serve (.deliver topic records)).1 =
        Ledger.outcomesBy later line.now (line.serve (.deliver topic records)).1) :
    ∃ made, Hears deadline line allCame made
      ((line.serve (.deliver topic records)).2.pauseUntil moment) := by
  have asks := Timeline.makes_serve (.deliver topic records) line
  have sameMoment : (line.serve (.deliver topic records)).2.now = line.now := rfl
  rcases Timeline.makes_pauseUntil moment (line.serve (.deliver topic records)).2 with
    ⟨made, waits, quiet⟩
  have moved := Timeline.now_pauseUntil moment (line.serve (.deliver topic records)).2
  rw [sameMoment] at moved
  have toldThen : ∀ later, line.now ≤ later → moment ≤ later →
      (allCame ∨ later = max line.now moment) → Told deadline later
        (⟨line.now, .deliver topic records, (line.serve (.deliver topic records)).1⟩ :: made) := by
    intro later notBefore past came exchange present
    rcases List.mem_cons.mp present with rfl | waiting
    · exact told later notBefore past came
    · exact Told.quiet quiet exchange waiting
  refine ⟨_, asks.trans waits, ?_, ?_, ?_, ?_⟩
  · omega
  · omega
  · apply toldThen
    · omega
    · omega
    · exact Or.inr moved
  · intro came later notBefore
    apply toldThen
    · omega
    · omega
    · exact Or.inl came

/-- After a delivery its report has come, or it does not come by the deadline. -/
theorem deliverBy_hears (producer : Producer) (inTime : line.now ≤ deadline) :
    ∃ made, Hears deadline line ((producer.deliverBy deadline line).1 ≠ .late) made
      (producer.deliverBy deadline line).2.2 := by
  have sameMoment :
      (line.serve (.deliver producer.topic producer.buffer.toList)).2.now = line.now := rfl
  simp only [deliverBy, sameMoment]
  split
  · rename_i silent
    apply hears_delivery inTime (Nat.le_refl deadline)
    intro later _ _ _
    simp [Ledger.outcomesBy, silent]
  · rename_i report reported
    split
    · rename_i came
      have waits : ∃ made, Hears deadline line True made
          ((line.serve (.deliver producer.topic producer.buffer.toList)).2.pauseUntil
            (line.now + (line.serve (.deliver producer.topic producer.buffer.toList)).1.delay)) := by
        apply hears_delivery inTime came
        intro later _ past _
        simp only [Ledger.outcomesBy, reported]
        rw [if_pos came, if_pos past]
      rcases waits with ⟨made, hears⟩
      split
      · exact ⟨made, hears.weaken fun _ => trivial⟩
      · exact ⟨made, hears.weaken fun _ => trivial⟩
    · rename_i notCome
      apply hears_delivery inTime (Nat.le_refl deadline)
      intro later _ _ came
      rcases came with notLate | atDeadline
      · exact absurd rfl notLate
      · simp only [Ledger.outcomesBy, reported]
        rw [if_neg notCome, if_neg (by omega)]

theorem deliveries_hears (producer : Producer) (spare attempt : Nat)
    (inTime : line.now ≤ deadline) :
    ∃ made, Hears deadline line ((producer.deliveries deadline spare attempt line).1 = .ok ()) made
      (producer.deliveries deadline spare attempt line).2.2 := by
  fun_induction deliveries deadline spare attempt producer line with
  | case1 spare attempt producer line changed later delivered =>
      rcases deliverBy_hears producer inTime with ⟨made, hears⟩
      rw [delivered] at hears
      exact ⟨made, hears.weaken fun _ => by simp⟩
  | case2 spare attempt producer line changed later delivered =>
      rcases deliverBy_hears producer inTime with ⟨made, hears⟩
      rw [delivered] at hears
      exact ⟨made, hears.weaken fun answered => by simp at answered⟩
  | case3 attempt producer line fault changed later delivered transient =>
      rcases deliverBy_hears producer inTime with ⟨made, hears⟩
      rw [delivered] at hears
      exact ⟨made, hears.weaken fun answered => by simp at answered⟩
  | case4 attempt producer line fault changed later delivered transient spare next reckoned =>
      rcases deliverBy_hears producer inTime with ⟨made, hears⟩
      rw [delivered] at hears
      have reckons := (hears.weaken fun _ => by simp).append (.reckoned next hears.le_deadline)
      rcases Hears.wait reckons.le_deadline (Nat.le_refl deadline) with ⟨waited, waits⟩
      exact ⟨_, (reckons.append waits).weaken fun _ => trivial⟩
  | case5 attempt producer line fault changed later delivered transient spare next reckoned =>
      rename_i inTimeNext hypothesis
      rcases deliverBy_hears producer inTime with ⟨made, hears⟩
      rw [delivered] at hears
      have reckons := (hears.weaken fun _ => by simp).append (.reckoned next hears.le_deadline)
      rcases Hears.wait reckons.le_deadline (Nat.le_of_not_le inTimeNext) with ⟨waited, waits⟩
      have both := reckons.append waits
      rcases hypothesis both.le_deadline with ⟨more, hearsMore⟩
      exact ⟨_, both.append hearsMore⟩
  | case6 spare attempt producer line fault changed later delivered permanent =>
      rcases deliverBy_hears producer inTime with ⟨made, hears⟩
      rw [delivered] at hears
      exact ⟨made, hears.weaken fun answered => by simp at answered⟩

end Producer

end FrontierBus
