import FrontierBus.Timeline
import Mathlib.Data.List.Basic

/-!
# The past of a timeline

Requests are recorded when they are made. What is done on a timeline adds to its past and takes
nothing away, so the requests of a stretch of time can be told from its two ends. While time passes
only the watches make requests.
-/

namespace FrontierBus

/-- Records are to be delivered. -/
def Exchange.isDelivery (exchange : Exchange) : Bool :=
  match exchange.request with
  | .deliver .. => true
  | _ => false

namespace Timeline

variable {Log : Type} [Transport Log] {before between after : Timeline Log}
  {made front back : List Exchange}

/-- These requests were made from one timeline to a later one, the first one first. -/
def Makes (before : Timeline Log) (made : List Exchange) (after : Timeline Log) : Prop :=
  after.past = made.reverse ++ before.past

/-- The requests made from one timeline to a later one, the first one first. -/
def since (before after : Timeline Log) : List Exchange :=
  (after.past.take (after.past.length - before.past.length)).reverse

/-- Requests among which there is no delivery. -/
def Quiet (made : List Exchange) : Prop :=
  ∀ exchange ∈ made, exchange.isDelivery = false

theorem Quiet.nothing : Quiet [] := by
  intro exchange present
  cases present

theorem Quiet.append (frontQuiet : Quiet front) (backQuiet : Quiet back) :
    Quiet (front ++ back) := by
  intro exchange present
  rcases List.mem_append.mp present with inFront | inBack
  · exact frontQuiet exchange inFront
  · exact backQuiet exchange inBack

theorem Makes.since_eq (makes : before.Makes made after) : before.since after = made := by
  simp only [since]
  rw [makes, List.length_append, Nat.add_sub_cancel, List.take_left, List.reverse_reverse]

theorem Makes.nothing (line : Timeline Log) : line.Makes [] line := rfl

theorem Makes.trans (first : before.Makes front between) (second : between.Makes back after) :
    before.Makes (front ++ back) after := by
  simp only [Makes] at *
  rw [second, first, List.reverse_append, List.append_assoc]

theorem makes_serve (request : Request) (line : Timeline Log) :
    line.Makes [⟨line.now, request, (line.serve request).1⟩] (line.serve request).2 := rfl

/-- A turn makes no request, or the request of a watch. -/
theorem makes_take (turn : Turn) (line : Timeline Log) :
    ∃ made, line.Makes made (line.take turn) ∧ Quiet made := by
  cases turn with
  | event =>
      refine ⟨[], ?_, .nothing⟩
      change line.Makes [] line.takeEvent
      simp only [takeEvent]
      split
      · rfl
      · rfl
  | look index =>
      change ∃ made, line.Makes made (line.takeLook index) ∧ Quiet made
      simp only [takeLook]
      split
      · exact ⟨[], rfl, .nothing⟩
      · rename_i watch _
        refine ⟨[⟨(line.moveTo watch.due).now, watch.request, _⟩], rfl, ?_⟩
        intro exchange present
        rw [List.mem_singleton.mp present]
        rfl

theorem makes_pauseUntil (moment : Nat) (line : Timeline Log) :
    ∃ made, line.Makes made (line.pauseUntil moment) ∧ Quiet made := by
  fun_induction pauseUntil moment line with
  | case1 => exact ⟨[], rfl, .nothing⟩
  | case2 line turn _ hypothesis =>
      rcases makes_take turn line with ⟨front, first, frontQuiet⟩
      rcases hypothesis with ⟨back, second, backQuiet⟩
      exact ⟨front ++ back, first.trans second, frontQuiet.append backQuiet⟩

/-- Waiting for the answer to a request that is no delivery is quiet. -/
theorem makes_ask (request : Request)
    (notDelivery : ∀ (moment : Nat) (reply : Reply request),
      Exchange.isDelivery ⟨moment, request, reply⟩ = false) (line : Timeline Log) :
    ∃ made, line.Makes made (line.ask request).2 ∧ Quiet made := by
  rcases makes_pauseUntil ((line.serve request).2.now + (line.serve request).1.delay)
    (line.serve request).2 with ⟨made, waits, quiet⟩
  refine ⟨_, (makes_serve request line).trans waits, ?_⟩
  intro exchange present
  rcases List.mem_cons.mp present with rfl | waiting
  · exact notDelivery _ _
  · exact quiet exchange waiting

end Timeline

end FrontierBus
