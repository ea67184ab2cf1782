import FrontierBus.Proofs.Broker.Deliveries
import FrontierBus.Proofs.Timeline.Chronicle

/-!
# Occurrences on a broker

Whatever comes to pass on a timeline of a broker is an action of it, so a timeline moves the broker by
runs.
-/

namespace FrontierBus.Broker

/-- What comes to pass on a timeline of a broker, as an action. -/
def actionOf : Occurrence Broker → Action
  | .request exchange => .ask exchange.request
  | .event action => action

theorem befall_eq (broker : Broker) (occurrence : Occurrence Broker) :
    occurrence.befall broker = (broker.step (actionOf occurrence)).2 := by
  cases occurrence with
  | request exchange => rfl
  | event action => rfl

theorem foldl_befall (broker : Broker) (occurred : List (Occurrence Broker)) :
    occurred.foldl Occurrence.befall broker = broker.run (occurred.map actionOf) := by
  induction occurred generalizing broker with
  | nil => rfl
  | cons occurrence occurred hypothesis =>
      rw [List.foldl_cons, hypothesis, befall_eq]
      rfl

theorem run_occurred (actions : List Action) (occurred : List (Occurrence Broker)) :
    empty.run (actions ++ occurred.map actionOf) =
      occurred.foldl Occurrence.befall (empty.run actions) := by
  rw [run_append, foldl_befall]

theorem run_of_comes {line after : Timeline Broker} {occurred : List (Occurrence Broker)}
    (comes : line.Comes occurred after) : after.log = line.log.run (occurred.map actionOf) := by
  rw [comes.log_eq, foldl_befall]

/-- A property of brokers that every action keeps. -/
def Lasting (Inv : Broker → Prop) : Prop :=
  ∀ broker action, Inv broker → Inv (broker.step action).2

namespace Lasting

variable {Inv : Broker → Prop} {line : Timeline Broker}

theorem run (lasting : Lasting Inv) {broker : Broker} (holds : Inv broker)
    (actions : List Action) : Inv (broker.run actions) := by
  induction actions generalizing broker with
  | nil => exact holds
  | cons action actions hypothesis => exact hypothesis (lasting broker action holds)

theorem comes (lasting : Lasting Inv) {after : Timeline Broker}
    {occurred : List (Occurrence Broker)} (holds : Inv line.log)
    (comes : line.Comes occurred after) : Inv after.log := by
  rw [run_of_comes comes]
  exact lasting.run holds _

theorem pauseUntil (lasting : Lasting Inv) (holds : Inv line.log) (moment : Nat) :
    Inv (line.pauseUntil moment).log := by
  rcases Timeline.comes_pauseUntil moment line with ⟨occurred, comes, _⟩
  exact lasting.comes holds comes

theorem ask (lasting : Lasting Inv) {request : Request}
    (holds : Inv (line.log.step (.ask request)).2) : Inv (line.ask request).2.log :=
  lasting.pauseUntil holds _

end Lasting

/-- Some run leads to the broker. -/
def Reached (broker : Broker) : Prop :=
  ∃ actions, broker = empty.run actions

theorem Reached.lasting : Lasting Reached := by
  rintro broker action ⟨actions, rfl⟩
  exact ⟨actions ++ [action], (run_concat empty actions action).symm⟩

theorem Offers.lasting (topic : String) (count : Nat) : Lasting (Offers topic count) :=
  fun _ action offers => offers.step action

end FrontierBus.Broker
