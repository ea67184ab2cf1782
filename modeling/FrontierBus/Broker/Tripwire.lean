import FrontierBus.Broker.Action

/-!
# Brokers with a wire

A broker whose own requests disconnect it: the session that waits for one step of a command to
succeed finds the broker gone at the next. All other requests are served as they are without the
wire.
-/

namespace FrontierBus.Broker

/-- Where the wire is. -/
inductive Trip where
  | afterJoin
  | beforeCommit
  | afterOpenProducer
  | afterOpenProbe
  deriving Repr, DecidableEq

namespace Trip

/-- The request touches the wire before it is served. -/
def isBefore (trip : Trip) : Request → Bool
  | .commit _ => trip = beforeCommit
  | _ => false

/-- The request touches the wire after it has been served with an answer. -/
def isAfter (trip : Trip) : (request : Request) → request.Answer → Bool
  | .join .., answer => trip = afterJoin && Except.isOk answer
  | .openProducer .., answer => trip = afterOpenProducer && Except.isOk answer
  | .openProbe .., answer => trip = afterOpenProbe && Except.isOk answer
  | _, _ => false

end Trip

/-- A broker with a wire, or without one. -/
structure Wired where
  broker : Broker
  trip : Option Trip

namespace Wired

/-- Disconnects the broker if a condition holds. -/
def cutIf (condition : Bool) (broker : Broker) : Broker :=
  if condition then (broker.step .disconnect).2 else broker

/-- Serves a request; the wire disconnects the broker before or after. -/
def serve (request : Request) (wired : Wired) : Reply request × Wired :=
  let before := cutIf (wired.trip.any (·.isBefore request)) wired.broker
  let (reply, broker) := before.serve request
  let after := cutIf (wired.trip.any (·.isAfter request reply.answer)) broker
  (reply, { wired with broker := after })

theorem arrivals_cutIf (condition : Bool) (broker : Broker) :
    (cutIf condition broker).arrivals = broker.arrivals := by
  unfold cutIf
  split <;> rfl

instance : Transport Wired where
  serve := serve
  assigned reader wired := wired.broker.assigned reader
  setsDeadline reader wired := (wired.broker.member? reader).isSome
  arrivals wired := wired.broker.arrivals
  arrivals_poll reader limit _ _ :=
    (arrivals_cutIf _ _).trans ((arrivals_poll reader limit _).trans (arrivals_cutIf _ _))
  Event := Empty
  Outcome := nofun
  happen event := nomatch event

end Wired

end FrontierBus.Broker
