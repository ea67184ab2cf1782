import FrontierBus.Broker.Basic

/-!
# Runs of a broker

Everything that can happen to a broker is an action: creating topics, outages, records from
passing producers, looks at its state, and requests of sessions. A run is a list of actions.
-/

namespace FrontierBus.Broker

/-- Something that happens to a broker. -/
inductive Action where
  | createTopic (topic : String) (count : Nat)
  | disconnect
  | reconnect
  /-- The next `count` requests that have to reach the broker fail. -/
  | failNext (count : Nat)
  /-- A producer opens, delivers once and is gone. -/
  | append (topic : String) (records : List Record)
  | readWatermark (topic : String) (partition : Nat)
  | readCheckpoint (topic group : String) (partition : Nat)
  | countMembers (topic group : String)
  | ask (request : Request)
  deriving DecidableEq

/-- What an action tells its author. -/
@[reducible]
def Action.Outcome : Action → Type
  | createTopic .. => Except Fault Unit
  | disconnect => Unit
  | reconnect => Unit
  | failNext _ => Unit
  | append .. => Except Fault Report
  | readWatermark .. => Option Nat
  | readCheckpoint .. => Option Nat
  | countMembers .. => Nat
  | ask request => request.Answer

/-- Lets an action happen. -/
def step (action : Action) (broker : Broker) : action.Outcome × Broker :=
  match action with
  | .createTopic topic count => broker.createTopic topic count
  | .disconnect => ((), { broker with connected := false })
  | .reconnect => ((), { broker with connected := true })
  | .failNext count => ((), { broker with failuresLeft := count })
  | .append topic records =>
    match broker.openOn topic with
    | (.error fault, broker) => (.error fault, broker)
    | (.ok _, broker) =>
      let (report, broker) := broker.deliver topic records
      (.ok report, broker)
  | .readWatermark topic partition => (broker.highWatermark? topic partition, broker)
  | .readCheckpoint topic group partition => (broker.checkpoint? topic group partition, broker)
  | .countMembers topic group => (broker.memberCount topic group, broker)
  | .ask request =>
    let (reply, broker) := broker.serve request
    (reply.answer, broker)

/-- The broker after a run. -/
def run (broker : Broker) (actions : List Action) : Broker :=
  actions.foldl (fun broker action => (broker.step action).2) broker

theorem arrivals_interruption (broker : Broker) :
    broker.interruption.2.arrivals = broker.arrivals := by
  unfold interruption
  split
  · rfl
  · split <;> rfl

theorem arrivals_reachingTopic {Answer : Type} (name : String)
    {request : Topic → Broker → Except Fault Answer × Broker}
    (keeps : ∀ topic broker, (request topic broker).2.arrivals = broker.arrivals)
    (broker : Broker) : (reachingTopic name request broker).2.arrivals = broker.arrivals := by
  have before := arrivals_interruption broker
  simp only [reachingTopic, reaching]
  split
  · rename_i interrupted
    rwa [interrupted] at before
  · rename_i reached
    rw [reached] at before
    split
    · exact before
    · exact (keeps _ _).trans before

theorem arrivals_poll (reader : Reader) (limit : Nat) (broker : Broker) :
    (broker.poll reader limit).2.arrivals = broker.arrivals := by
  simp only [poll]
  split
  · rfl
  · exact arrivals_reachingTopic reader.topic (fun _ _ => rfl) broker

instance : Transport Broker where
  serve := serve
  assigned := assigned
  setsDeadline reader broker := (broker.member? reader).isSome
  arrivals := arrivals
  arrivals_poll reader limit _ broker := broker.arrivals_poll reader limit
  Event := Action
  Outcome := Action.Outcome
  happen := step

end FrontierBus.Broker
