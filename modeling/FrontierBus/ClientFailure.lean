import FrontierBus.Fault

/-!
# Failures of a networked client

A client of a networked log reports failures by what failed and, for most, by a code. Codes that
tell of an unreachable or overloaded broker are expected to pass.
-/

namespace FrontierBus

/-- A failure as the client reports it. -/
structure ClientFailure where
  /-- What failed, by the client's name for it. -/
  operation : String
  /-- The code of the failure, by its name. -/
  code : Option String
  text : String

namespace ClientFailure

/-- The operations whose failures carry no code. -/
def uncoded : List String :=
  ["AdminOp", "Canceled", "ClientConfig", "ClientCreation", "NoMessageReceived", "PartitionEOF",
    "Seek", "Subscription"]

/-- The codes that are expected to pass. -/
def passingCodes : List String :=
  ["BrokerTransportFailure", "AllBrokersDown", "Resolve", "MessageTimedOut", "OperationTimedOut",
    "RequestTimedOut", "NetworkException", "BrokerNotAvailable", "LeaderNotAvailable",
    "NotLeaderForPartition", "QueueFull"]

/-- The fault that a failure amounts to. -/
def toFault (failure : ClientFailure) : Fault :=
  match failure.code with
  | none => .refused (.reported failure.text)
  | some code =>
    if !uncoded.contains failure.operation && passingCodes.contains code then
      .unavailable (.reported failure.text)
    else .refused (.reported failure.text)

end ClientFailure

end FrontierBus
