import FrontierBus.Time

/-!
# Faults

Why a request of the bus fails. A fault is a cause with its particulars; the wording is a function
of it. Some causes are expected to pass, so that the same request may succeed later; others show
that the settings are wrong and no later attempt can help.
-/

namespace FrontierBus

/-- What is wrong with settings, or with a request that contradicts the layout of a topic. -/
inductive Misconfiguration where
  | noEndpoint
  | sizeNotPositive
  | batchBeyondBuffer (batch buffer : Nat)
  | blockNotPositive
  | missingFile (path : String)
  | blankCredentials
  | blank (key : String)
  | sharedGroup (first second : String)
  | notPositive (key : String)
  | unknownName (kind text : String)
  | notFlag (key text : String)
  | notNumber (key text : String)
  | excludes (first second : String)
  | needed (key cause : String)
  | noPartition (topic : String)
  | topicExists (topic : String)
  | partitionOutOfRange (partition : Nat) (topic : String) (count : Nat)
  /-- Reported by the other side in its own words. -/
  | reported (text : String)
  deriving Repr, DecidableEq

/-- The wording of a misconfiguration. -/
def Misconfiguration.message : Misconfiguration → String
  | noEndpoint => "at least one non-empty endpoint is required"
  | sizeNotPositive => "max_request_size, batch_size and buffer_memory must be positive"
  | batchBeyondBuffer batch buffer =>
    s!"batch_size ({batch}) cannot exceed buffer_memory ({buffer})"
  | blockNotPositive => "max_block must be positive"
  | missingFile path => s!"TLS file '{path}' does not exist"
  | blankCredentials => "SASL requires a non-empty username and password"
  | blank key => s!"{key} must not be empty"
  | sharedGroup first second => s!"{first} and {second} must differ"
  | notPositive key => s!"{key} must be at least 1"
  | unknownName kind text => s!"Unknown {kind}: {text}"
  | notFlag key text => s!"Invalid {key} '{text}': expected true or false"
  | notNumber key text => s!"Invalid {key} '{text}': must be a non-negative integer"
  | excludes first second => s!"{first} and {second} are mutually exclusive"
  | needed key cause => s!"{key} not set. Required when {cause} is on."
  | noPartition topic => s!"topic '{topic}' needs at least one partition"
  | topicExists topic => s!"topic '{topic}' already exists"
  | partitionOutOfRange partition topic count =>
    s!"partition {partition} out of range for topic '{topic}' with {count} partitions"
  | reported text => text

/-- Why the other side cannot be reached. -/
inductive Outage where
  | disconnected
  | injected
  | reported (text : String)
  deriving Repr, DecidableEq

/-- The wording of an outage. -/
def Outage.message : Outage → String
  | disconnected => "memory broker is disconnected"
  | injected => "injected transport failure"
  | reported text => text

/-- Why the other side turned a record or a request down. -/
inductive Refusal where
  | noSuchPartition (partition : Nat) (topic : String)
  /-- A delivery report said nothing about some records. -/
  | missingOutcome
  | reported (text : String)
  deriving Repr, DecidableEq

/-- The wording of a refusal. -/
def Refusal.message : Refusal → String
  | noSuchPartition partition topic =>
    s!"partition {partition} does not exist in topic '{topic}'"
  | missingOutcome => "delivery report is missing records"
  | reported text => text

/-- Why offsets could not be fetched. -/
inductive LagGap where
  | missingPartition (partition : Nat) (topic : String)
  | reported (text : String)
  deriving Repr, DecidableEq

/-- The wording of a gap. -/
def LagGap.message : LagGap → String
  | missingPartition partition topic => s!"partition {partition} missing from topic '{topic}'"
  | reported text => text

/-- Why a request of the bus fails. -/
inductive Fault where
  /-- A topic has another number of partitions than the settings say. -/
  | layoutMismatch (topic : String) (expected actual : Nat)
  | misconfigured (cause : Misconfiguration)
  | unknownTopic (topic : String)
  | notAssigned (topic : String) (partition : Nat)
  | alreadyOwned (topic group : String) (partition : Nat)
  /-- Records were not acknowledged within the time set for them. -/
  | produceTimeout (limit : Nat)
  | messageTooLarge (size limit : Nat)
  | unavailable (cause : Outage)
  | lagUnknown (cause : LagGap)
  | closed
  | refused (cause : Refusal)
  deriving Repr, DecidableEq

namespace Fault

/-- The wording of a fault. -/
def message : Fault → String
  | layoutMismatch topic expected actual =>
    s!"partition count mismatch for topic '{topic}': configured {expected}, actual {actual}"
  | misconfigured cause => "Configuration error: " ++ cause.message
  | unknownTopic topic => s!"Unknown topic: {topic}"
  | notAssigned topic partition =>
    s!"Partition {partition} of topic '{topic}' is not assigned to this consumer"
  | alreadyOwned topic group partition =>
    s!"Partition {partition} of topic '{topic}' is already owned in group '{group}'"
  | produceTimeout limit =>
    let millis := Duration.toMillis limit
    s!"Produce timed out after {millis}ms"
  | messageTooLarge size limit =>
    s!"Message of {size} bytes exceeds the maximum request size of {limit} bytes"
  | unavailable cause => "Transport unavailable: " ++ cause.message
  | lagUnknown cause => "Lag fetch failed: " ++ cause.message
  | closed => "Stream is closed"
  | refused cause => "Transport error: " ++ cause.message

/-- The same request may succeed later. -/
def isTransient : Fault → Bool
  | unavailable _ | produceTimeout _ | lagUnknown _ => true
  | _ => false

/-- The settings do not fit, whatever is tried. -/
def isFatal : Fault → Bool
  | layoutMismatch .. | misconfigured _ | unknownTopic _ => true
  | _ => false

end Fault

end FrontierBus
