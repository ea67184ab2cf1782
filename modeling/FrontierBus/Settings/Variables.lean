import FrontierBus.Text.Number
import FrontierBus.Settings.Basic

/-!
# Settings from variables

Every setting can be given by a variable; one that is missing or blank leaves the setting as it is
by default. Numbers and flags may be padded with blanks, names may not: their blanks belong to
them.
-/

namespace FrontierBus

/-- The values of variables; `none` for those that are not set. -/
abbrev Variables := Variable → Option String

namespace Variables

/-- The values of variables as a list gives them. -/
def ofList (entries : List (Variable × String)) : Variables :=
  fun which => entries.lookup which

/-- The value of a variable, unless it is blank. -/
def value? (values : Variables) (name : Variable) : Option String :=
  (values name).filter (!Text.allBlank ·)

/-- The value of a variable that names something. -/
def name (values : Variables) (which : Variable) (default : String) : String :=
  (values.value? which).getD default

/-- The value of a variable that switches something on; it is off by default. -/
def flag (values : Variables) (which : Variable) : Except Fault Bool :=
  match values.value? which with
  | none => .ok false
  | some text =>
    match Text.lowerAscii (Text.trim text) with
    | "1" | "true" | "yes" | "on" => .ok true
    | "0" | "false" | "no" | "off" => .ok false
    | _ => .error (.misconfigured (.notFlag which.key text))

/-- The value of a variable that counts something. -/
def number (values : Variables) (which : Variable) (bound : Nat) : Except Fault (Option Nat) :=
  match values.value? which with
  | none => .ok none
  | some text =>
    match Text.natural? bound (Text.strip Text.isBlank text.toList) with
    | some value => .ok (some value)
    | none => .error (.misconfigured (.notNumber which.key text))

/-- The endpoints in a line: the pieces between commas, without the blank ones. -/
def splitEndpoints (line : String) : List String :=
  ((Text.splitAt ',' line.toList).map fun piece =>
    Text.trim (String.ofList piece)).filter fun endpoint => !endpoint.isEmpty

/-- The endpoints. -/
def endpoints (values : Variables) : List String :=
  match values.value? .endpoints with
  | none => Connection.standard.endpoints
  | some line => splitEndpoints line

/-- The codec. -/
def compression (values : Variables) : Except Fault Compression :=
  match values.value? .codec with
  | none => .ok Connection.standard.compression
  | some text =>
    match Compression.ofName? text with
    | some compression => .ok compression
    | none => .error (.misconfigured (.unknownName "compression codec" text))

/-- The security: certificates, a name and password, or nothing, but not both. -/
def security (values : Variables) : Except Fault Security := do
  let tls ← values.flag .enableTls
  let sasl ← values.flag .enableSasl
  match tls, sasl with
  | true, true =>
    .error (.misconfigured (.excludes Variable.enableTls.key Variable.enableSasl.key))
  | true, false =>
    match values.value? .certificatePath with
    | none =>
      .error (.misconfigured (.needed Variable.certificatePath.key Variable.enableTls.key))
    | some directory => .ok (.tlsFromDirectory directory)
  | false, true =>
    .ok (.sasl (values.name .saslUsername "") (values.name .saslPassword ""))
  | false, false => .ok .plain

/-- The connection. -/
def connection (values : Variables) : Except Fault Connection := do
  let compression ← values.compression
  let maxBlock ← values.number .maxBlock Word.count64
  let security ← values.security
  return { Connection.standard with
    endpoints := values.endpoints
    compression
    maxBlock := (maxBlock.map Duration.ofMillis).getD Connection.standard.maxBlock
    security }

end Variables

namespace Settings

/-- The settings that variables give, not yet checked. -/
def read (values : Variables) : Except Fault Settings := do
  let connection ← values.connection
  let byHost ← values.flag .hostnamePartitioning
  let logPartitions ← values.number .logPartitions Word.count32
  let feedPartitions ← values.number .feedPartitions Word.count32
  let scoringPartitions ← values.number .scoringPartitions Word.count32
  let statsPartitions ← values.number .statsPartitions Word.count32
  let maxNextRequests ← values.number .maxNextRequests Word.count64
  let lagRefresh ← values.number .lagRefresh Word.count64
  return {
    feedTopic := values.name .feedTopic standard.feedTopic
    logTopic := values.name .logTopic standard.logTopic
    scoringTopic := values.name .scoringTopic standard.scoringTopic
    statsTopic := values.name .statsTopic standard.statsTopic
    logWriterGroup := values.name .logWriterGroup standard.logWriterGroup
    logStrategyGroup := values.name .logStrategyGroup standard.logStrategyGroup
    scoringGroup := values.name .scoringGroup standard.scoringGroup
    feedGroup := values.name .feedGroup standard.feedGroup
    statsGroup := values.name .statsGroup standard.statsGroup
    logPartitions := logPartitions.getD standard.logPartitions
    feedPartitions := feedPartitions.getD standard.feedPartitions
    scoringPartitions
    statsPartitions
    maxNextRequests := maxNextRequests.getD standard.maxNextRequests
    partitioning := if byHost then .hostname else .fingerprint
    lagRefresh := (lagRefresh.map Duration.ofMillis).getD standard.lagRefresh
    connectRetry := standard.connectRetry
    connection }

/-- The settings that variables give, if they are in order. -/
def ofVariables (isFile : String → Bool) (values : Variables) : Except Fault Settings := do
  let settings ← read values
  settings.check isFile
  return settings

end Settings

end FrontierBus
