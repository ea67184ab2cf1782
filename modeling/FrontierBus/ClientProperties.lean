import FrontierBus.Connection

/-!
# Properties of a networked client

A client of a networked log is set up by properties, pairs of a name and a text. All clients share
those that reach and secure the connection; consumers, producers and probes add their own.
-/

namespace FrontierBus.ClientProperties

/-- A list of properties. -/
abbrev Properties := List (String × String)

/-- The properties that secure the connection. -/
def security : Security → Properties
  | .plain => []
  | .tls authority certificate key =>
    [("security.protocol", "ssl"), ("ssl.ca.location", authority),
      ("ssl.certificate.location", certificate), ("ssl.key.location", key)]
  | .sasl username password =>
    [("security.protocol", "sasl_ssl"), ("sasl.mechanism", "SCRAM-SHA-512"),
      ("sasl.username", username), ("sasl.password", password)]

/-- The properties of every client. -/
def base (connection : Connection) : Properties :=
  [("bootstrap.servers", connection.bootstrapServers), ("socket.timeout.ms", "120000")] ++
    security connection.security

/-- The properties of a member of a group. Checkpoints move only on request, and a group without
a checkpoint starts at the beginning. -/
def consumer (connection : Connection) (group client : String) : Properties :=
  base connection ++
    [("group.id", group), ("client.id", client), ("enable.auto.commit", "false"),
      ("enable.auto.offset.store", "false"), ("enable.partition.eof", "false"),
      ("auto.offset.reset", "earliest"), ("max.partition.fetch.bytes", "10485760"),
      ("heartbeat.interval.ms", "10000")]

/-- The properties of a producer. Deliveries that may be repeated are made idempotent. -/
def producer (connection : Connection) : Properties :=
  base connection ++
    [("message.max.bytes", toString connection.maxRequestSize),
      ("batch.size", toString connection.batchSize),
      ("queue.buffering.max.kbytes", toString (max (connection.bufferMemory / 1024) 1)),
      ("message.timeout.ms", toString (Duration.toMillis connection.maxBlock)),
      ("retries", toString connection.retries),
      ("compression.codec", connection.compression.name)] ++
    if 0 < connection.retries then [("enable.idempotence", "true")] else []

/-- The properties of a probe, which reads the checkpoints of a group without joining it. -/
def probe (connection : Connection) (group : String) : Properties :=
  base connection ++ [("group.id", group), ("enable.auto.commit", "false")]

end FrontierBus.ClientProperties
