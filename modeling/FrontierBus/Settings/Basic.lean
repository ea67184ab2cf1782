import FrontierBus.Backoff
import FrontierBus.Connection
import FrontierBus.Partitioning

/-!
# Settings

The names of the topics and groups of the four streams, the layout that topics are expected to
have, and how the bus connects, routes, and watches the lag of the feed.
-/

namespace FrontierBus

/-- The variables that settings are read from. -/
inductive Variable where
  | endpoints
  | codec
  | maxBlock
  | enableTls
  | enableSasl
  | certificatePath
  | saslUsername
  | saslPassword
  | hostnamePartitioning
  | feedTopic
  | logTopic
  | scoringTopic
  | statsTopic
  | logWriterGroup
  | logStrategyGroup
  | scoringGroup
  | feedGroup
  | statsGroup
  | logPartitions
  | feedPartitions
  | scoringPartitions
  | statsPartitions
  | maxNextRequests
  | lagRefresh
  deriving Repr, DecidableEq

/-- The name of a variable in the environment. -/
def Variable.key : Variable → String
  | endpoints => "KAFKA_LOCATION"
  | codec => "KAFKA_CODEC"
  | maxBlock => "KAFKA_MAX_BLOCK_MS"
  | enableTls => "KAFKA_ENABLE_SSL"
  | enableSasl => "KAFKA_ENABLE_SASL"
  | certificatePath => "KAFKA_CERT_PATH"
  | saslUsername => "KAFKA_SASL_USERNAME"
  | saslPassword => "KAFKA_SASL_PASSWORD"
  | hostnamePartitioning => "QUEUE_HOSTNAME_PARTITIONING"
  | feedTopic => "SPIDER_FEED_TOPIC"
  | logTopic => "SPIDER_LOG_TOPIC"
  | scoringTopic => "SCORING_LOG_TOPIC"
  | statsTopic => "STATS_LOG_TOPIC"
  | logWriterGroup => "SPIDER_LOG_DBW_GROUP"
  | logStrategyGroup => "SPIDER_LOG_SW_GROUP"
  | scoringGroup => "SCORING_LOG_DBW_GROUP"
  | feedGroup => "SPIDER_FEED_GROUP"
  | statsGroup => "STATS_LOG_READER_GROUP"
  | logPartitions => "SPIDER_LOG_PARTITIONS"
  | feedPartitions => "SPIDER_FEED_PARTITIONS"
  | scoringPartitions => "SCORING_LOG_PARTITIONS"
  | statsPartitions => "STATS_LOG_PARTITIONS"
  | maxNextRequests => "MAX_NEXT_REQUESTS"
  | lagRefresh => "LAG_REFRESH_INTERVAL_MS"

/-- All variables. -/
def Variable.all : List Variable :=
  [endpoints, codec, maxBlock, enableTls, enableSasl, certificatePath, saslUsername, saslPassword,
    hostnamePartitioning, feedTopic, logTopic, scoringTopic, statsTopic, logWriterGroup,
    logStrategyGroup, scoringGroup, feedGroup, statsGroup, logPartitions, feedPartitions,
    scoringPartitions, statsPartitions, maxNextRequests, lagRefresh]

/-- The settings of a bus. -/
structure Settings where
  feedTopic : String
  logTopic : String
  scoringTopic : String
  statsTopic : String
  /-- The group of the workers that write the log to the database. -/
  logWriterGroup : String
  /-- The group of the workers that choose what to fetch next. -/
  logStrategyGroup : String
  scoringGroup : String
  feedGroup : String
  statsGroup : String
  logPartitions : Nat
  feedPartitions : Nat
  /-- Checked against the topic only if it is given. -/
  scoringPartitions : Option Nat
  /-- Checked against the topic only if it is given. -/
  statsPartitions : Option Nat
  /-- A feed partition with at least this lag takes no more work. -/
  maxNextRequests : Nat
  partitioning : Partitioning
  lagRefresh : Nat
  connectRetry : Backoff
  connection : Connection
  deriving DecidableEq

namespace Settings

/-- The settings for a bus on this machine. -/
def standard : Settings where
  feedTopic := "frontier-todo"
  logTopic := "frontier-done"
  scoringTopic := "frontier-score"
  statsTopic := "frontier-stats"
  logWriterGroup := "dbw-spider-log"
  logStrategyGroup := "sw-spider-log"
  scoringGroup := "dbw-scoring-log"
  feedGroup := "fetchers-spider-feed"
  statsGroup := "stats-reader-log"
  logPartitions := 1
  feedPartitions := 1
  scoringPartitions := none
  statsPartitions := none
  maxNextRequests := 64
  partitioning := .fingerprint
  lagRefresh := 5 * Duration.second
  connectRetry := .standard
  connection := .standard

/-- The names of topics and groups, with their variables. -/
def names (settings : Settings) : List (Variable × String) :=
  [(.feedTopic, settings.feedTopic), (.logTopic, settings.logTopic),
    (.scoringTopic, settings.scoringTopic), (.statsTopic, settings.statsTopic),
    (.logWriterGroup, settings.logWriterGroup), (.logStrategyGroup, settings.logStrategyGroup),
    (.scoringGroup, settings.scoringGroup), (.feedGroup, settings.feedGroup),
    (.statsGroup, settings.statsGroup)]

/-- The partition counts, with their variables. -/
def counts (settings : Settings) : List (Variable × Option Nat) :=
  [(.logPartitions, some settings.logPartitions), (.feedPartitions, some settings.feedPartitions),
    (.scoringPartitions, settings.scoringPartitions),
    (.statsPartitions, settings.statsPartitions)]

/-- No name is blank, the two groups of the log differ, all numbers are positive, and the
connection is in order. -/
def check (isFile : String → Bool) (settings : Settings) : Except Fault Unit :=
  match settings.names.find? fun entry => Text.allBlank entry.2 with
  | some (name, _) => .error (.misconfigured (.blank name.key))
  | none =>
    if settings.logWriterGroup = settings.logStrategyGroup then
      .error (.misconfigured
        (.sharedGroup Variable.logWriterGroup.key Variable.logStrategyGroup.key))
    else match settings.counts.find? fun entry => entry.2 = some 0 with
      | some (count, _) => .error (.misconfigured (.notPositive count.key))
      | none =>
        if settings.maxNextRequests = 0 then
          .error (.misconfigured (.notPositive Variable.maxNextRequests.key))
        else if settings.lagRefresh = 0 then
          .error (.misconfigured (.notPositive Variable.lagRefresh.key))
        else settings.connection.check isFile

end Settings

end FrontierBus
