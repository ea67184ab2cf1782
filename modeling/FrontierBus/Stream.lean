import FrontierBus.Settings.Basic

/-!
# The four streams

What is sent between the parts of a crawl: work for the fetchers, their results, scores, and
statistics. Each stream has a topic. The results are read by two roles, each for itself; scores
and statistics are sent without keys and have a single group, whose members share all partitions.
-/

namespace FrontierBus

/-- A stream between the parts of a crawl. -/
inductive Stream where
  /-- Locators to be fetched. -/
  | feed
  /-- What was fetched. -/
  | log
  /-- Scores of locators. -/
  | scoring
  /-- Statistics. -/
  | stats
  deriving Repr, DecidableEq

/-- A role in which the log is read. -/
inductive Role where
  | writer
  | strategy
  deriving Repr, DecidableEq

/-- The name of a role. -/
def Role.name : Role → String
  | writer => "db-writer"
  | strategy => "strategy-worker"

namespace Stream

/-- All streams, in the order in which they are listed. -/
def all : List Stream := [feed, log, scoring, stats]

/-- The name of a stream. -/
def name : Stream → String
  | feed => "spider-feed"
  | log => "spider-log"
  | scoring => "scoring-log"
  | stats => "stats-log"

/-- The stream with a name. -/
def ofName? (text : String) : Option Stream :=
  all.find? fun stream => stream.name = text

/-- The topic of a stream. -/
def topic (stream : Stream) (settings : Settings) : String :=
  match stream with
  | feed => settings.feedTopic
  | log => settings.logTopic
  | scoring => settings.scoringTopic
  | stats => settings.statsTopic

/-- The number of partitions that the topic of a stream must have. -/
def partitions (stream : Stream) (settings : Settings) : Option Nat :=
  match stream with
  | feed => some settings.feedPartitions
  | log => some settings.logPartitions
  | scoring => settings.scoringPartitions
  | stats => settings.statsPartitions

/-- The group that reads a stream in a role. Only the log makes a difference between roles. -/
def group (stream : Stream) (role : Role) (settings : Settings) : String :=
  match stream, role with
  | feed, _ => settings.feedGroup
  | log, .writer => settings.logWriterGroup
  | log, .strategy => settings.logStrategyGroup
  | scoring, _ => settings.scoringGroup
  | stats, _ => settings.statsGroup

/-- How the messages of a stream are routed; scores and statistics are not. -/
def partitioning (stream : Stream) (settings : Settings) : Option Partitioning :=
  match stream with
  | feed => some settings.partitioning
  | log => some .fingerprint
  | scoring | stats => none

/-- A reader of the stream may ask for a partition of its own. -/
def isKeyed : Stream → Bool
  | feed | log => true
  | scoring | stats => false

end Stream

end FrontierBus
