import FrontierBus.Admission
import FrontierBus.Consumer
import FrontierBus.Producer
import FrontierBus.Stream

/-!
# The bus

A bus has settings that were checked once, and opens producers, consumers and admissions for the
streams. Before it opens anything it asks for the layout of the topic and refuses one that the
settings do not expect. Requests that fail for a passing reason are repeated.
-/

namespace FrontierBus

/-- Settings that are in order. -/
structure Bus where
  settings : Settings
  valid : ∃ isFile, settings.check isFile = .ok ()

/-- A producer for a stream. -/
inductive StreamProducer where
  | plain (producer : Producer)
  | keyed (producer : KeyedProducer)
  deriving DecidableEq

/-- The producer without its routing. -/
def StreamProducer.core : StreamProducer → Producer
  | plain producer => producer
  | keyed producer => producer.core

theorem Settings.lagRefresh_pos_of_check {settings : Settings} {isFile : String → Bool}
    (valid : settings.check isFile = .ok ()) : 0 < settings.lagRefresh := by
  simp only [Settings.check] at valid
  split at valid
  · simp at valid
  · split at valid
    · simp at valid
    · split at valid
      · simp at valid
      · split at valid
        · simp at valid
        · split at valid
          · simp at valid
          · omega

namespace Bus

variable {Log : Type} [Transport Log]

/-- The bus with given settings, if they are in order. -/
def ofSettings (isFile : String → Bool) (settings : Settings) : Except Fault Bus :=
  match valid : settings.check isFile with
  | .error fault => .error fault
  | .ok _ => .ok ⟨settings, isFile, valid⟩

theorem lagRefresh_pos (bus : Bus) : 0 < bus.settings.lagRefresh :=
  let ⟨_, valid⟩ := bus.valid
  Settings.lagRefresh_pos_of_check valid

/-- A request that opens something, repeated as the settings say. -/
def insist (bus : Bus) {Answer : Type}
    (operation : Timeline Log → Except Fault Answer × Timeline Log) (line : Timeline Log) :
    Except Fault Answer × Timeline Log :=
  bus.settings.connectRetry.retry operation line

/-- The number of partitions of a stream, if it is the expected one. -/
def partitionCount (bus : Bus) (stream : Stream) (line : Timeline Log) :
    Except Fault Nat × Timeline Log :=
  let topic := stream.topic bus.settings
  match bus.insist (Timeline.ask (.partitionCount topic)) line with
  | (.error fault, line) => (.error fault, line)
  | (.ok actual, line) =>
    match stream.partitions bus.settings with
    | none => (.ok actual, line)
    | some expected =>
      if expected = actual then (.ok actual, line)
      else (.error (.layoutMismatch topic expected actual), line)

/-- Goes on only if the layout of a stream is the expected one. -/
def withLayout (bus : Bus) (stream : Stream) {Answer : Type}
    (operation : Nat → Timeline Log → Except Fault Answer × Timeline Log)
    (line : Timeline Log) : Except Fault Answer × Timeline Log :=
  match bus.partitionCount stream line with
  | (.error fault, line) => (.error fault, line)
  | (.ok count, line) => operation count line

/-- Opens a consumer of a stream in a role, for one partition or a share of all. The streams that
are not keyed are always shared. -/
def consumer (bus : Bus) (stream : Stream) (role : Role) (partition : Option Nat)
    (line : Timeline Log) : Except Fault Consumer × Timeline Log :=
  let topic := stream.topic bus.settings
  let group := stream.group role bus.settings
  let wanted := if stream.isKeyed then partition else none
  let join (line : Timeline Log) : Except Fault Consumer × Timeline Log :=
    match bus.insist (Timeline.ask (.join topic group (.ofPartition wanted))) line with
    | (.error fault, line) => (.error fault, line)
    | (.ok member, line) => (.ok ⟨⟨topic, group, member⟩, false⟩, line)
  bus.withLayout stream (fun count line =>
    match wanted with
    | none => join line
    | some partition =>
      if count ≤ partition then
        (.error (.misconfigured (.partitionOutOfRange partition topic count)), line)
      else join line) line

/-- Opens a producer for a stream. -/
def producer (bus : Bus) (stream : Stream) (line : Timeline Log) :
    Except Fault StreamProducer × Timeline Log :=
  let topic := stream.topic bus.settings
  let connection := bus.settings.connection
  bus.withLayout stream (fun count line =>
    match bus.insist (Timeline.ask (.openProducer topic connection)) line with
    | (.error fault, line) => (.error fault, line)
    | (.ok _, line) =>
      let core := Producer.create topic connection
      match stream.partitioning bus.settings with
      | none => (.ok (.plain core), line)
      | some partitioning => (.ok (.keyed ⟨core, partitioning, count⟩), line)) line

/-- Starts the admission of work to the feed. -/
def admission (bus : Bus) (line : Timeline Log) : Except Fault Admission × Timeline Log :=
  let topic := Stream.feed.topic bus.settings
  let group := Stream.feed.group .writer bus.settings
  bus.withLayout .feed (fun count line =>
    match bus.insist (Timeline.ask (.openProbe topic group)) line with
    | (.error fault, line) => (.error fault, line)
    | (.ok _, line) =>
      let watch :=
        Admission.blindWatch topic group count bus.settings.lagRefresh bus.lagRefresh_pos
      let (admission, line) := Admission.start watch bus.settings.maxNextRequests line
      (.ok admission, line)) line

end Bus

end FrontierBus
