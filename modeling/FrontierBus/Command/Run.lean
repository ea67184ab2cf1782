import FrontierBus.Bus
import FrontierBus.Command.Line
import FrontierBus.Settings.Variables
import FrontierBus.Text.Lines

/-!
# Running a command

A command works on a timeline through the bus. What it prints is a list of lines; a command that
fails may have printed some before, and tells why by a failure with at most one cause.
-/

namespace FrontierBus.Command

/-- Why an input cannot be read on. -/
inductive InputFault where
  /-- A line is no text. -/
  | malformed (fault : Text.Utf8.Malformed)
  /-- The input has broken off, for a reason that whoever gives it words. -/
  | broken (reason : String)
  deriving Repr, DecidableEq

/-- The wording of a fault of the input. -/
def InputFault.message : InputFault → String
  | malformed fault => fault.message
  | broken reason => reason

/-- What there is to read: octets, and why there are no more if the input breaks off behind them. -/
structure Input where
  octets : ByteArray
  broken : Option String
  deriving DecidableEq

/-- The lines of an input. Where it breaks off, the line that has begun is not told. -/
def Input.lines (input : Input) : List (Except InputFault String) :=
  let read (line : ByteArray) : Except InputFault String := (Text.readLine line).mapError .malformed
  match input.broken with
  | none => (Text.cutLines input.octets).map read
  | some reason => (Text.endedLines input.octets).1.map read ++ [.error (.broken reason)]

/-- Why a command fails. -/
inductive Failure where
  /-- The settings are not in order. -/
  | settings (fault : Fault)
  | input (fault : InputFault)
  | bus (fault : Fault)
  /-- A key was given for a stream without routing. -/
  | keyNotSupported
  /-- A partition was given for a stream that is shared. -/
  | partitionNotSupported
  /-- The layouts of some streams could not be confirmed. -/
  | unconfirmed (count : Nat)
  | noOffsets (topic : String)
  deriving Repr, DecidableEq

namespace Failure

/-- The wording of a failure. -/
def message : Failure → String
  | settings _ => "Invalid bus settings"
  | input _ => "Failed to read stdin"
  | bus fault => fault.message
  | keyNotSupported => "--key is only supported for the spider feed and spider log"
  | partitionNotSupported => "--partition is not supported for single-reader streams"
  | unconfirmed count => s!"{count} stream(s) failed the check"
  | noOffsets topic => s!"Could not read offsets for {topic}"

/-- What a failure stems from, if the message does not say it. -/
def cause? : Failure → Option String
  | settings fault => some fault.message
  | input fault => some fault.message
  | _ => none

/-- The text with every line but the first moved to the right. -/
def indented (text : String) : String :=
  String.ofList <| text.toList.flatMap fun character =>
    if character = '\n' then '\n' :: List.replicate 4 ' ' else [character]

/-- The failure and its cause as they are shown. -/
def shown (failure : Failure) : String :=
  "Error: " ++ failure.message ++
    (match failure.cause? with
      | none => ""
      | some cause => "\n\nCaused by:\n    " ++ indented cause) ++ "\n"

end Failure

/-- What a command prints, and why it fails if it does. -/
structure Output where
  lines : List String
  failure : Option Failure
  deriving Repr, DecidableEq

namespace Output

/-- A command that is done. -/
def done (lines : List String) : Output := ⟨lines, none⟩

/-- A command that fails before it prints anything. -/
def failed (failure : Failure) : Output := ⟨[], some failure⟩

/-- What is printed, as one text. -/
def text (output : Output) : String :=
  String.join (output.lines.map (· ++ "\n"))

end Output

variable {Log : Type} [Transport Log]

/-- The layouts of streams, in order. -/
def layouts (bus : Bus) :
    List Stream → Timeline Log → List (Stream × Except Fault Nat) × Timeline Log
  | [], line => ([], line)
  | stream :: streams, line =>
    let (answer, line) := bus.partitionCount stream line
    let (answers, line) := layouts bus streams line
    ((stream, answer) :: answers, line)

/-- The line about the layout of a topic. -/
def layoutLine (topic : String) : Except Fault Nat → String
  | .ok count => s!"ok      {topic} ({count} partitions)"
  | .error fault => s!"FAILED  {topic}: " ++ fault.message

/-- Checks the layouts of all streams, whether some are wrong or not. -/
def checkLayouts (bus : Bus) (line : Timeline Log) : Output × Timeline Log :=
  let (answers, line) := layouts bus Stream.all line
  let wrong := answers.countP fun answer => !answer.2.isOk
  let lines := answers.map fun answer => layoutLine (answer.1.topic bus.settings) answer.2
  (⟨lines, if wrong = 0 then none else some (.unconfirmed wrong)⟩, line)

/-- Lines on their way to a stream: those that its producer has taken, and why it takes no more, if
it is not at the end. -/
structure Sending where
  taken : List String
  failure : Option Failure

/-- Sends a line, under a key or else under itself. A stream without routing takes no key. -/
def sendLine (key : Option String) (text : String) (producer : StreamProducer)
    (line : Timeline Log) : Except Fault Unit × StreamProducer × Timeline Log :=
  match producer with
  | .plain core =>
    let (answer, core, line) := core.sendMessages [text.toUTF8] line
    (answer, .plain core, line)
  | .keyed keyed =>
    let (answer, keyed, line) := keyed.send (key.getD text).toUTF8 [text.toUTF8] line
    (answer, .keyed keyed, line)

/-- Sends lines until one cannot be read or is not taken. Empty lines are left out. -/
def sendLines (key : Option String) :
    List (Except InputFault String) → StreamProducer → Timeline Log →
      Sending × StreamProducer × Timeline Log
  | [], producer, line => (⟨[], none⟩, producer, line)
  | .error fault :: _, producer, line => (⟨[], some (.input fault)⟩, producer, line)
  | .ok text :: texts, producer, line =>
    if text.isEmpty then sendLines key texts producer line
    else match sendLine key text producer line with
      | (.error fault, producer, line) => (⟨[], some (.bus fault)⟩, producer, line)
      | (.ok _, producer, line) =>
        let (sending, after) := sendLines key texts producer line
        ({ sending with taken := text :: sending.taken }, after)

/-- Sends lines to a stream and closes its producer. A producer that fails is given up. -/
def sendAll (bus : Bus) (stream : Stream) (key : Option String)
    (texts : List (Except InputFault String)) (line : Timeline Log) :
    Sending × Timeline Log :=
  match bus.producer stream line with
  | (.error fault, line) => (⟨[], some (.bus fault)⟩, line)
  | (.ok producer, line) =>
    match sendLines key texts producer line with
    | (⟨taken, some failure⟩, producer, line) =>
      (⟨taken, some failure⟩, producer.core.drop line)
    | (⟨taken, none⟩, producer, line) =>
      match producer.core.close line with
      | (.error fault, core, line) => (⟨taken, some (.bus fault)⟩, core.drop line)
      | (.ok _, _, line) => (⟨taken, none⟩, line)

/-- Sends the lines of the input to a stream. -/
def sendInput (bus : Bus) (stream : Stream) (key : Option String) (input : Input)
    (line : Timeline Log) : Output × Timeline Log :=
  if key.isSome && !stream.isKeyed then (.failed .keyNotSupported, line)
  else
    let (sending, line) := sendAll bus stream key input.lines line
    (⟨[], sending.failure⟩, line)

/-- The line about a message: where it is stored, its key and its payload. -/
def messageLine (message : Message) : String :=
  let key := match message.key with
    | some key => Text.Utf8.lossy key
    | none => "-"
  let fields := [toString message.partition, toString message.offset, key,
    Text.Utf8.lossy message.payload]
  "\t".intercalate fields

/-- Reads a batch from a stream. The session is closed whether the batch came or not; a batch that
could not be checked off is shown all the same. -/
def readBatch (bus : Bus) (stream : Stream) (partition : Option Nat) (role : Role)
    (limit millis : Nat) (line : Timeline Log) : Output × Timeline Log :=
  if partition.isSome && !stream.isKeyed then (.failed .partitionNotSupported, line)
  else match bus.consumer stream role partition line with
    | (.error fault, line) => (.failed (.bus fault), line)
    | (.ok consumer, line) =>
      let (batch, line) := consumer.pull limit (Duration.ofMillis millis) line
      let (_, _, line) := consumer.close line
      match batch with
      | .error fault => (.failed (.bus fault), line)
      | .ok messages => (.done (messages.map messageLine), line)

/-- The line about the lag of a partition. -/
def lagLine (threshold partition lag : Nat) : String :=
  let state := if lag < threshold then "open" else "full"
  "  partition " ++ Text.padded 3 partition ++ "  lag " ++ Text.padded 8 lag ++ "  " ++ state

/-- The lines about the lags of the feed. -/
def lagLines (settings : Settings) (threshold : Nat) (snapshot : LagSnapshot) : List String :=
  let topic := Stream.feed.topic settings
  let group := Stream.feed.group .writer settings
  let available := ", ".intercalate ((snapshot.below threshold).map toString)
  [s!"{topic} / {group} (threshold {threshold})"] ++
    snapshot.lags.map (fun entry => lagLine threshold entry.1 entry.2) ++
    [s!"available: [{available}]"]

/-- Shows the lag of the feed, and which partitions have less than a threshold. -/
def showLag (bus : Bus) (threshold : Option Nat) (line : Timeline Log) : Output × Timeline Log :=
  match bus.admission line with
  | (.error fault, line) => (.failed (.bus fault), line)
  | (.ok admission, line) =>
    let snapshot := admission.snapshot line
    let output :=
      if snapshot.isEmpty then .failed (.noOffsets (Stream.feed.topic bus.settings))
      else .done (lagLines bus.settings (threshold.getD bus.settings.maxNextRequests) snapshot)
    (output, admission.stop line)

/-- Runs a command through a bus. -/
def runOn (command : Command) (bus : Bus) (input : Input) (line : Timeline Log) :
    Output × Timeline Log :=
  match command with
  | .check => checkLayouts bus line
  | .produce stream key => sendInput bus stream key input line
  | .consume stream partition role limit millis =>
    readBatch bus stream partition role limit millis line
  | .lag threshold => showLag bus threshold line

/-- Runs a command with the settings that variables give. -/
def run (command : Command) (isFile : String → Bool) (values : Variables) (input : Input)
    (line : Timeline Log) : Output × Timeline Log :=
  match (Settings.ofVariables isFile values).bind (Bus.ofSettings isFile) with
  | .error fault => (.failed (.settings fault), line)
  | .ok bus => command.runOn bus input line

end FrontierBus.Command
