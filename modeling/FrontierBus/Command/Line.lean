import FrontierBus.Stream
import FrontierBus.Text.Number

/-!
# The command line

A command is named by the first argument; its options and its positional argument follow in any
order. An option takes a value, joined to it or as the next argument, and may be given once.
Arguments are read from left to right: the first fault refuses them, unless help was asked for
before.
-/

namespace FrontierBus

/-- What the program is asked to do. -/
inductive Command where
  /-- Checks the layout of all streams. -/
  | check
  /-- Sends lines to a stream. -/
  | produce (stream : Stream) (key : Option String)
  /-- Reads a batch from a stream and checks it off. -/
  | consume (stream : Stream) (partition : Option Nat) (role : Role) (limit millis : Nat)
  /-- Shows the lag of the feed. -/
  | lag (threshold : Option Nat)
  deriving Repr, DecidableEq

namespace Command

/-- The command works on the input. -/
def takesInput : Command → Bool
  | produce .. => true
  | check | consume .. | lag _ => false

/-- The name and version of the program. -/
def versionText : String := "crawlbus 0.1.0\n"

/-- What arguments amount to. -/
inductive Request where
  | run (command : Command)
  | help
  | version
  | refused
  deriving Repr, DecidableEq

/-- The options that take a value. -/
inductive Choice where
  | key
  | partition
  | reader
  | limit
  | timeout
  | threshold
  deriving Repr, DecidableEq

/-- The letter of an option. -/
def Choice.letter : Choice → Char
  | key => 'k'
  | partition => 'p'
  | reader => 'r'
  | limit => 'm'
  | timeout => 't'
  | threshold => 't'

/-- The long name of an option. -/
def Choice.name : Choice → String
  | key => "key"
  | partition => "partition"
  | reader => "reader"
  | limit => "max"
  | timeout => "timeout-ms"
  | threshold => "threshold"

/-- The kinds of commands. -/
inductive Kind where
  | check
  | produce
  | consume
  | lag
  deriving Repr, DecidableEq

namespace Kind

/-- The name of a command. -/
def name : Kind → String
  | check => "check"
  | produce => "produce"
  | consume => "consume"
  | lag => "lag"

/-- The kind of command with a name. -/
def ofName? (text : String) : Option Kind :=
  [check, produce, consume, lag].find? fun kind => kind.name = text

/-- The options of a command. -/
def choices : Kind → List Choice
  | check => []
  | produce => [.key]
  | consume => [.partition, .reader, .limit, .timeout]
  | lag => [.threshold]

/-- The command needs the name of a stream. -/
def takesStream : Kind → Bool
  | produce | consume => true
  | check | lag => false

end Kind

/-- The options and the stream that were read so far. -/
structure Options where
  stream : Option Stream
  key : Option String
  partition : Option Nat
  role : Option Role
  limit : Option Nat
  timeout : Option Nat
  threshold : Option Nat

namespace Options

/-- Nothing was read. -/
def none : Options := ⟨.none, .none, .none, .none, .none, .none, .none⟩

/-- A number of 32 bits in an option: zero may have a minus sign. -/
def word32? (text : List Char) : Option Nat :=
  match text with
  | '-' :: figures => (Text.figures? figures).filter (· = 0)
  | text => Text.natural? Word.count32 text

/-- A role by its name. -/
def role? (text : String) : Option Role :=
  [Role.writer, Role.strategy].find? fun role => role.name = text

/-- Sets an option that has not been given before. -/
def set (choice : Choice) (text : String) (options : Options) : Option Options :=
  let figures := text.toList
  match choice with
  | .key => if options.key.isSome then .none else some { options with key := some text }
  | .partition =>
    if options.partition.isSome then .none
    else (word32? figures).map fun value => { options with partition := some value }
  | .reader =>
    if options.role.isSome then .none
    else (role? text).map fun value => { options with role := some value }
  | .limit =>
    if options.limit.isSome then .none
    else (Text.natural? Word.count64 figures).map fun value => { options with limit := some value }
  | .timeout =>
    if options.timeout.isSome then .none
    else (Text.natural? Word.count64 figures).map fun value =>
      { options with timeout := some value }
  | .threshold =>
    if options.threshold.isSome then .none
    else (Text.natural? Word.count64 figures).map fun value =>
      { options with threshold := some value }

/-- Sets the stream, once and only for a command that takes one. -/
def setStream (kind : Kind) (text : String) (options : Options) : Option Options :=
  if kind.takesStream && options.stream.isNone then
    (Stream.ofName? text).map fun stream => { options with stream := some stream }
  else .none

/-- The command that the options complete. -/
def command (kind : Kind) (options : Options) : Request :=
  match kind, options.stream with
  | .check, _ => .run .check
  | .lag, _ => .run (.lag options.threshold)
  | .produce, some stream => .run (.produce stream options.key)
  | .consume, some stream =>
    .run (.consume stream options.partition (options.role.getD .writer)
      (options.limit.getD 100) (options.timeout.getD 5000))
  | .produce, .none | .consume, .none => .refused

end Options

/-- An argument as it is written. -/
inductive Word where
  /-- Ends the options. -/
  | separator
  /-- A long option, with the value joined to it. -/
  | long (name : String) (value : Option String)
  /-- A short option, with the text joined to it. -/
  | short (letter : Char) (rest : List Char)
  | plain (text : String)
  deriving Repr, DecidableEq

/-- Reads an argument. A lone hyphen is plain. -/
def Word.read (argument : String) : Word :=
  match argument.toList with
  | ['-', '-'] => .separator
  | '-' :: '-' :: rest =>
    let name := String.ofList (rest.takeWhile (· ≠ '='))
    match rest.dropWhile (· ≠ '=') with
    | [] => .long name none
    | _ :: value => .long name (some (String.ofList value))
  | '-' :: letter :: rest => .short letter rest
  | _ => .plain argument

/-- The positional arguments behind a separator. -/
def readPlain (kind : Kind) : Options → List String → Request
  | options, [] => options.command kind
  | options, argument :: arguments =>
    match options.setStream kind argument with
    | none => .refused
    | some options => readPlain kind options arguments

/-- What an argument means to a command. -/
inductive Meaning where
  | separator
  | help
  | unknown
  /-- An option, with the value joined to it. -/
  | option (choice : Choice) (value : Option String)
  | plain (text : String)
  deriving Repr, DecidableEq

/-- The option of a command that a condition singles out. -/
def Kind.option (kind : Kind) (isMeant : Choice → Bool) (value : Option String) : Meaning :=
  match kind.choices.find? isMeant with
  | some choice => .option choice value
  | none => .unknown

/-- The text joined to a letter; an equals sign in front does not count. -/
def joined? : List Char → Option String
  | [] => none
  | '=' :: value => some (String.ofList value)
  | value => some (String.ofList value)

/-- What a word means to a command. -/
def Kind.meaning (kind : Kind) : Word → Meaning
  | .separator => .separator
  | .long "help" none => .help
  | .long name value => kind.option (fun choice => choice.name = name) value
  | .short 'h' _ => .help
  | .short letter rest => kind.option (fun choice => choice.letter = letter) (joined? rest)
  | .plain text => .plain text

/-- Sets an option to the next argument, unless that looks like an option itself. -/
def Options.setNext (choice : Choice) (next : String) (options : Options) : Option Options :=
  match Word.read next with
  | .plain text => options.set choice text
  | _ => .none

/-- Reads the arguments behind the name of a command. -/
def readOptions (kind : Kind) : Options → List String → Request
  | options, [] => options.command kind
  | options, argument :: arguments =>
    match kind.meaning (Word.read argument), arguments with
    | .separator, arguments => readPlain kind options arguments
    | .help, _ => .help
    | .unknown, _ => .refused
    | .plain text, arguments =>
      match options.setStream kind text with
      | none => .refused
      | some options => readOptions kind options arguments
    | .option choice (some value), arguments =>
      match options.set choice value with
      | none => .refused
      | some options => readOptions kind options arguments
    | .option _ none, [] => .refused
    | .option choice none, next :: arguments =>
      match options.setNext choice next with
      | none => .refused
      | some options => readOptions kind options arguments

/-- Reads all arguments. -/
def ofArguments (arguments : List String) : Request :=
  match arguments with
  | [] => .refused
  | argument :: rest =>
    match Word.read argument with
    | .long "help" none | .short 'h' _ => .help
    | .long "version" none | .short 'V' _ => .version
    | .plain "help" =>
      match rest with
      | [] => .help
      | [name] => if name = "help" || (Kind.ofName? name).isSome then .help else .refused
      | _ => .refused
    | .plain name =>
      match Kind.ofName? name with
      | none => .refused
      | some kind => readOptions kind .none rest
    | _ => .refused

end Command

end FrontierBus
