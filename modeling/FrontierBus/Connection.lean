import FrontierBus.Text.Blank
import FrontierBus.Text.Quoted
import FrontierBus.Fault

/-!
# Connections

Where the log is reached, how the connection is secured, and how much a producer may hold back.
What files exist is not known here: checks that depend on it take a predicate on paths.
-/

namespace FrontierBus

/-- How a connection is secured; one way at a time. -/
inductive Security where
  | plain
  /-- Both sides show certificates, kept in three files. -/
  | tls (authority certificate key : String)
  /-- A name and a password. -/
  | sasl (username password : String)
  deriving Repr, DecidableEq

namespace Security

/-- A file in a directory, by its path. -/
def fileIn (directory name : String) : String :=
  match directory.toList.getLast? with
  | none => name
  | some last => if last = '/' then directory ++ name else directory ++ "/" ++ name

/-- The certificates in a directory, under their usual names. -/
def tlsFromDirectory (directory : String) : Security :=
  .tls (fileIn directory "ca-cert.pem") (fileIn directory "client-cert.pem")
    (fileIn directory "client-key.pem")

/-- The files that a security needs, in the order in which they are looked for. -/
def files : Security → List String
  | tls authority certificate key => [authority, certificate, key]
  | plain | sasl _ _ => []

/-- The name and password, if there are any, are both there. -/
def hasCredentials : Security → Bool
  | sasl username password => !username.isEmpty && !password.isEmpty
  | plain | tls _ _ _ => true

/-- The files must exist, and the name and password must not be empty. -/
def check (isFile : String → Bool) (security : Security) : Except Fault Unit :=
  match security.files.find? (!isFile ·) with
  | some path => .error (.misconfigured (.missingFile path))
  | none => if security.hasCredentials then .ok () else .error (.misconfigured .blankCredentials)

/-- What may be shown of it in a report: everything but the password. -/
def shown : Security → String
  | plain => "None"
  | tls authority certificate key =>
    "Tls \x7b ca_file: " ++ Text.Quoted.encode authority ++ ", cert_file: " ++
      Text.Quoted.encode certificate ++ ", key_file: " ++ Text.Quoted.encode key ++ " \x7d"
  | sasl username _ =>
    "Sasl \x7b username: " ++ Text.Quoted.encode username ++ ", password: \"***\" \x7d"

end Security

/-- How payloads are packed on their way. -/
inductive Compression where
  | none
  | gzip
  | snappy
  | lz4
  | zstd
  deriving Repr, DecidableEq

namespace Compression

/-- The name of a codec in settings. -/
def name : Compression → String
  | none => "none"
  | gzip => "gzip"
  | snappy => "snappy"
  | lz4 => "lz4"
  | zstd => "zstd"

/-- The codec with a name; case does not matter, and no name means no packing. The only character
beyond ASCII whose lower case is an ASCII letter is the Kelvin sign, and no name contains a `k`. -/
def ofName? (text : String) : Option Compression :=
  match Text.lowerAscii text with
  | "" | "none" => some .none
  | "gzip" => some .gzip
  | "snappy" => some .snappy
  | "lz4" => some .lz4
  | "zstd" => some .zstd
  | _ => Option.none

end Compression

/-- Where and how the log is reached, and the limits of producers. -/
structure Connection where
  endpoints : List String
  security : Security
  /-- The largest record that is accepted. -/
  maxRequestSize : Nat
  /-- The octets held back that make a producer deliver on its own. -/
  batchSize : Nat
  /-- The octets that a producer holds back at most. -/
  bufferMemory : Nat
  /-- The time within which a delivery has to be acknowledged. -/
  maxBlock : Nat
  compression : Compression
  /-- How often a delivery that failed for a passing reason is repeated. -/
  retries : Nat
  deriving Repr, DecidableEq

namespace Connection

/-- A log on this machine, with room for a batch of one mebibyte and a buffer of 130. -/
def standard : Connection where
  endpoints := ["127.0.0.1:9092"]
  security := .plain
  maxRequestSize := 4 * 1024 * 1024
  batchSize := 1024 * 1024
  bufferMemory := 130 * 1024 * 1024
  maxBlock := 60 * Duration.second
  compression := .none
  retries := 5

/-- The endpoints in one line. -/
def bootstrapServers (connection : Connection) : String :=
  ",".intercalate connection.endpoints

/-- There are endpoints, the limits are positive and in order, and the security is complete. -/
def check (isFile : String → Bool) (connection : Connection) : Except Fault Unit :=
  if connection.endpoints.isEmpty || connection.endpoints.any Text.allBlank then
    .error (.misconfigured .noEndpoint)
  else if connection.maxRequestSize = 0 ∨ connection.batchSize = 0 ∨
      connection.bufferMemory = 0 then
    .error (.misconfigured .sizeNotPositive)
  else if connection.bufferMemory < connection.batchSize then
    .error (.misconfigured (.batchBeyondBuffer connection.batchSize connection.bufferMemory))
  else if connection.maxBlock = 0 then .error (.misconfigured .blockNotPositive)
  else connection.security.check isFile

end Connection

end FrontierBus
