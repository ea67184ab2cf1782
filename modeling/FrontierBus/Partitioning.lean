import FrontierBus.Checksum
import FrontierBus.Host.Locator

/-!
# Routing keys to partitions

A key always goes to the same partition of a topic with a fixed number of partitions. Fingerprints
are sampled at four fixed places; any other key goes by its checksum. Routing by host sends all
locators of one host to one partition.
-/

namespace FrontierBus

/-- Which part of a key decides its partition. -/
inductive Partitioning where
  | fingerprint
  | hostname
  deriving Repr, DecidableEq

namespace Partitioning

open FrontierBus.Text

/-- The name of the policy in settings. -/
def name : Partitioning → String
  | .fingerprint => "fingerprint"
  | .hostname => "hostname"

/-- The policy with a name; case does not matter. The only character beyond ASCII whose lower case
is an ASCII letter is the Kelvin sign, and no name contains a `k`. -/
def ofName? (text : String) : Option Partitioning :=
  match lowerAscii text with
  | "fingerprint" => some .fingerprint
  | "hostname" | "host" => some .hostname
  | _ => none

/-- The value of a hexadecimal figure given as an octet. -/
def figure? (octet : UInt8) : Option Nat :=
  Host.Ipv4.figureValue (Char.ofNat octet.toNat)

/-- The octet that two hexadecimal figures at a place of the key spell. -/
def sampleAt (key : ByteArray) (place : Nat) : Option Nat := do
  let high ← figure? (key.data.getD place 0)
  let low ← figure? (key.data.getD (place + 1) 0)
  return 16 * high + low

/-- The number that the octets at the four places spell, the first being the least. -/
def sampled (key : ByteArray) : Option Nat :=
  if 17 ≤ key.size then do
    let first ← sampleAt key 0
    let second ← sampleAt key 5
    let third ← sampleAt key 10
    let fourth ← sampleAt key 15
    return first + 256 * (second + 256 * (third + 256 * fourth))
  else none

/-- The characters from the first occurrence of `mark` on, behind it. -/
def behind? (mark : List Char) : List Char → Option (List Char)
  | [] => if mark.isEmpty then some [] else none
  | character :: rest =>
    if mark.isPrefixOf (character :: rest) then some ((character :: rest).drop mark.length)
    else behind? mark rest

/-- What announces the authority of a locator. -/
def schemeMark : List Char := [':', '/', '/']

/-- The part of an authority that stands before a last colon with only figures behind it. -/
def withoutNumber (authority : List Char) : List Char :=
  let figures := (authority.reverse.takeWhile (· ≠ ':')).reverse
  if authority.contains ':' && !figures.isEmpty && figures.all Char.isDigit then
    authority.take (authority.length - figures.length - 1)
  else authority

/-- The host of a key that is no locator: what stands between the scheme, a user, a number and a
path, if there are any. -/
def bareHost (text : List Char) : List Char :=
  let rest := (behind? schemeMark text).getD text
  let authority := rest.takeWhile fun character => !(['/', '?', '#'].contains character)
  (withoutNumber (Host.Locator.behindUser authority)).map Char.toLower

/-- The host that a key names, in lower case. A key without a scheme is read as one for the web. -/
def hostOf (key : ByteArray) : List Char :=
  let text := strip isBlank (Utf8.lossy key).toList
  let locator := if (behind? schemeMark text).isSome then text else "http://".toList ++ text
  match Host.Locator.host? locator with
  | some host => host.map Char.toLower
  | none => bareHost text

/-- The number that decides the partition of a key. -/
def hash (partitioning : Partitioning) (key : ByteArray) : Nat :=
  match partitioning with
  | .fingerprint => (sampled key).getD (Checksum.crc32 key).toNat
  | .hostname => (Checksum.crc32Text (String.ofList (hostOf key))).toNat

/-- The partition of a key among `count`; the first if there are none. -/
def route (partitioning : Partitioning) (key : ByteArray) (count : Nat) : Nat :=
  if count = 0 then 0 else partitioning.hash key % count

end Partitioning

end FrontierBus
