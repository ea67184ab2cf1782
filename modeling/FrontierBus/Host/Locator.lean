import FrontierBus.Text.Utf8
import FrontierBus.Host.Domain
import FrontierBus.Host.Ipv4
import FrontierBus.Host.Ipv6
import FrontierBus.Host.Drive

/-!
# The host of a locator

A locator names a scheme, an authority and more. Of interest is only the host in the authority, in
the spelling that is the same for all ways to write it: a domain name in ASCII, an address in its
shortest text, or, under schemes that give hosts no meaning, the text with controls escaped.
-/

namespace FrontierBus.Host.Locator

open FrontierBus.Text

/-- How a scheme treats what follows it. -/
inductive Scheme where
  /-- The authority names a host on the network. -/
  | network
  /-- The authority may be missing, and a drive letter takes its place. -/
  | file
  /-- The authority has no meaning known here. -/
  | other
  deriving Repr, DecidableEq

/-- The treatment of a scheme, by its name in lower case. -/
def Scheme.named (name : List Char) : Scheme :=
  if ["http", "https", "ws", "wss", "ftp"].contains (String.ofList name) then .network
  else if String.ofList name = "file" then .file
  else .other

/-- The text without the controls and blanks around it. -/
def bare (text : List Char) : List Char :=
  strip (fun character => character.toNat ≤ 0x20) text

/-- Characters of a scheme behind the first. -/
def isSchemeCharacter (character : Char) : Bool :=
  character.isAlphanum || character == '+' || character == '-' || character == '.'

/-- The scheme in lower case, and what follows its colon. -/
def splitScheme (text : List Char) : Option (List Char × List Char) :=
  match text with
  | [] => none
  | initial :: _ =>
    if initial.isAlpha then
      match text.dropWhile isSchemeCharacter with
      | ':' :: rest => some ((text.takeWhile isSchemeCharacter).map Char.toLower, rest)
      | _ => none
    else none

/-- The characters that end an authority. -/
def endsAuthority (scheme : Scheme) (character : Char) : Bool :=
  ['/', '?', '#'].contains character || (scheme != .other && character == '\\')

/-- What follows the last at sign, or all if there is none. -/
def behindUser (authority : List Char) : List Char :=
  (authority.reverse.takeWhile (· ≠ '@')).reverse

/-- Splits at the first colon that stands outside brackets. -/
def splitNumber (inBrackets : Bool) : List Char → List Char × Option (List Char)
  | [] => ([], none)
  | ':' :: rest =>
    if inBrackets then
      let (host, number) := splitNumber true rest
      (':' :: host, number)
    else ([], some rest)
  | character :: rest =>
    let inside := if character = '[' then true else if character = ']' then false else inBrackets
    let (host, number) := splitNumber inside rest
    (character :: host, number)

/-- The number behind a host is below 2 to the 16, or missing; a backslash ends it. -/
def isServiceNumber (text : List Char) : Bool :=
  let figures := text.takeWhile Char.isDigit
  let value := figures.foldl (fun value figure => 10 * value + (figure.toNat - '0'.toNat)) 0
  value < 65536 && match text.dropWhile Char.isDigit with
    | [] => true
    | character :: _ => character == '\\'

/-- The octets of a text in which `%` and two hexadecimal figures stand for one. -/
def unescape : List UInt8 → List UInt8
  | 0x25 :: high :: low :: rest =>
    match Ipv4.figureValue (Char.ofNat high.toNat), Ipv4.figureValue (Char.ofNat low.toNat) with
    | some highValue, some lowValue => UInt8.ofNat (16 * highValue + lowValue) :: unescape rest
    | _, _ => 0x25 :: unescape (high :: low :: rest)
  | octet :: rest => octet :: unescape rest
  | [] => []

/-- The address between brackets, if the text is one. -/
def bracketed (host : List Char) : Option (List Char) :=
  match host with
  | '[' :: rest => if rest.getLast? = some ']' then some rest.dropLast else none
  | _ => none

/-- The spelling of a host on the network. -/
def networkHost (host : List Char) : Option (List Char) :=
  match host with
  | '[' :: _ => ((bracketed host).bind Ipv6.parse?).map Ipv6.text
  | _ => do
    let octets := unescape (String.ofList host).toUTF8.data.toList
    let name ← (Utf8.decode ⟨octets.toArray⟩).toOption
    let written ← Domain.toAscii name.toList
    if written.isEmpty then none
    else if Ipv4.endsInNumber written then (Ipv4.parse? written).map Ipv4.text
    else some written

/-- An octet as `%` and two hexadecimal figures in capitals. -/
def escape (octet : UInt8) : List Char :=
  let figure (value : Nat) := ((Nat.toDigits 16 value).map Char.toUpper)
  ['%'] ++ figure (octet.toNat / 16) ++ figure (octet.toNat % 16)

/-- Characters that delimit the parts of a locator, the blank, and the null character. -/
def isDelimiter (character : Char) : Bool :=
  ['\x00', ' ', '#', '/', ':', '<', '>', '?', '@', '[', '\\', ']', '^', '|'].contains character

/-- The spelling of a host whose scheme gives it no meaning. -/
def otherHost (host : List Char) : Option (List Char) :=
  match host with
  | [] => none
  | '[' :: _ => ((bracketed host).bind Ipv6.parse?).map Ipv6.text
  | _ =>
    if host.any isDelimiter then none
    else some <| (String.ofList host).toUTF8.data.toList.flatMap fun octet =>
      if octet < 0x20 || 0x7F ≤ octet then escape octet else [Char.ofNat octet.toNat]

/-- The host of an authority, and of what follows it. -/
def authorityHost (scheme : Scheme) (text : List Char) : Option (List Char) :=
  let (host, number) := splitNumber false (behindUser (text.takeWhile (!endsAuthority scheme ·)))
  if (number.map isServiceNumber).getD true then
    match scheme with
    | .other => otherHost host
    | _ => networkHost host
  else none

/-- The host of a file locator, from behind its two slashes: there is none if a drive is named or
the host is this machine. -/
def fileHost (text : List Char) : Option (List Char) :=
  let isEnd (character : Char) := Drive.isSlash character || Drive.endsPath character
  let host := Drive.visible (text.takeWhile (!isEnd ·))
  if Drive.isDrive host || host.isEmpty || Drive.opens (text.dropWhile (!isEnd ·)) then none
  else (networkHost host).filter (String.ofList · ≠ "localhost")

/-- The host of a locator, or `none` if the text is no locator or names no host. -/
def host? (text : List Char) : Option (List Char) :=
  let whole := bare text
  match splitScheme (Drive.visible whole) with
  | none => none
  | some (name, rest) =>
    match Scheme.named name with
    | .network => authorityHost .network (rest.dropWhile Drive.isSlash)
    | .file =>
      match rest with
      | first :: second :: body =>
        if Drive.isSlash first && Drive.isSlash second then
          fileHost (Drive.dropVisible ((Drive.visible whole).length - body.length) whole)
        else none
      | _ => none
    | .other =>
      match rest with
      | '/' :: '/' :: body => authorityHost .other body
      | _ => none

end FrontierBus.Host.Locator
