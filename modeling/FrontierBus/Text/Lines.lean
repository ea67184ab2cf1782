import FrontierBus.Text.Utf8

/-!
# Lines of octets

Octets are cut behind every line feed. Each line is read as text on its own, so one that is no
text does not spoil those before it; a line feed, and a carriage return before it, are not part of
the text.
-/

namespace FrontierBus.Text

/-- The lines that have ended, the last one first, and the line that has begun, after one more
octet. -/
def addOctet (lines : List ByteArray × ByteArray) (octet : UInt8) : List ByteArray × ByteArray :=
  let begun := lines.2.push octet
  if octet = 0x0A then (begun :: lines.1, .empty) else (lines.1, begun)

/-- The lines of octets that have ended, each with the line feed that ends it, and behind them the
line that has begun. -/
def endedLines (octets : ByteArray) : List ByteArray × ByteArray :=
  let (ended, begun) := octets.data.foldl addOctet ([], .empty)
  (ended.reverse, begun)

/-- The lines of octets, each with the line feed that ends it; the last one may lack it. -/
def cutLines (octets : ByteArray) : List ByteArray :=
  let (ended, begun) := endedLines octets
  if begun.isEmpty then ended else ended ++ [begun]

/-- A line without what ends it. -/
def withoutEnding (line : String) : String :=
  match line.toList.reverse with
  | '\n' :: '\r' :: rest => String.ofList rest.reverse
  | '\n' :: rest => String.ofList rest.reverse
  | _ => line

/-- The text of a line without what ends it. -/
def readLine (line : ByteArray) : Except Utf8.Malformed String :=
  (Utf8.decode line).map withoutEnding

end FrontierBus.Text
