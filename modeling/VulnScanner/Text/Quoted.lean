import VulnScanner.Text.Hex
import VulnScanner.Unicode.Printable

/-!
# Quoted text

The form in which a message shows a text or a sequence of octets: between single quotes, or
between double quotes when the content has a single quote and no double quote. The quote in
use and the backslash are escaped; a character that is not printable is written by its number.
-/

namespace VulnScanner.Text

/-- The quote that surrounds a content. -/
def quoteFor (hasSingle hasDouble : Bool) : Char :=
  if hasSingle && !hasDouble then '\x22' else '\x27'

/-- One character of a quoted text. -/
def quoteChar (quote c : Char) : List Char :=
  if c = quote ∨ c = '\\' then ['\\', c]
  else if c = '\n' then ['\\', 'n']
  else if c = '\r' then ['\\', 'r']
  else if c = '\t' then ['\\', 't']
  else if Unicode.isPrintable c then [c]
  else if c.toNat < 0x100 then '\\' :: 'x' :: hexPad 2 c.toNat
  else if c.toNat < 0x10000 then '\\' :: 'u' :: hexPad 4 c.toNat
  else '\\' :: 'U' :: hexPad 8 c.toNat

/-- The quoted form of a list of characters. -/
def quoteChars (s : List Char) : List Char :=
  let quote := quoteFor (s.contains '\x27') (s.contains '\x22')
  quote :: s.flatMap (quoteChar quote) ++ [quote]

/-- The quoted form of a text. -/
def quoted (s : String) : String := String.ofList (quoteChars s.toList)

/-- One octet of a quoted octet sequence; octets beyond ASCII are written by their number. -/
def quoteByte (quote : Char) (b : UInt8) : List Char :=
  if b < 0x80 then quoteChar quote (Char.ofNat b.toNat) else '\\' :: 'x' :: hexPad 2 b.toNat

/-- The quoted form of octets, marked by a leading letter. -/
def quotedBytes (bytes : List UInt8) : String :=
  let quote := quoteFor (bytes.contains 39) (bytes.contains 34)
  String.ofList ('b' :: quote :: bytes.flatMap (quoteByte quote) ++ [quote])

end VulnScanner.Text
