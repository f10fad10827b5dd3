import MockScaffold.Text.Hex
import MockScaffold.Text.Printable

/-!
# Quotations

Messages quote the text or the bytes they complain about.  The quotation mark is the apostrophe,
unless an apostrophe and no double quote stands in the text; the mark and the backslash are
escaped, and so is every character that is not printable.
-/

namespace MockScaffold.Text

/-- The mark around a text: an apostrophe wherever that saves no escape. -/
def quoteMark (cs : List Char) : Char :=
  if cs.contains '\'' && !cs.contains '"' then '"' else '\''

/-- One character inside a quotation with the given mark. -/
def quoteChar (mark c : Char) : List Char :=
  if c = mark || c = '\\' then ['\\', c]
  else if c = '\t' then ['\\', 't']
  else if c = '\n' then ['\\', 'n']
  else if c = '\r' then ['\\', 'r']
  else if isPrintable c then [c]
  else if c.toNat < 0x100 then '\\' :: 'x' :: hex 2 c.toNat
  else if c.toNat < 0x10000 then '\\' :: 'u' :: hex 4 c.toNat
  else '\\' :: 'U' :: hex 8 c.toNat

/-- A text in quotation marks. -/
def quoted (s : String) : String :=
  let cs := s.toList
  let mark := quoteMark cs
  String.ofList (mark :: cs.flatMap (quoteChar mark) ++ [mark])

/-- One byte inside a quotation with the given mark: only ASCII is shown as it is. -/
def quoteByte (mark : Char) (b : UInt8) : List Char :=
  if b.toNat < 128 then quoteChar mark (Char.ofNat b.toNat) else '\\' :: 'x' :: hex 2 b.toNat

/-- Bytes in quotation marks, after the letter `b`. -/
def quotedBytes (bytes : List UInt8) : String :=
  let mark := quoteMark (bytes.map fun b => Char.ofNat b.toNat)
  String.ofList ('b' :: mark :: bytes.flatMap (quoteByte mark) ++ [mark])

end MockScaffold.Text
