import RecordFilter.Text.Category
import RecordFilter.Text.Digits
import RecordFilter.Text.Property.Mark

/-!
# Text quoted for inspection

A quoted text shows everything that would not be seen on the page: line ends and
tabs by name, and by code point whatever is not printable or attaches itself to
the character before it.
-/

namespace RecordFilter

namespace Quoted

/-- Whether the character attaches itself to the one before it. -/
def isExtending (c : Char) : Bool :=
  Category.nonspacingMarkTable.hasChar c || Category.enclosingMarkTable.hasChar c ||
    CharProperty.otherExtendTable.hasChar c

/-- Whether the character shows as ink: a letter, mark, number, punctuation or symbol. -/
def isPrintable (c : Char) : Bool :=
  match Category.ofChar c with
  | .control | .format | .surrogate | .privateUse | .unassigned => false
  | .spaceSeparator | .lineSeparator | .paragraphSeparator => c == ' '
  | _ => true

/-- One character of a quoted text. -/
def escapeChar (c : Char) : List Char :=
  if c = '"' then ['\\', '"']
  else if c = '\\' then ['\\', '\\']
  else if c = '\n' then ['\\', 'n']
  else if c = '\r' then ['\\', 'r']
  else if c = '\t' then ['\\', 't']
  else if c.toNat = 0 then ['\\', '0']
  else if isExtending c || !isPrintable c then
    ['\\', 'u', '\x7b'] ++ hexDigits c.toNat ++ ['\x7d']
  else [c]

end Quoted

def quoteText (text : String) : List Char :=
  '"' :: text.toList.flatMap Quoted.escapeChar ++ ['"']

end RecordFilter
