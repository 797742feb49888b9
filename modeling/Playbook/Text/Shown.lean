import Playbook.Text.Hex
import Playbook.Text.Printable

/-! # Texts as messages show them

A message shows a text between quotation marks on one line: single marks unless the text holds a
single mark and no double one. The mark and the backslash are escaped, line feed, carriage return
and tab have short escapes, and any other unprintable character is shown by its code. -/

namespace Playbook.Text

/-- The mark that encloses a shown text. -/
def shownMark (cs : List CodePoint) : CodePoint :=
  if cs.contains '\x27' && !cs.contains '"' then '"' else '\x27'

/-- Show one character by its code, in the shortest of the three widths. -/
def shownCode (c : CodePoint) : List CodePoint :=
  let n := c.toNat
  if n ≤ 0xFF then '\\' :: 'x' :: hexDigits 2 n
  else if n ≤ 0xFFFF then '\\' :: 'u' :: hexDigits 4 n
  else '\\' :: 'U' :: hexDigits 8 n

/-- Show one character of a text enclosed in `mark`. -/
def shownChar (mark c : CodePoint) : List CodePoint :=
  if c = mark || c = '\\' then ['\\', c]
  else if c = '\t' then ['\\', 't']
  else if c = '\n' then ['\\', 'n']
  else if c = '\r' then ['\\', 'r']
  else if isPrintable c then [c]
  else shownCode c

/-- A text as messages show it. -/
def shown (text : Text) : Text :=
  let cs := text.toList
  let mark := shownMark cs
  Text.ofList (mark :: cs.flatMap (shownChar mark) ++ [mark])

end Playbook.Text
