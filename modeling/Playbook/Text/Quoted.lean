import Playbook.Text.Hex

/-! # Quoted texts

Descriptions of actions quote selectors and values: a text stands between double quotes, with the
double quote, the backslash and the characters below the space escaped and nothing else. -/

namespace Playbook.Text

/-- Quote one character. -/
def quotedChar (c : CodePoint) : List CodePoint :=
  if c = '"' || c = '\\' then ['\\', c]
  else if c = '\n' then ['\\', 'n']
  else if c = '\r' then ['\\', 'r']
  else if c = '\t' then ['\\', 't']
  else if c = '\x08' then ['\\', 'b']
  else if c = '\x0C' then ['\\', 'f']
  else if c.toNat < 0x20 then '\\' :: 'u' :: hexDigits 4 c.toNat
  else [c]

/-- A text between double quotes. -/
def quotedChars (cs : List CodePoint) : List CodePoint :=
  .scalar '"' :: cs.flatMap quotedChar ++ [.scalar '"']

/-- A text between double quotes, with quotes, backslashes and control characters escaped. -/
def quoted (text : Text) : Text := Text.ofList (quotedChars text.toList)

@[simp] theorem quoted_toList (text : Text) : (quoted text).toList = quotedChars text.toList := by
  simp [quoted]

end Playbook.Text
