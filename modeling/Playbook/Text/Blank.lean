import Playbook.Text.Ranges

/-! # Blank characters

The characters that separate tokens, pad settings and make a line blank. -/

namespace Playbook.Text

/-- The white-space characters of Unicode together with the four ASCII information separators. -/
def blankRanges : Ranges := [
  (0x9, 0xD), (0x1C, 0x20), (0x85, 0x85), (0xA0, 0xA0), (0x1680, 0x1680), (0x2000, 0x200A),
  (0x2028, 0x2029), (0x202F, 0x202F), (0x205F, 0x205F), (0x3000, 0x3000)]

/-- Decide whether a character is blank. -/
def isBlank (c : CodePoint) : Bool := blankRanges.contains c.toNat

/-- Decide whether a text holds blank characters only. -/
def isBlankText (text : Text) : Bool := text.toList.all isBlank

/-- Remove the blank characters at both ends. -/
def trim (text : Text) : Text :=
  Text.ofList (((text.toList.dropWhile isBlank).reverse.dropWhile isBlank).reverse)

/-- Remove every line feed and carriage return at the end. -/
def trimLineEnd (text : Text) : Text :=
  Text.ofList ((text.toList.reverse.dropWhile fun c : CodePoint => c = '\r' || c = '\n').reverse)

end Playbook.Text
