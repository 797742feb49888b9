import Playbook.Text.Encoding

/-! # Text literals

A value is written between double quotes with escapes, or between back quotes as it is. Escapes by
letter and by code point stand for characters, escapes by two hexadecimal or three octal digits for
single octets. What stands outside of escapes is encoded, stretch by stretch, and the octets of the
whole body are then decoded with replacement characters. A surrogate outside of escapes cannot be
encoded, which is no fault of the form of a literal.

## Implementation notes

The body is read character by character, with the escape in progress as the state, so that a body
that ends outside an escape can be read in pieces. -/

namespace Playbook.TextLiteral

open Text

/-- Why a text denotes nothing. -/
inductive Cause where
  | notQuoted
  | octalRange
  | codePoint
  | unknownEscape
  /-- The characters outside of escapes cannot be encoded. -/
  | unencodable (fault : EncodingFault)
deriving Repr, DecidableEq

/-- A fault in a literal: its cause and the literal as written. -/
structure Fault where
  cause : Cause
  literal : Text
deriving Repr, DecidableEq

/-- The message of a fault. -/
def Fault.message (fault : Fault) : Text :=
  match fault.cause with
  | .notQuoted => "invalid string literal " ++ fault.literal
  | .octalRange => "octal escape value > 255 in " ++ fault.literal
  | .codePoint => "escape sequence is invalid Unicode code point in " ++ fault.literal
  | .unknownEscape => "unknown escape sequence in " ++ fault.literal
  | .unencodable fault => fault.message

/-- Decide whether a text is no literal by its form. -/
def Fault.isSyntax (fault : Fault) : Bool :=
  match fault.cause with
  | .unencodable _ => false
  | .notQuoted | .octalRange | .codePoint | .unknownEscape => true

/-- The escapes that are written with digits. -/
inductive Numeric where
  | octal | hexOctet | codePoint
deriving Repr, DecidableEq

/-- The value of a digit in a numeric escape. -/
def Numeric.digit? : Numeric → CodePoint → Option Nat
  | octal, c => octalValue? c
  | _, c => hexValue? c

/-- The base of a numeric escape. -/
def Numeric.base : Numeric → Nat
  | octal => 8
  | _ => 16

/-- The octets that a numeric escape with a given value stands for. -/
def Numeric.octets : Numeric → Nat → Except Cause (List UInt8)
  | codePoint, n =>
      if n.isValidChar then .ok (Text.Utf8.encodeChar (Char.ofNat n)) else .error .codePoint
  | _, n => if n ≤ 0xFF then .ok [UInt8.ofNat n] else .error .octalRange

/-- The part of an escape that has been read. -/
inductive Escape where
  /-- Outside any escape. -/
  | outside
  /-- After the backslash. -/
  | opened
  /-- Inside a numeric escape, with some digits owed and the value of those read. -/
  | digits (numeric : Numeric) (owed : Nat) (value : Nat)
deriving Repr, DecidableEq

/-- The octet that a letter after the backslash stands for. -/
def simpleEscape? (c : CodePoint) : Option UInt8 :=
  if c = 'a' then some 0x07
  else if c = 'b' then some 0x08
  else if c = 'f' then some 0x0C
  else if c = 'n' then some 0x0A
  else if c = 'r' then some 0x0D
  else if c = 't' then some 0x09
  else if c = 'v' then some 0x0B
  else if c = '\\' then some 0x5C
  else if c = '"' then some 0x22
  else none

/-- Take the character after a backslash. -/
def openEscape (c : CodePoint) : Except Cause (List UInt8 × Escape) :=
  match simpleEscape? c with
  | some octet => .ok ([octet], .outside)
  | none =>
      if c = 'x' then .ok ([], .digits .hexOctet 2 0)
      else if c = 'u' then .ok ([], .digits .codePoint 4 0)
      else if c = 'U' then .ok ([], .digits .codePoint 8 0)
      else
        match octalValue? c with
        | some value => .ok ([], .digits .octal 2 value)
        | none => .error .unknownEscape

/-- Take a character outside of escapes: the octets that it stands for, if it opens none. The fault is
the one of a surrogate. -/
def feedPlain (fault : Fin 0x800 → EncodingFault) :
    CodePoint → Except Cause (List UInt8 × Escape)
  | .scalar c => if c = '\\' then .ok ([], .opened) else .ok (Text.Utf8.encodeChar c, .outside)
  | .surrogate n => .error (.unencodable (fault n))

/-- Take a character of a body: the octets it completes and the escape left in progress. The fault is
the one of a surrogate outside of escapes. -/
def feed (fault : Fin 0x800 → EncodingFault) (state : Escape) (c : CodePoint) :
    Except Cause (List UInt8 × Escape) :=
  match state with
  | .outside => feedPlain fault c
  | .opened => openEscape c
  | .digits numeric owed value =>
      match numeric.digit? c with
      | none => .error .unknownEscape
      | some digit =>
          let value := value * numeric.base + digit
          if owed ≤ 1 then (numeric.octets value).map fun octets => (octets, .outside)
          else .ok ([], .digits numeric (owed - 1) value)

/-- Count a character: the number of characters since the last escape. -/
def Escape.count (state : Escape) (plain : Nat) : Nat :=
  match state with
  | .outside => plain + 1
  | .opened | .digits .. => 0

/-- The octets of the rest of a body, given the escape in progress and the number of characters since
the last one. -/
def octetsFrom (state : Escape) (plain : Nat) : List CodePoint → Except Cause (List UInt8)
  | [] => if state = .outside then .ok [] else .error .unknownEscape
  | c :: cs => do
      let (octets, next) ← feed (fun n => .before n plain cs) state c
      let more ← octetsFrom next (state.count plain) cs
      return octets ++ more

/-- The octets that the body of a double-quoted literal denotes. -/
def octets (body : List CodePoint) : Except Cause (List UInt8) := octetsFrom .outside 0 body

/-- What stands between two marks that enclose a text. -/
def inside? (mark : CodePoint) : List CodePoint → Option (List CodePoint)
  | c :: d :: cs =>
      if c = mark && (d :: cs).getLast? = some mark then some (d :: cs).dropLast else none
  | _ => none

/-- The characters that a literal denotes; carriage returns are dropped from a raw one. -/
def value (literal : List CodePoint) : Except Cause (List CodePoint) :=
  match inside? '\x60' literal with
  | some body => .ok (body.filter (· ≠ '\r'))
  | none =>
      match inside? '"' literal with
      | some body => (octets body).map (Utf8.decode Utf8.replace)
      | none => .error .notQuoted

/-- The text that a literal denotes. -/
def decode (literal : Text) : Except Fault Text :=
  match value literal.toList with
  | .ok chars => .ok (Text.ofList chars)
  | .error cause => .error ⟨cause, literal⟩

end Playbook.TextLiteral
