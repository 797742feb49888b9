import Playbook.Text.Hex
import Playbook.Text.Utf8

/-! # Texts and octets

Outside of a run a text is a list of octets: in a file, in the name of a file, on a stream. It is
encoded as UTF-8, in which surrogates have no place. A coder either refuses them, and refuses octets
that are no UTF-8 as well, or it lets each such octet pass as a surrogate that is encoded as that octet
again. A surrogate that stands for no octet is refused by both.

## Implementation notes

A fault names all the surrogates that stand together from the refused one on. -/

namespace Playbook.Text

/-- What a coder does about octets that are no UTF-8 and about surrogates. -/
inductive ErrorHandler where
  /-- Refuse them. -/
  | strict
  /-- Let octets pass as surrogates and back. -/
  | escape
deriving Repr, DecidableEq

/-- The octet that a surrogate is encoded as, if a coder lets it pass. -/
def ErrorHandler.octet? (handler : ErrorHandler) (n : Fin 0x800) : Option UInt8 :=
  match handler with
  | strict => none
  | escape => if 0x480 ≤ n.val ∧ n.val < 0x500 then some (UInt8.ofNat (n - 0x400)) else none

/-- A fault of encoding: the surrogate that is refused, the number of characters before it and the
number of surrogates that stand together from it on. -/
structure EncodingFault where
  surrogate : Fin 0x800
  position : Nat
  count : Nat
deriving Repr, DecidableEq

namespace EncodingFault

/-- The fault of a surrogate before some other characters. -/
def before (surrogate : Fin 0x800) (position : Nat) (cs : List CodePoint) : EncodingFault :=
  ⟨surrogate, position, 1 + (cs.takeWhile fun c => !c.isScalar).length⟩

/-- Name surrogates by their place; a single one also by its number. -/
def placeText (fault : EncodingFault) : Text :=
  if fault.count = 1 then
    "character '\\u" ++ ofList (hexDigits 4 (CodePoint.surrogate fault.surrogate).toNat)
      ++ "' in position " ++ toString fault.position
  else
    "characters in position " ++ toString fault.position ++ "-"
      ++ toString (fault.position + fault.count - 1)

/-- The message of a fault. -/
def message (fault : EncodingFault) : Text :=
  "'utf-8' codec can't encode " ++ fault.placeText ++ ": surrogates not allowed"

end EncodingFault

/-- Encode the characters from a position on. -/
def encodeFrom (handler : ErrorHandler) (position : Nat) :
    List CodePoint → Except EncodingFault (List UInt8)
  | [] => .ok []
  | .scalar c :: cs => (encodeFrom handler (position + 1) cs).map (Utf8.encodeChar c ++ ·)
  | .surrogate n :: cs =>
      match handler.octet? n with
      | some octet => (encodeFrom handler (position + 1) cs).map (octet :: ·)
      | none => .error (.before n position cs)

/-- Encode a text. -/
def encode (handler : ErrorHandler) (text : Text) : Except EncodingFault (List UInt8) :=
  encodeFrom handler 0 text.toList

/-- Decode octets that others may follow: the characters, and the octets held back at the end. -/
def decodePart (handler : ErrorHandler) (octets : List UInt8) :
    Except Utf8.Fault (List CodePoint × List UInt8) :=
  match handler with
  | .strict => (Utf8.decodeStrict octets).map fun (cs, held) => (cs.map .scalar, held)
  | .escape => .ok (Utf8.decodePart Utf8.escape octets)

/-- Decode octets that were held back and that no others follow. -/
def decodeHeld (handler : ErrorHandler) (held : List UInt8) : Except Utf8.Fault (List CodePoint) :=
  match handler, Utf8.cutOff? held with
  | .strict, some fault => .error fault
  | _, _ => .ok (Utf8.escape held)

end Playbook.Text
