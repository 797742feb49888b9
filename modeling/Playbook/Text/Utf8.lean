import Playbook.Text

/-! # UTF-8 octet by octet

A character is written in one to four octets. The decoder is a machine that takes one octet at a
time and remembers the character in progress. It refuses an octet at once when no character can
continue with it, so a fault covers the longest part that could still have become a character.

There are two readings. The mending one puts something else where a fault is: the replacement
character, or a surrogate for each of the octets concerned, from which the octet can be told. The
strict one stops at the first fault; a character cut off by the end of the octets is no fault yet,
since more octets may follow, and is held back.

## Implementation notes

The machine keeps the bounds of the next octet, because overlong forms, surrogates and codes above
the last code point are all refused at the second octet of a character. The strict reading is put
off for one of these: the first two octets of a surrogate are held back as well when they come last,
and are refused only when something follows them or nothing can. -/

namespace Playbook.Text.Utf8

/-- The octets of a character. -/
def encodeChar (c : Char) : List UInt8 := String.utf8EncodeChar c

/-- A character in progress: the octets taken, their payload, the octets still owed and the bounds
of the next one. -/
structure Pending where
  taken : List UInt8
  value : Nat
  owed : Nat
  low : UInt8
  high : UInt8
deriving Repr, DecidableEq

/-- What one octet leads to. -/
inductive Progress where
  | char (c : Char)
  | pending (p : Pending)
  | refused
deriving Repr, DecidableEq

/-- Begin a character. -/
def start (b : UInt8) : Progress :=
  let n := b.toNat
  if n < 0x80 then .char (Char.ofNat n)
  else if n < 0xC2 then .refused
  else if n < 0xE0 then .pending ⟨[b], n - 0xC0, 1, 0x80, 0xBF⟩
  else if n = 0xE0 then .pending ⟨[b], 0, 2, 0xA0, 0xBF⟩
  else if n = 0xED then .pending ⟨[b], 0xD, 2, 0x80, 0x9F⟩
  else if n < 0xF0 then .pending ⟨[b], n - 0xE0, 2, 0x80, 0xBF⟩
  else if n = 0xF0 then .pending ⟨[b], 0, 3, 0x90, 0xBF⟩
  else if n < 0xF4 then .pending ⟨[b], n - 0xF0, 3, 0x80, 0xBF⟩
  else if n = 0xF4 then .pending ⟨[b], 4, 3, 0x80, 0x8F⟩
  else .refused

/-- Continue a character. -/
def Pending.extend (p : Pending) (b : UInt8) : Progress :=
  if p.low ≤ b && b ≤ p.high then
    let value := p.value * 0x40 + (b.toNat - 0x80)
    if p.owed ≤ 1 then .char (Char.ofNat value)
    else .pending ⟨p.taken ++ [b], value, p.owed - 1, 0x80, 0xBF⟩
  else .refused

/-- What stands for octets that make no character. -/
abbrev Mending := List UInt8 → List CodePoint

/-- Put the replacement character for octets that make no character. -/
def replace : Mending := fun _ => [.scalar '\uFFFD']

/-- The surrogate that stands for an octet above the ASCII ones: its number ends as the octet does. -/
def escapeOctet (b : UInt8) : CodePoint := .surrogate ⟨0x400 + b.toNat, by have := b.toNat_lt; omega⟩

/-- Put surrogates for octets that make no character. -/
def escape : Mending := fun octets => octets.map escapeOctet

/-- Take an octet between two characters: what it yields and the character it begins. -/
def fresh (mend : Mending) (b : UInt8) : List CodePoint × Option Pending :=
  match start b with
  | .char c => ([.scalar c], none)
  | .pending p => ([], some p)
  | .refused => (mend [b], none)

/-- Take an octet: what it yields and the character left in progress. -/
def feed (mend : Mending) (state : Option Pending) (b : UInt8) :
    List CodePoint × Option Pending :=
  match state with
  | none => fresh mend b
  | some p =>
      match p.extend b with
      | .char c => ([.scalar c], none)
      | .pending q => ([], some q)
      | .refused => (mend p.taken ++ (fresh mend b).1, (fresh mend b).2)

/-- Decode octets of which no more follow, given the character in progress. -/
def decodeFrom (mend : Mending) : Option Pending → List UInt8 → List CodePoint
  | none, [] => []
  | some p, [] => mend p.taken
  | state, b :: bs => (feed mend state b).1 ++ decodeFrom mend (feed mend state b).2 bs

/-- Decode octets, with something else wherever they are no UTF-8. -/
def decode (mend : Mending) (bytes : List UInt8) : List CodePoint := decodeFrom mend none bytes

/-- Decode octets that others may follow, given the character in progress: the code points, and the
octets held back at the end. -/
def decodePartFrom (mend : Mending) : Option Pending → List UInt8 → List CodePoint × List UInt8
  | none, [] => ([], [])
  | some p, [] => ([], p.taken)
  | state, b :: bs =>
      let (cs, held) := decodePartFrom mend (feed mend state b).2 bs
      ((feed mend state b).1 ++ cs, held)

/-- Decode octets that others may follow. -/
def decodePart (mend : Mending) (bytes : List UInt8) : List CodePoint × List UInt8 :=
  decodePartFrom mend none bytes

/-- Why octets are no UTF-8. -/
inductive Reason where
  | start
  | continuation
  | cutOff
deriving Repr, DecidableEq

/-- A fault: the reason, the index of the first octet concerned and the octets concerned. -/
structure Fault where
  reason : Reason
  position : Nat
  octets : List UInt8
deriving Repr, DecidableEq

/-- Decide whether an octet turns a character in progress into the beginning of a surrogate. -/
def Pending.isSurrogateWith (p : Pending) (b : UInt8) : Bool :=
  p.taken = [0xED] && 0xA0 ≤ b && b ≤ 0xBF

/-- Decode strictly from an index, given the character in progress. -/
def decodeStrictFrom (position : Nat) :
    Option Pending → List UInt8 → Except Fault (List Char × List UInt8)
  | none, [] => .ok ([], [])
  | some p, [] => .ok ([], p.taken)
  | none, b :: bs =>
      match start b with
      | .char c => do
          let (cs, rest) ← decodeStrictFrom (position + 1) none bs
          return (c :: cs, rest)
      | .pending p => decodeStrictFrom (position + 1) (some p) bs
      | .refused => .error ⟨.start, position, [b]⟩
  | some p, b :: bs =>
      match p.extend b with
      | .char c => do
          let (cs, rest) ← decodeStrictFrom (position + 1) none bs
          return (c :: cs, rest)
      | .pending q => decodeStrictFrom (position + 1) (some q) bs
      | .refused =>
          if bs.isEmpty && p.isSurrogateWith b then .ok ([], p.taken ++ [b])
          else .error ⟨.continuation, position - p.taken.length, p.taken⟩

/-- Decode octets strictly: the characters, and the octets held back at the end. -/
def decodeStrict (bytes : List UInt8) : Except Fault (List Char × List UInt8) :=
  decodeStrictFrom 0 none bytes

/-- The fault that octets held back turn out to be when nothing follows them. -/
def cutOff? : List UInt8 → Option Fault
  | [] => none
  | b :: bs =>
      if b = 0xED && bs.any (0xA0 ≤ ·) then some ⟨.continuation, 0, [b]⟩
      else some ⟨.cutOff, 0, b :: bs⟩

end Playbook.Text.Utf8
