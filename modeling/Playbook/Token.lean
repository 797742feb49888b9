import Playbook.Text.Blank
import Playbook.Text.Word

/-! # Tokens of composite literals

The scanner reads a text character by character and remembers the token in progress, so that reading
a text in two pieces is reading it at once. Every text scans to tokens, except one in which a literal
is opened and not closed.

## Implementation notes

The grammar of records uses identifiers, quoted and raw literals and four marks only. Numbers, rune
literals and stray characters are tokens of their own so that a fault can name what it met. -/

namespace Playbook

open Text

/-- The characters that enclose a literal. -/
inductive Delimiter where
  | double | back | single
deriving Repr, DecidableEq

namespace Delimiter

/-- The character that opens and closes a literal. -/
def char : Delimiter → CodePoint
  | double => '"'
  | back => '\x60'
  | single => '\x27'

/-- The delimiter that a character opens, if any. -/
def ofChar? (c : CodePoint) : Option Delimiter :=
  if c = '"' then some double
  else if c = '\x60' then some back
  else if c = '\x27' then some single
  else none

theorem ofChar?_eq_some_iff {c : CodePoint} {d : Delimiter} : ofChar? c = some d ↔ c = d.char := by
  unfold ofChar?
  cases d <;> split <;> simp_all [char]
  all_goals split <;> simp_all

/-- The name of the literals that a delimiter encloses. -/
def literalName : Delimiter → Text
  | double => "string literal"
  | back => "raw string literal"
  | single => "rune literal"

end Delimiter

/-- The classes of tokens. -/
inductive TokenKind where
  | identifier | quoted | raw | rune | number | mark | stray
deriving Repr, DecidableEq

/-- The class of the literals that a delimiter encloses. -/
def Delimiter.tokenKind : Delimiter → TokenKind
  | double => .quoted
  | back => .raw
  | single => .rune

/-- A token: its class, its text and the number of characters before it. -/
structure Token where
  kind : TokenKind
  text : Text
  position : Nat
deriving Repr, DecidableEq

namespace Token

/-- A literal that is not closed: its delimiter and the number of characters before it. -/
structure Unterminated where
  delimiter : Delimiter
  position : Nat
deriving Repr, DecidableEq

/-- What is known of a token in progress. -/
inductive Form where
  /-- An identifier. -/
  | word
  /-- A number; `exponent` tells that its last character may be followed by a sign. -/
  | number (exponent : Bool)
  /-- A point that begins a number if a digit follows. -/
  | point
  /-- A literal; `escaped` tells that a backslash has just been read. -/
  | literal (delimiter : Delimiter) (escaped : Bool)
deriving Repr, DecidableEq

/-- A token in progress: its form, the characters read and the number of characters before it. -/
structure Pending where
  form : Form
  chars : List CodePoint
  position : Nat
deriving Repr, DecidableEq

/-- Decide whether a character is one of the four marks of the grammar. -/
def isMark (c : CodePoint) : Bool := c = '\x7b' || c = '\x7d' || c = ':' || c = ','

/-- Decide whether a character opens the exponent of a number. -/
def isExponentMark (c : CodePoint) : Bool := c = 'e' || c = 'E' || c = 'p' || c = 'P'

/-- A token of one character. -/
def single (kind : TokenKind) (c : CodePoint) (position : Nat) : Token :=
  ⟨kind, Text.singleton c, position⟩

/-- The token that a token in progress becomes when nothing more belongs to it. -/
def Pending.finish (p : Pending) : Except Unterminated Token :=
  match p.form with
  | .word => .ok ⟨.identifier, Text.ofList p.chars, p.position⟩
  | .number _ => .ok ⟨.number, Text.ofList p.chars, p.position⟩
  | .point => .ok ⟨.stray, Text.ofList p.chars, p.position⟩
  | .literal delimiter _ => .error ⟨delimiter, p.position⟩

/-- A token in progress with one more character. -/
def Pending.push (p : Pending) (form : Form) (c : CodePoint) : Pending :=
  { p with form, chars := p.chars ++ [c] }

/-- What a character does to a token in progress. -/
inductive Effect where
  /-- The character belongs to the token, which goes on. -/
  | grows (p : Pending)
  /-- The character is the last of the token. -/
  | closes (t : Token)
  /-- The token ended before the character. -/
  | parts
  /-- The character may not stand in the token. -/
  | breaks
deriving Repr, DecidableEq

/-- The effect of a character on a token in progress. -/
def Pending.effect (p : Pending) (c : CodePoint) : Effect :=
  match p.form with
  | .word => if isWord c then .grows (p.push .word c) else .parts
  | .number exponent =>
      if isWord c || c = '.' then .grows (p.push (.number (isExponentMark c)) c)
      else if exponent && (c = '+' || c = '-') then .grows (p.push (.number false) c)
      else .parts
  | .point => if isDigit c then .grows (p.push (.number false) c) else .parts
  | .literal .back _ =>
      if c = Delimiter.back.char then .closes ⟨.raw, Text.ofList (p.chars ++ [c]), p.position⟩
      else .grows (p.push p.form c)
  | .literal delimiter true => .grows (p.push (.literal delimiter false) c)
  | .literal delimiter false =>
      if c = delimiter.char then
        .closes ⟨delimiter.tokenKind, Text.ofList (p.chars ++ [c]), p.position⟩
      else if c = '\n' then .breaks
      else .grows (p.push (.literal delimiter (c = '\\')) c)

/-- Take a character between two tokens: the token it makes and the token it begins. -/
def fresh (position : Nat) (c : CodePoint) : List Token × Option Pending :=
  if isBlank c then ([], none)
  else if isWordStart c then ([], some ⟨.word, [c], position⟩)
  else
    match Delimiter.ofChar? c with
    | some delimiter => ([], some ⟨.literal delimiter false, [c], position⟩)
    | none =>
        if isDigit c then ([], some ⟨.number false, [c], position⟩)
        else if c = '.' then ([], some ⟨.point, [c], position⟩)
        else if isMark c then ([single .mark c position], none)
        else ([single .stray c position], none)

/-- Take a character: the tokens that it completes and the token left in progress. -/
def feed (state : Option Pending) (position : Nat) (c : CodePoint) :
    Except Unterminated (List Token × Option Pending) :=
  match state with
  | none => .ok (fresh position c)
  | some p =>
      match p.effect c with
      | .grows q => .ok ([], some q)
      | .closes t => .ok ([t], none)
      | .parts => do
          let t ← p.finish
          return (t :: (fresh position c).1, (fresh position c).2)
      | .breaks => p.finish.map fun t => ([t], none)

/-- Scan the characters from a position on, given the token in progress. -/
def scanFrom (state : Option Pending) (position : Nat) :
    List CodePoint → Except Unterminated (List Token)
  | [] =>
      match state with
      | none => .ok []
      | some p => p.finish.map ([·])
  | c :: cs => do
      let (tokens, next) ← feed state position c
      let more ← scanFrom next (position + 1) cs
      return tokens ++ more

/-- Scan a text into tokens. -/
def scan (text : Text) : Except Unterminated (List Token) := scanFrom none 0 text.toList

end Token

end Playbook
