import Playbook.Fault
import Playbook.Reader

/-! # Sources of playbooks

A playbook comes in lines: from a list, which a fault may end, or from a reader. Of the standard input
it depends on the system how it is read: whether carriage returns end lines, and what becomes of octets
that are no UTF-8. -/

namespace Playbook

/-- The standard input: its octets, and how they are read. -/
structure StandardInput where
  octets : List UInt8
  format : LineFormat
deriving Repr, DecidableEq

/-- A reader at the beginning of the standard input. -/
def StandardInput.reader (input : StandardInput) : Reader := .new (.octets input.octets) input.format

/-- Where the lines of a playbook come from. -/
inductive Source where
  /-- Lines, and the fault that ends them, if one does. -/
  | listed (lines : List Text) (fault : Option Fault)
  /-- A file or the standard input. -/
  | read (reader : Reader)
deriving Repr, DecidableEq

namespace Source

/-- The fault that a failing source raises: octets that cannot be decoded are a fault of the input. -/
def raised : Fault → Fault
  | .decoding fault => .input fault
  | fault => fault

end Source

end Playbook
