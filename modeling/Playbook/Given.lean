/-! # What is given

Where a value belongs, a user may give nothing instead. That differs from not speaking of the value at
all, which leaves it as it was. -/

namespace Playbook

/-- What is given for something: a value, or nothing. -/
inductive Given (α : Type) where
  | value (content : α)
  | nothing
deriving Repr, DecidableEq

/-- The value that is given, or another one for nothing. -/
def Given.getD {α : Type} (given : Given α) (fallback : α) : α :=
  match given with
  | .value content => content
  | .nothing => fallback

end Playbook
