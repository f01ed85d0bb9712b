/-!
# Receipts

What the holder of a receiving end finds when looking at it.
-/

set_option autoImplicit false

namespace ServerManagement

/-- The outcome of looking for the next value. -/
inductive Receipt (α : Type) where
  | value (value : α)
  | empty
  /-- Nothing is there and nothing will come. -/
  | closed
deriving DecidableEq, Repr

end ServerManagement
