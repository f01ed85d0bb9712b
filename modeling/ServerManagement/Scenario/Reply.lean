import ServerManagement.Envelope.Basic

/-!
# Scripted replies

Answers that a peer has ready for the requests of a method.
-/

set_option autoImplicit false

namespace ServerManagement

open ServerManagement.Json

/-- An answer that is ready before its request is known. -/
inductive Reply where
  | success (result : Value)
  | failure (error : Value)
  /-- A text in which `$ID` stands for the identifier of the request. -/
  | template (text : String)

/-- Put an identifier in the places of a template. -/
def fillTemplate (id : List Char) : List Char → List Char
  | '$' :: 'I' :: 'D' :: rest => id ++ fillTemplate id rest
  | c :: rest => c :: fillTemplate id rest
  | [] => []

def Reply.frame (id : UInt64) : Reply → String
  | .success result => renderInOrder [("id", .ofNat id.toNat), ("result", result)]
  | .failure error => renderInOrder [("id", .ofNat id.toNat), ("error", error)]
  | .template text => String.ofList (fillTemplate (Decimal.digits id.toNat) text.toList)

end ServerManagement
