import ServerManagement.Wire.Record

/-!
# Envelopes

The frames that travel: requests with an identifier, responses that carry the identifier of their
request, and notifications, which have none. A frame that comes in is a response exactly when its
identifier is present and not zero.
-/

set_option autoImplicit false

namespace ServerManagement

open ServerManagement.Json
open ServerManagement.Wire

/-- A call as it is sent. Absent parameters are not written. -/
structure Request where
  id : UInt64
  method : String
  params : Option (List Value)
deriving DecidableEq

/-- The answer to a call. A null result is present. -/
structure Response where
  id : Option UInt64
  method : String
  params : Option (List Value)
  result : Option Value
  error : Option Value
deriving DecidableEq

structure Notification where
  method : String
  params : Option (List Value)
  error : Option Value
deriving DecidableEq

/-- The error object that servers usually send. -/
structure RemoteError where
  code : Int32
  message : String
  data : Option Value
deriving DecidableEq

inductive Inbound where
  | response (response : Response)
  | notification (notification : Notification)
deriving DecidableEq

/-- Any value, as something that is present. -/
def presentValue : Codec (Option Value) where
  toDecoder := Codec.value.toDecoder.map some
  toValue value := value.getD .null

def Request.record : Record Request where
  name := "RpcRequest"
  blank := ⟨0, "", none⟩
  fields := [
    .required "id" .uint64 (·.id) fun id request => { request with id },
    .required "method" .text (·.method) fun method request => { request with method },
    .optional "params" (.list .value) (·.params) fun params request => { request with params }]

/-- The fields of a response. Any field may be missing. -/
def Response.record : Record Response where
  name := "RpcResponse"
  blank := ⟨none, "", none, none, none⟩
  fields := [
    .optional "id" .uint64 (·.id) fun id response => { response with id },
    .defaulted "method" .text (·.method) fun method response => { response with method },
    .optional "params" (.list .value) (·.params) fun params response => { response with params },
    { name := "result"
      presence := .defaulted
      decoder := presentValue.toDecoder.map fun result response => { response with result }
      write := (·.result) },
    .optional "error" .value (·.error) fun error response => { response with error }]

def Notification.record : Record Notification where
  name := "Notification"
  blank := ⟨"", none, none⟩
  fields := [
    .required "method" .text (·.method) fun method notification => { notification with method },
    .optional "params" (.list .value) (·.params) fun params notification =>
      { notification with params },
    .optional "error" .value (·.error) fun error notification => { notification with error }]

/-- The fields of an error object. A list must give all three. -/
def RemoteError.record : Record RemoteError where
  name := "JsonRpcError"
  blank := ⟨0, "", none⟩
  fields := [
    .required "code" .int32 (·.code) fun code error => { error with code },
    .required "message" .text (·.message) fun message error => { error with message },
    .optional "data" .value (·.data) (fun data error => { error with data }) .omittable]

def Response.success (id : UInt64) (result : Value) : Response :=
  ⟨some id, "", none, some result, none⟩

def Response.failure (id : UInt64) (error : Value) : Response :=
  ⟨some id, "", none, none, some error⟩

/-- The text of a request: identifier, method, parameters. -/
def Request.render (request : Request) : String := Request.record.render request

def Inbound.ofResponse (response : Response) : Inbound :=
  match response.id with
  | some id =>
    if id = 0 then .notification ⟨response.method, response.params, response.error⟩
    else .response response
  | none => .notification ⟨response.method, response.params, response.error⟩

def Inbound.parse (frame : Bytes) : Except Fault Inbound :=
  match Response.record.decoder.parse frame with
  | .error fault => .error fault
  | .ok envelope => .ok (.ofResponse envelope)

end ServerManagement
