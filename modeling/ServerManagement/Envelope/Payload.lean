import ServerManagement.Envelope.Failure

/-!
# Payloads

Making requests from parameters, and typed results from what came in. A remote error wins over
everything else in a message, then the number of parameters, then their types.
-/

set_option autoImplicit false

namespace ServerManagement

open ServerManagement.Json
open ServerManagement.Wire

/-- Parameters as a caller hands them over: a value, or the reason why they cannot be written as
one. -/
abbrev Params := Except String Value

def Params.none : Params := .ok .null

/-- Parameters go by position, so they have to be a list; null and the empty list are none. -/
def Request.create (id : UInt64) (method : String) (params : Params) : Except Failure Request :=
  match params with
  | .error reason => .error (.encode (method ++ ": " ++ reason))
  | .ok .null => .ok ⟨id, method, Option.none⟩
  | .ok (.array []) => .ok ⟨id, method, Option.none⟩
  | .ok (.array items) => .ok ⟨id, method, some items⟩
  | .ok other => .error (.encode (method ++ ": 参数必须是位置数组, 实际为 " ++ other.kind))

/-- The frame of a message could not be read. -/
def Failure.ofFrame (fault : Fault) : Failure := .decodeOf "入站帧" fault.message

def decodeFrame (frame : Bytes) : Except Failure Inbound :=
  match Inbound.parse frame with
  | .error fault => .error (.ofFrame fault)
  | .ok inbound => .ok inbound

/-- A remote error, if there is one. -/
def checkError (error : Option Value) : Except Failure Unit :=
  match error with
  | some payload => .error (.remote payload)
  | none => .ok ()

def decodePart {α : Type} (decoder : Decoder α) (part : String) (payload : Value) :
    Except Failure α :=
  match decoder.ofValue payload with
  | .error cause => .error (.decodeOf part cause.message)
  | .ok value => .ok value

def Response.decodeResult {α : Type} (response : Response) (decoder : Decoder α) :
    Except Failure α :=
  match checkError response.error with
  | .error failure => .error failure
  | .ok _ =>
    match response.result with
    | none => .error .noResult
    | some result => decodePart decoder "result" result

def Notification.decodeParam {α : Type} (notification : Notification) (decoder : Decoder α) :
    Except Failure α :=
  match checkError notification.error with
  | .error failure => .error failure
  | .ok _ =>
    match notification.params.getD [] with
    | [param] => decodePart decoder "params" param
    | params => .error (.paramsCount 1 params.length)

def Notification.decodeParams {α : Type} (notification : Notification) (decoder : Decoder α) :
    Except Failure α :=
  match checkError notification.error with
  | .error failure => .error failure
  | .ok _ =>
    match notification.params.getD [] with
    | [] => .error .noParams
    | params => decodePart decoder "params" (.array params)

end ServerManagement
