import ServerManagement.Envelope.Basic

/-!
# Failures

Everything that can go wrong between a caller and the server, as causes, with their wording, their
classes, and the error object that a remote payload may hold.
-/

set_option autoImplicit false

namespace ServerManagement

open ServerManagement.Json

inductive Failure where
  /-- Dialling, the handshake or the credentials were refused. -/
  | connect (reason : String)
  | encode (reason : String)
  | transport (reason : String)
  | queueClosed
  /-- A reply slot was given up before an answer came. -/
  | replyLost
  | timeout (method : String) (milliseconds : Nat)
  | cancelled (method : String)
  | remote (payload : Value)
  | noResult
  | noParams
  | paramsCount (expected actual : Nat)
  | decode (reason : String)
  | noticesClosed
  | topicTaken (topic : String)
  | invalidArgument (reason : String)
deriving DecidableEq

namespace Failure

def kind : Failure → String
  | .connect _ => "connect_failed"
  | .encode _ => "encode_failed"
  | .transport _ => "transport_error"
  | .queueClosed => "request_channel_closed"
  | .replyLost => "response_channel_closed"
  | .timeout _ _ => "timeout"
  | .cancelled _ => "cancelled"
  | .remote _ => "protocol_error"
  | .noResult => "result_empty"
  | .noParams => "params_empty"
  | .paramsCount _ _ => "params_count"
  | .decode _ => "decode_failed"
  | .noticesClosed => "notify_closed"
  | .topicTaken _ => "already_subscribed"
  | .invalidArgument _ => "invalid_argument"

def count (value : Nat) : String := String.ofList (Decimal.digits value)

def message : Failure → String
  | .connect reason => "连接失败: " ++ reason
  | .encode reason => "请求编码失败: " ++ reason
  | .transport reason => "传输错误: " ++ reason
  | .queueClosed => "请求队列已关闭"
  | .replyLost => "响应通道已关闭"
  | .timeout method milliseconds =>
    "RPC 调用超时: " ++ method ++ " (" ++ count milliseconds ++ "ms)"
  | .cancelled method => "RPC 调用已取消: " ++ method
  | .remote payload => "远端返回错误: " ++ payload.render
  | .noResult => "响应结果为空"
  | .noParams => "通知参数为空"
  | .paramsCount expected actual =>
    "参数数量不匹配: 期望 " ++ count expected ++ ", 实际 " ++ count actual
  | .decode reason => "响应解码失败: " ++ reason
  | .noticesClosed => "通知分发器已关闭"
  | .topicTaken topic => "通知主题已被订阅: " ++ topic
  | .invalidArgument reason => "无效参数: " ++ reason

def isTimeout : Failure → Bool
  | .timeout _ _ => true
  | _ => false

def isConnection : Failure → Bool
  | .connect _ | .transport _ | .queueClosed | .replyLost => true
  | _ => false

def isRecoverable : Failure → Bool
  | .timeout _ _ | .cancelled _ | .connect _ => true
  | _ => false

def payload? : Failure → Option Value
  | .remote payload => some payload
  | _ => none

/-- The error object of an error answer, when the payload has that shape. -/
def remoteError? (failure : Failure) : Option RemoteError :=
  match failure.payload? with
  | none => none
  | some payload => (RemoteError.record.ofValue payload).toOption

def connectTo (endpoint reason : String) : Failure := .connect (endpoint ++ " - " ++ reason)

/-- A part of a message could not be decoded. -/
def decodeOf (part reason : String) : Failure := .decode (part ++ ": " ++ reason)

end Failure

end ServerManagement
