import ServerManagement.Decimal.Digits

/-!
# Connection settings

Time limits in milliseconds and the capacities of the queues of a connection.
-/

set_option autoImplicit false

namespace ServerManagement

structure Settings where
  /-- A call without a limit of its own ends after this time. -/
  callTimeout : Nat
  /-- The limit for dialling, and for each background task when closing. -/
  ioTimeout : Nat
  outboundCapacity : Nat
  noticeCapacity : Nat
deriving DecidableEq, Repr

namespace Settings

/-- The settings that a connection has unless told otherwise. -/
def standard : Settings := ⟨5000, 10000, 100, 8⟩

def withCallTimeout (settings : Settings) (milliseconds : Nat) : Settings :=
  { settings with callTimeout := milliseconds }

def withIoTimeout (settings : Settings) (milliseconds : Nat) : Settings :=
  { settings with ioTimeout := milliseconds }

/-- Set how many requests may wait, at least one. -/
def withOutboundCapacity (settings : Settings) (capacity : Nat) : Settings :=
  { settings with outboundCapacity := max 1 capacity }

/-- Set how many notifications may wait for a subscriber, at least one. -/
def withNoticeCapacity (settings : Settings) (capacity : Nat) : Settings :=
  { settings with noticeCapacity := max 1 capacity }

/-- A time in the largest unit in which it has a whole part; trailing zeros of the fraction are left
out. -/
def durationText (milliseconds : Nat) : String :=
  if milliseconds = 0 then "0ns"
  else if milliseconds < 1000 then String.ofList (Decimal.digits milliseconds) ++ "ms"
  else
    let fraction := Decimal.padded 3 (milliseconds % 1000)
    let shown := (fraction.reverse.dropWhile (· == '0')).reverse
    String.ofList (Decimal.digits (milliseconds / 1000)) ++
      (if shown = [] then "" else "." ++ String.ofList shown) ++ "s"

def describe (settings : Settings) : String :=
  r"ConnectionConfig { call_timeout: " ++ durationText settings.callTimeout ++
    ", io_timeout: " ++ durationText settings.ioTimeout ++
    ", outbound_capacity: " ++ String.ofList (Decimal.digits settings.outboundCapacity) ++
    ", notification_capacity: " ++ String.ofList (Decimal.digits settings.noticeCapacity) ++
    r", .. }"

end Settings

end ServerManagement
