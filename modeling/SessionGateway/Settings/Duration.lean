import SessionGateway.Settings

/-!
# Durations in settings

Settings hold whole milliseconds in sixty-four bits.  A duration is rounded
down to them, and one that is too long becomes the longest there is.
-/

namespace SessionGateway

/-- A length of time. -/
structure Duration where
  seconds : UInt64
  nanoseconds : Nat
  nanoseconds_lt : nanoseconds < 1000000000 := by omega
  deriving DecidableEq, Repr

namespace Duration

/-- The length in nanoseconds. -/
def toNanoseconds (duration : Duration) : Nat :=
  1000000000 * duration.seconds.toNat + duration.nanoseconds

/-- The whole milliseconds of a duration, at most as many as sixty-four bits can hold. -/
def saturatingMilliseconds (duration : Duration) : UInt64 :=
  let milliseconds := duration.toNanoseconds / 1000000
  if milliseconds < 18446744073709551616 then UInt64.ofNat milliseconds else 18446744073709551615

/-- The duration of some milliseconds. -/
def ofMilliseconds (milliseconds : UInt64) : Duration where
  seconds := milliseconds / 1000
  nanoseconds := 1000000 * (milliseconds.toNat % 1000)
  nanoseconds_lt := by omega

end Duration

namespace ServiceSettings

/-- The settings with another heartbeat interval. -/
def withHeartbeatInterval (settings : ServiceSettings) (interval : Duration) : ServiceSettings :=
  { settings with heartbeatInterval := interval.saturatingMilliseconds }

/-- The settings with another disconnect delay. -/
def withDisconnectDelay (settings : ServiceSettings) (delay : Duration) : ServiceSettings :=
  { settings with disconnectDelay := delay.saturatingMilliseconds }

/-- The time between heartbeats. -/
def heartbeatDuration (settings : ServiceSettings) : Duration :=
  .ofMilliseconds settings.heartbeatInterval

/-- The time without a connection until a client counts as gone. -/
def disconnectDuration (settings : ServiceSettings) : Duration :=
  .ofMilliseconds settings.disconnectDelay

end ServiceSettings

end SessionGateway
