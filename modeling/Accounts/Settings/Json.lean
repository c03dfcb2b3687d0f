import Accounts.Json.Basic
import Accounts.Settings.Basic
/-!
# Settings as JSON

The settings that are in force, group by group.  Lengths of time are whole seconds,
except for the period of the relay.
-/

namespace Accounts

/-- The keys for tokens as JSON. -/
def JwtKeys.json : JwtKeys → Json
  | .secret text => .ofFields [("secret", .string text)]
  | .rsaPem privateKey publicKey =>
    .ofFields [("private_key", .string privateKey), ("public_key", .string publicKey)]

/-- The settings as JSON. -/
def Settings.json (s : Settings) : Json := .ofFields [
  ("database", .ofFields [
    ("url", .string s.database.url),
    ("max_connections", .ofNat s.database.maxConnections),
    ("min_connections", .ofNat s.database.minConnections),
    ("acquire_timeout_secs", .ofNat s.database.acquireTimeout.seconds)]),
  ("kafka", .ofFields [
    ("brokers", .ofTexts s.kafka.brokers),
    ("topic_prefix", .ofText? s.kafka.topicPrefix),
    ("producer_timeout_secs", .ofNat s.kafka.producerTimeout.seconds)]),
  ("jwt", .ofFields [
    ("keys", s.jwt.keys.json),
    ("ttl_secs", .ofNat s.jwt.ttl.seconds),
    ("two_fa_ttl_secs", .ofNat s.jwt.twoFaTtl.seconds)]),
  ("otp", .ofFields [
    ("enabled", .bool s.otp.enabled),
    ("issuer", .string s.otp.issuer),
    ("recovery_code_count", .ofNat s.otp.recoveryCodeCount),
    ("skew", .ofNat s.otp.skew)]),
  ("outbox", .ofFields [
    ("tick_secs", .ofNat s.outbox.tick.seconds),
    ("tick_subsec_ms", .ofNat (s.outbox.tick.nanos / 1000000))])]

end Accounts
