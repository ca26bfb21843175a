import FoodOrdering.Text.Decimal
import FoodOrdering.Time.Duration

/-!
# Settings that make no sense

What can be wrong with settings once they are read, and what is said of it.
-/

namespace FoodOrdering

inductive SettingsFault where
  /-- The server would listen on a reserved number. -/
  | serverNumber (number : UInt16)
  /-- The gateway would listen on a reserved number. -/
  | gatewayNumber (number : UInt16)
  | timeout (seconds : UInt64)
  | noRoutes
  /-- A prefix does not begin with a slash. -/
  | relativePrefix (pathPrefix : String)
  /-- Two prefixes are the same but for slashes at their end. -/
  | duplicatePrefix (pathPrefix : String)
  /-- A service is no address of the web. -/
  | service (pathPrefix address : String)
  | noSecret
  | shortSecret
  /-- The lifetime of tokens cannot be read. -/
  | lifetime (text : String) (fault : Duration.Fault)
  | zeroLifetime
  /-- No trust zone has this name. -/
  | zone (text : String)
  | noPeers
  /-- A trusted peer is no internet address. -/
  | peer (text : String)
  | noTopic
  | capacity (records : UInt64)
  /-- The log file would lie elsewhere. -/
  | logFile
  deriving DecidableEq, Repr

namespace SettingsFault

/-- The part of the settings that is at fault. -/
def category : SettingsFault → String
  | .serverNumber _ => "Server"
  | .gatewayNumber _ | .timeout _ | .noRoutes | .relativePrefix _ | .duplicatePrefix _
  | .service _ _ => "Gateway"
  | .noSecret | .shortSecret | .lifetime _ _ | .zeroLifetime => "Auth"
  | .zone _ | .noPeers | .peer _ => "Trust"
  | .noTopic | .capacity _ => "Broker"
  | .logFile => "Logging"

def reservedNumber (field : String) (number : UInt16) : String :=
  field ++ " must be 0 (auto) or >= 1024, got " ++ Text.ofNat number.toNat

def detail : SettingsFault → String
  | .serverNumber number => reservedNumber "server.port" number
  | .gatewayNumber number => reservedNumber "gateway.port" number
  | .timeout seconds =>
      "gateway.upstream_timeout_secs must be 1-300, got " ++ Text.ofNat seconds.toNat
  | .noRoutes => "gateway.routes must not be empty"
  | .relativePrefix pathPrefix => "route prefix must start with '/', got '" ++ pathPrefix ++ "'"
  | .duplicatePrefix pathPrefix => "duplicate route prefix '" ++ pathPrefix ++ "'"
  | .service pathPrefix address =>
      "upstream for '" ++ pathPrefix ++ "' must be an absolute http(s) URL, got '" ++ address ++ "'"
  | .noSecret => "jwt_secret is required (set [auth] jwt_secret or BB_AUTH_JWT_SECRET)"
  | .shortSecret => "jwt_secret must be at least 32 characters"
  | .lifetime text fault =>
      "token_lifetime '" ++ text ++ "' is not a valid duration: " ++ fault.message
  | .zeroLifetime => "token_lifetime must be non-zero"
  | .zone text => "trust.zone must be any, private_network or allowlist, got '" ++ text ++ "'"
  | .noPeers => "trust.trusted_peers must not be empty when zone = \"allowlist\""
  | .peer text => "trusted peer '" ++ text ++ "' is not an IP address"
  | .noTopic => "broker.order_topic must not be empty"
  | .capacity records => "broker.channel_capacity must be 1-65536, got " ++ Text.ofNat records.toNat
  | .logFile => "logging.file must be relative and cannot contain '..'"

def message (fault : SettingsFault) : String :=
  fault.category ++ " error: " ++ fault.detail

end SettingsFault

end FoodOrdering
