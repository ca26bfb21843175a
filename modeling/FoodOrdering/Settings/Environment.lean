import FoodOrdering.Settings.Validity
import FoodOrdering.Text.Segments

/-!
# Settings from the environment

A variable that is set replaces one field.  A variable that is not a text counts as unset; one
that must denote something and does not leaves its field as it is.
-/

namespace FoodOrdering

/-- The bytes of each variable that is set. -/
abbrev Environment : Type := String → Option (List UInt8)

namespace Environment

/-- The text of a variable. -/
def text? (environment : Environment) (name : String) : Option String :=
  (environment name).bind Text.ofUtf8?

/-- A field after a variable had its say. -/
def replace {α : Type} (environment : Environment) (name : String) (read : String → Option α)
    (field : α) : α :=
  (((environment.text? name).bind read).getD field)

end Environment

namespace Settings

def readUInt16? (text : String) : Option UInt16 :=
  (Text.readBelow? UInt16.size text).map UInt16.ofNat

def readUInt64? (text : String) : Option UInt64 :=
  (Text.readBelow? UInt64.size text).map UInt64.ofNat

def readSwitch (text : String) : Bool :=
  text = "true" || text = "1"

def Server.overlaid (server : Server) (environment : Environment) : Server :=
  { host := environment.replace "BB_SERVER_HOST" some server.host
    number := environment.replace "BB_SERVER_PORT" readUInt16? server.number }

def Gateway.overlaid (gateway : Gateway) (environment : Environment) : Gateway :=
  { gateway with
    host := environment.replace "BB_GATEWAY_HOST" some gateway.host
    number := environment.replace "BB_GATEWAY_PORT" readUInt16? gateway.number
    timeout :=
      environment.replace "BB_GATEWAY_UPSTREAM_TIMEOUT_SECS" readUInt64? gateway.timeout }

def Auth.overlaid (auth : Auth) (environment : Environment) : Auth :=
  { secret := environment.replace "BB_AUTH_JWT_SECRET" (fun text => some (some text)) auth.secret
    lifetime := environment.replace "BB_AUTH_TOKEN_LIFETIME" some auth.lifetime }

def Trust.overlaid (trust : Trust) (environment : Environment) : Trust :=
  { kind := environment.replace "BB_TRUST_ZONE" (fun text => (TrustKind.parse text).toOption)
      trust.kind
    peers := environment.replace "BB_TRUST_PEERS" (fun text => some (Text.commaList text))
      trust.peers }

def Broker.overlaid (broker : Broker) (environment : Environment) : Broker :=
  { topic := environment.replace "BB_BROKER_ORDER_TOPIC" some broker.topic
    capacity := environment.replace "BB_BROKER_CHANNEL_CAPACITY" readUInt64? broker.capacity }

def Logging.overlaid (logging : Logging) (environment : Environment) : Logging :=
  { logging with
    level := environment.replace "BB_LOG_LEVEL" (fun text => some (.lenient text)) logging.level
    colored := environment.replace "BB_LOG_COLORED" (fun text => some (readSwitch text))
      logging.colored
    file := environment.replace "BB_LOG_FILE" (fun text => some (some text)) logging.file }

/-- The settings after the environment had its say. -/
def overlaid (settings : Settings) (environment : Environment) : Settings :=
  { server := settings.server.overlaid environment
    gateway := settings.gateway.overlaid environment
    auth := settings.auth.overlaid environment
    trust := settings.trust.overlaid environment
    broker := settings.broker.overlaid environment
    logging := settings.logging.overlaid environment }

end Settings

end FoodOrdering
