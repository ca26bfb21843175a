import FoodOrdering.Gateway.Route
import FoodOrdering.Logging.Level

/-!
# Settings

All that can be set, with the value that counts where nothing is said.
-/

namespace FoodOrdering

/-- Where a program takes connections. -/
structure Endpoint where
  host : String
  /-- Zero lets the system choose. -/
  number : UInt16
  deriving DecidableEq, Repr

def Endpoint.text (endpoint : Endpoint) : String :=
  endpoint.host ++ ":" ++ String.ofList (Nat.toDigits 10 endpoint.number.toNat)

/-- Which peers are trusted with identity headers, the list of them aside. -/
inductive TrustKind where
  | any
  | privateNetwork
  | allowlist
  deriving DecidableEq, Repr

namespace TrustKind

def name : TrustKind → String
  | .any => "any"
  | .privateNetwork => "private_network"
  | .allowlist => "allowlist"

def ofName? (text : String) : Option TrustKind :=
  if text = "any" then some .any
  else if text = "private_network" then some .privateNetwork
  else if text = "allowlist" then some .allowlist
  else none

end TrustKind

namespace Settings

structure Server where
  host : String := "127.0.0.1"
  number : UInt16 := 8081
  deriving DecidableEq, Repr

def Server.endpoint (server : Server) : Endpoint :=
  ⟨server.host, server.number⟩

def defaultRoutes : List Route :=
  [⟨"/auth", "http://127.0.0.1:8083", false⟩,
    ⟨"/api/restaurants", "http://127.0.0.1:8081", true⟩,
    ⟨"/api/orders", "http://127.0.0.1:8081", true⟩,
    ⟨"/api/notifications", "http://127.0.0.1:8084", true⟩]

structure Gateway where
  host : String := "127.0.0.1"
  number : UInt16 := 8080
  /-- Seconds until an unanswered request counts as failed. -/
  timeout : UInt64 := 30
  routes : List Route := defaultRoutes
  deriving DecidableEq, Repr

def Gateway.endpoint (gateway : Gateway) : Endpoint :=
  ⟨gateway.host, gateway.number⟩

structure Auth where
  /-- What tokens are signed with. -/
  secret : Option String := none
  /-- How long a token is valid, in words. -/
  lifetime : String := "3h"
  deriving DecidableEq, Repr

structure Trust where
  kind : TrustKind := .privateNetwork
  peers : List String := []
  deriving DecidableEq, Repr

structure Broker where
  topic : String := "order-placed-topic"
  /-- How many records a slow subscriber may be behind. -/
  capacity : UInt64 := 256
  deriving DecidableEq, Repr

structure Logging where
  level : LogLevel := .upTo .info
  colored : Bool := true
  /-- The name of the log file; without one the log goes to standard output. -/
  file : Option String := none
  /-- The directory of the log file, from the configuration directory. -/
  directory : String := "log"
  deriving DecidableEq, Repr

end Settings

structure Settings where
  server : Settings.Server := {}
  gateway : Settings.Gateway := {}
  auth : Settings.Auth := {}
  trust : Settings.Trust := {}
  broker : Settings.Broker := {}
  logging : Settings.Logging := {}
  deriving DecidableEq, Repr

end FoodOrdering
