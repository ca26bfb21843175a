import FoodOrdering.Settings.Basic
import FoodOrdering.Text.Quoted

/-!
# Settings in words

What the log tells of the settings.  The secret is never shown, only whether there is one.
-/

namespace FoodOrdering

def numberText (value : Nat) : String :=
  String.ofList (Nat.toDigits 10 value)

namespace Settings

def routeLine (route : Route) : String :=
  "    " ++ route.pathPrefix ++ " -> " ++ route.service ++
    (if route.authenticated then " (authenticated)" else " (public)")

/-- The lines that tell of the settings. -/
def summary (settings : Settings) : List String :=
  let gateway := settings.gateway
  ["Configuration loaded:",
    "  server: " ++ settings.server.endpoint.text,
    "  gateway: " ++ gateway.endpoint.text ++ " (" ++ numberText gateway.routes.length ++
      " routes, upstream timeout " ++ numberText gateway.timeout.toNat ++ "s)"] ++
  gateway.routes.map routeLine ++
  ["  auth: jwt_secret " ++ (if settings.auth.secret.isSome then "set" else "unset") ++
      ", token_lifetime=" ++ settings.auth.lifetime,
    "  trust: zone=" ++ settings.trust.kind.name ++ " (" ++
      numberText settings.trust.peers.length ++ " trusted peers)",
    "  broker: order_topic=" ++ settings.broker.topic ++ ", capacity=" ++
      numberText settings.broker.capacity.toNat,
    "  logging: " ++ settings.logging.level.name ++ " (colored: " ++
      (if settings.logging.colored then "true" else "false") ++ ")"]

/-- The settings of tokens for diagnosis. -/
def Auth.shown (auth : Auth) : String :=
  "AuthConfig \x7b jwt_secret: " ++
    (if auth.secret.isSome then "Some(\"<redacted>\")" else "None") ++
    ", token_lifetime: " ++ Text.quoted auth.lifetime ++ " \x7d"

end Settings

end FoodOrdering
