import FoodOrdering.Identity.TrustZone
import FoodOrdering.Settings.Basic
import FoodOrdering.Settings.Fault
import FoodOrdering.Text.Lowercase
import FoodOrdering.Text.Segments
import FoodOrdering.Text.Utf8

/-!
# Valid settings

The parts are judged one after the other, and the first fault counts.  What is derived from a part
(a length of time, addresses, a trust zone) is derived here as well.
-/

namespace FoodOrdering

/-- The number may be bound, or is left to the system. -/
def isOpenNumber (number : UInt16) : Bool :=
  number == 0 || 1024 ≤ number

/-- The trust zone that a text names up to letter case and blanks around it. -/
def TrustKind.parse (text : String) : Except SettingsFault TrustKind :=
  let name := Text.lowercase (Text.trim text)
  match ofName? name with
  | some kind => .ok kind
  | none => .error (.zone name)

namespace Settings

def Server.validate (server : Server) : Except SettingsFault Unit :=
  if isOpenNumber server.number then .ok () else .error (.serverNumber server.number)

/-! ## Routes -/

/-- A prefix without the slashes at its end. -/
def bareEnd (text : String) : List Char :=
  Text.dropEnd (· == '/') text.toList

/-- What follows the scheme of an address of the web. -/
def afterScheme? (address : List Char) : Option (List Char) :=
  match Route.after? "http://".toList address with
  | some rest => some rest
  | none => Route.after? "https://".toList address

/-- An address of the web that names a host. -/
def isService (address : String) : Bool :=
  match afterScheme? address.toList with
  | none => false
  | some rest => !rest.isEmpty && rest.head? != some '/'

/-- Judge routes in order; `seen` holds the prefixes of those before them. -/
def validateRoutes (seen : List (List Char)) : List Route → Except SettingsFault Unit
  | [] => .ok ()
  | route :: rest =>
      if route.pathPrefix.toList.head? != some '/' then .error (.relativePrefix route.pathPrefix)
      else if seen.contains (bareEnd route.pathPrefix) then
        .error (.duplicatePrefix route.pathPrefix)
      else if !isService route.service then .error (.service route.pathPrefix route.service)
      else validateRoutes (bareEnd route.pathPrefix :: seen) rest

def Gateway.validate (gateway : Gateway) : Except SettingsFault Unit :=
  if !isOpenNumber gateway.number then .error (.gatewayNumber gateway.number)
  else if gateway.timeout == 0 || 300 < gateway.timeout then .error (.timeout gateway.timeout)
  else if gateway.routes.isEmpty then .error .noRoutes
  else validateRoutes [] gateway.routes

/-! ## Tokens -/

/-- The least number of bytes of a secret. -/
def leastSecret : Nat := 32

/-- How long a token is valid; a token that is never valid is none. -/
def Auth.duration (auth : Auth) : Except SettingsFault Duration :=
  match Duration.parse auth.lifetime with
  | .error fault => .error (.lifetime auth.lifetime fault)
  | .ok duration => if duration = Duration.zero then .error .zeroLifetime else .ok duration

/-- The bytes that tokens are signed with. -/
def Auth.requireSecret (auth : Auth) : Except SettingsFault (List UInt8) :=
  match auth.secret with
  | none => .error .noSecret
  | some secret =>
      if (Text.utf8 secret).length < leastSecret then .error .shortSecret
      else .ok (Text.utf8 secret)

/-- A secret is not required, but one that is there is long enough. -/
def Auth.validate (auth : Auth) : Except SettingsFault Unit := do
  if auth.secret.any fun secret => (Text.utf8 secret).length < leastSecret then
    .error .shortSecret
  else
    let _ ← auth.duration
    return ()

/-! ## Trust -/

/-- The address that an entry denotes, blanks around it aside. -/
def peerAddress (entry : String) : Except SettingsFault Address :=
  match Address.ofText? (Text.trim entry) with
  | some address => .ok address
  | none => .error (.peer entry)

def Trust.addresses (trust : Trust) : Except SettingsFault (List Address) :=
  trust.peers.mapM peerAddress

def Trust.zone (trust : Trust) : Except SettingsFault TrustZone :=
  match trust.kind with
  | .any => .ok .any
  | .privateNetwork => .ok .privateNetwork
  | .allowlist => trust.addresses.map .allowlist

/-- Every entry is an address, and a zone of listed peers lists some. -/
def Trust.validate (trust : Trust) : Except SettingsFault Unit := do
  let addresses ← trust.addresses
  if trust.kind = .allowlist ∧ addresses.isEmpty then .error .noPeers else return ()

/-! ## Broker and log -/

def Broker.validate (broker : Broker) : Except SettingsFault Unit :=
  if Text.isBlankText broker.topic then .error .noTopic
  else if broker.capacity == 0 || 65536 < broker.capacity then .error (.capacity broker.capacity)
  else .ok ()

/-- Two points in a row occur in a text. -/
def hasTwoPoints : List Char → Bool
  | [] => false
  | '.' :: '.' :: _ => true
  | _ :: rest => hasTwoPoints rest

def Logging.validate (logging : Logging) : Except SettingsFault Unit :=
  if logging.file.any fun file => file.toList.head? == some '/' || hasTwoPoints file.toList then
    .error .logFile
  else .ok ()

end Settings

def Settings.validate (settings : Settings) : Except SettingsFault Unit := do
  settings.server.validate
  settings.gateway.validate
  settings.auth.validate
  settings.trust.validate
  settings.broker.validate
  settings.logging.validate

end FoodOrdering
