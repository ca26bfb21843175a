import FoodOrdering.Events.Background
import FoodOrdering.Gateway.Basic
import FoodOrdering.Json.Document
import FoodOrdering.Logging.Log
import FoodOrdering.Service.Basic
import FoodOrdering.Settings.Load
import FoodOrdering.Settings.Summary
import FoodOrdering.Token.Signed
import FoodOrdering.Proofs.Gateway.Mediation
import FoodOrdering.Proofs.Gateway.Spoofing
import FoodOrdering.Proofs.Identity.Hop
import FoodOrdering.Proofs.Service.Writes
import FoodOrdering.Proofs.Reading
import FoodOrdering.Proofs.Token.Base64Url
import FoodOrdering.Proofs.Json.Number
import FoodOrdering.Proofs.Number.Shortest
import FoodOrdering.Proofs.Json.Numeral
import FoodOrdering.Proofs.Json.Text
import FoodOrdering.Proofs.Json.Object
import FoodOrdering.Proofs.Token.Parts
import FoodOrdering.Proofs.Except
import FoodOrdering.Proofs.Token.Signed
import FoodOrdering.Proofs.Service.OnlyReads
import FoodOrdering.Proofs.Service.Anonymous
import FoodOrdering.Proofs.Service.Conduct
import FoodOrdering.Proofs.Service.Progress
import FoodOrdering.Proofs.Service.OrderHistory
import FoodOrdering.Proofs.Events.Broker
import FoodOrdering.Proofs.Events.Window
import FoodOrdering.Proofs.Events.Notification
import FoodOrdering.Proofs.Exchange
import FoodOrdering.Proofs.Json.Place
import FoodOrdering.Proofs.Json.Passing
import FoodOrdering.Proofs.Json.Written
import FoodOrdering.Proofs.Json.Straying
import FoodOrdering.Proofs.Json.Turned
import FoodOrdering.Proofs.Json.Members
import FoodOrdering.Proofs.Token.Payload
import FoodOrdering.Proofs.Token.Verified
import FoodOrdering.Proofs.Service.Journal
import FoodOrdering.Proofs.Service.Refusal
import FoodOrdering.Proofs.Store.WellFormed
import FoodOrdering.Proofs.Service.Judgement
import FoodOrdering.Proofs.Service.Upkeep
import FoodOrdering.Proofs.Service.Commits
import FoodOrdering.Proofs.Service.Listing
import FoodOrdering.Proofs.Service.Timeless
import FoodOrdering.Proofs.Service.Clock
import FoodOrdering.Proofs.Dispatch
import FoodOrdering.Proofs.Settings.Routes
import FoodOrdering.Proofs.Gateway.Resolution
import FoodOrdering.Proofs.Network.Settled
import FoodOrdering.Proofs.Network.Origin
import FoodOrdering.Proofs.Gateway.Staying
import FoodOrdering.Proofs.Store.Presence
import FoodOrdering.Proofs.Service.Ending
import FoodOrdering.Proofs.Service.Required
import FoodOrdering.Proofs.Service.Unreachable
import FoodOrdering.Proofs.Service.Paths
import FoodOrdering.Proofs.Service.Concealment
import FoodOrdering.Proofs.Text.Decimal
import FoodOrdering.Proofs.Events.Listener
import FoodOrdering.Proofs.Store.Records
import FoodOrdering.Proofs.Store.Restaurants
import FoodOrdering.Proofs.Service.FieldErrors
import FoodOrdering.Proofs.Service.OrderRequest
import FoodOrdering.Proofs.Service.RestaurantRequest
import FoodOrdering.Proofs.Network.Address
import FoodOrdering.Proofs.Settings.Peers
import FoodOrdering.Proofs.Network.Block
import FoodOrdering.Proofs.Identity.TrustZone
import FoodOrdering.Proofs.Time.Duration
import FoodOrdering.Proofs.Settings.Lifetime
import FoodOrdering.Proofs.Text.Segments
import FoodOrdering.Proofs.Files.Place
import FoodOrdering.Proofs.Settings.LogPlace
import FoodOrdering.Proofs.Gateway.Connection
import FoodOrdering.Proofs.Identity.RoleLists
import FoodOrdering.Proofs.Events.Delivery
import FoodOrdering.Proofs.Store.Arrivals
import FoodOrdering.Proofs.Service.Browsing
import FoodOrdering.Proofs.Settings.Overlay
import FoodOrdering.Proofs.Identity.Stated
import FoodOrdering.Proofs.Identity.Email
import FoodOrdering.Proofs.Gateway.Forwarding
import FoodOrdering.Proofs.Service.FieldFailure
import FoodOrdering.Proofs.Service.Envelope
