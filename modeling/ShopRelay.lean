import ShopRelay.Answer.Payment
import ShopRelay.Answer.Shipping
import ShopRelay.Answer.Tax
import ShopRelay.AppScoped
import ShopRelay.Service.Dispatcher
import ShopRelay.Service.Gateway
import ShopRelay.Service.Settings
import ShopRelay.TaxApp
import ShopRelay.Time.Micros
import ShopRelay.Tracker.Trial
import ShopRelay.Proofs.Tracker.Memory
import ShopRelay.Proofs.Tracker.Stages
import ShopRelay.Proofs.Tracker.Turns
import ShopRelay.Proofs.Tracker.Delivering
import ShopRelay.Proofs.Tracker.Serving
import ShopRelay.Proofs.Tracker.Session
import ShopRelay.Proofs.Tracker.Lifecycle
import ShopRelay.Proofs.Tracker.Crew
import ShopRelay.Proofs.Tracker.Race
import ShopRelay.Proofs.Json.Literals
import ShopRelay.Proofs.Json.RoundTrip
import ShopRelay.Proofs.Tracker.Duties
import ShopRelay.Proofs.Tracker.History
import ShopRelay.Proofs.Tracker.References
import ShopRelay.Proofs.Tracker.Effects
import ShopRelay.Proofs.Tracker.Interruption
import ShopRelay.Proofs.Tracker.Accounts
import ShopRelay.Proofs.Tracker.Announcement
import ShopRelay.Proofs.Program
import ShopRelay.Proofs.Uuid
import ShopRelay.Proofs.Database.Transaction
import ShopRelay.Proofs.Database.Events
import ShopRelay.Proofs.Service.Messages
import ShopRelay.Proofs.Service.Recording
import ShopRelay.Proofs.Http.Redirects
import ShopRelay.Proofs.Http.Sending
import ShopRelay.Proofs.Text.Utf8
import ShopRelay.Proofs.Text.Excerpt
import ShopRelay.Proofs.Service.Handling
import ShopRelay.Proofs.AppScoped
import ShopRelay.Proofs.Answer.Ids
import ShopRelay.Proofs.Models
import ShopRelay.Proofs.Text.Lower
import ShopRelay.Proofs.Search.Document
import ShopRelay.Proofs.Database.Grouping
import ShopRelay.Proofs.Database.Loading
import ShopRelay.Proofs.Database.Insertion
import ShopRelay.Proofs.Number.Written
import ShopRelay.Proofs.Answer.Amounts
import ShopRelay.Proofs.Answer.Entries
import ShopRelay.Proofs.Answer.Members
import ShopRelay.Proofs.Answer.Taxes
import ShopRelay.Proofs.Search.Vector
import ShopRelay.Proofs.Tracker.Commuting
import ShopRelay.Proofs.Search.Tags
import ShopRelay.Proofs.Search.Entities
import ShopRelay.Proofs.Search.EditorText
import ShopRelay.Proofs.Database.Placeholders
import ShopRelay.Proofs.Database.SearchIndex
import ShopRelay.Proofs.Search.Indexing
import ShopRelay.Proofs.Tracker.Outcome
import ShopRelay.Proofs.Http.Reporting
import ShopRelay.Proofs.Answer.Outcomes
import ShopRelay.Proofs.Answer.TaxCodes
import ShopRelay.Proofs.TaxApp
import ShopRelay.Proofs.Search.Rendering
