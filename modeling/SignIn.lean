import SignIn.Cookie.Header
import SignIn.Cookie.Set
import SignIn.Encoding.Base64Url
import SignIn.Encoding.FormUrl
import SignIn.Entropy
import SignIn.Hash.Fingerprint
import SignIn.Hash.Hmac
import SignIn.Hash.Sha256
import SignIn.Http.Headers
import SignIn.Http.MediaType
import SignIn.Http.Status
import SignIn.Http.Transport
import SignIn.Identifier
import SignIn.Identity.Basic
import SignIn.Identity.Binding
import SignIn.Identity.Provider
import SignIn.Identity.TokenInfo
import SignIn.Json.Basic
import SignIn.Json.Numeral
import SignIn.Json.Printer
import SignIn.Json.Reader
import SignIn.Log.Entry
import SignIn.Log.Mask
import SignIn.Main
import SignIn.Nonce.Store
import SignIn.Proofs.Cookie.Cleared
import SignIn.Proofs.Cookie.Layout
import SignIn.Proofs.Cookie.Sent
import SignIn.Proofs.Cookie.Written
import SignIn.Proofs.Encoding.Base64Url
import SignIn.Proofs.Http.Transport
import SignIn.Proofs.Identity.Admission
import SignIn.Proofs.Json.Members
import SignIn.Proofs.Json.RoundTrip
import SignIn.Proofs.Nonce.Purging
import SignIn.Proofs.Refresh.Agreement
import SignIn.Proofs.Refresh.Chains
import SignIn.Proofs.Refresh.History
import SignIn.Proofs.Refresh.Indexes
import SignIn.Proofs.Refresh.Lookups
import SignIn.Proofs.Refresh.Operations
import SignIn.Proofs.Refresh.Records
import SignIn.Proofs.Refresh.Runs
import SignIn.Proofs.Refresh.Secrets
import SignIn.Proofs.Refresh.Statements
import SignIn.Proofs.Refresh.TokenIds
import SignIn.Proofs.Service.Ancestry
import SignIn.Proofs.Service.Answers
import SignIn.Proofs.Service.AtIssue
import SignIn.Proofs.Service.Availability
import SignIn.Proofs.Service.Commute
import SignIn.Proofs.Service.Contention
import SignIn.Proofs.Service.Expiries
import SignIn.Proofs.Service.Footprint
import SignIn.Proofs.Service.Grounds
import SignIn.Proofs.Service.HandedOut
import SignIn.Proofs.Service.Interleaving
import SignIn.Proofs.Service.Journal
import SignIn.Proofs.Service.LastSteps
import SignIn.Proofs.Service.LoggedIn
import SignIn.Proofs.Service.LoggedOut
import SignIn.Proofs.Service.LoginAlone
import SignIn.Proofs.Service.LogoutAlone
import SignIn.Proofs.Service.Protocols
import SignIn.Proofs.Service.Questions
import SignIn.Proofs.Service.RefreshAlone
import SignIn.Proofs.Service.Repertoire
import SignIn.Proofs.Service.Returning
import SignIn.Proofs.Service.Rotation
import SignIn.Proofs.Service.Sequence
import SignIn.Proofs.Service.SingleUse
import SignIn.Proofs.Service.Spent
import SignIn.Proofs.Session.Accepted
import SignIn.Proofs.Session.Issued
import SignIn.Proofs.Session.Minted
import SignIn.Proofs.Settings.Built
import SignIn.Proofs.Settings.FromEnvironment
import SignIn.Proofs.Text.Decimal
import SignIn.Proofs.Time.CookieDate
import SignIn.Proofs.Time.Gregorian
import SignIn.Proofs.Time.Timestamp
import SignIn.Proofs.Users.Calls
import SignIn.Proofs.Users.Directory
import SignIn.Proofs.Users.Known
import SignIn.Proofs.Users.Statements
import SignIn.Proofs.Web.Arrivals
import SignIn.Proofs.Web.BothCookies
import SignIn.Proofs.Web.Counted
import SignIn.Proofs.Web.Lifetime
import SignIn.Proofs.Web.SentBack
import SignIn.Proofs.Web.Strangers
import SignIn.Refresh.Memory
import SignIn.Refresh.Record
import SignIn.Refresh.Store
import SignIn.Refresh.Table
import SignIn.Script
import SignIn.Service.Collaborator
import SignIn.Service.Failure
import SignIn.Service.Login
import SignIn.Service.Maintenance
import SignIn.Service.Refresh
import SignIn.Service.Session
import SignIn.Service.World
import SignIn.Session.Claims
import SignIn.Session.Token
import SignIn.Session.TokenHeader
import SignIn.Session.Validator
import SignIn.Session.WebKey
import SignIn.Settings.Basic
import SignIn.Settings.Description
import SignIn.Settings.Environment
import SignIn.Storage.Backend
import SignIn.Storage.Dict
import SignIn.Storage.Table
import SignIn.Text.Ascii
import SignIn.Text.Blank
import SignIn.Text.Decimal
import SignIn.Text.Hidden
import SignIn.Text.Quoted
import SignIn.Text.Segments
import SignIn.Text.Utf8
import SignIn.Time.Calendar
import SignIn.Time.Instant
import SignIn.Time.Stamp
import SignIn.Users.Memory
import SignIn.Users.Profile
import SignIn.Users.Store
import SignIn.Users.Table
import SignIn.Web.AuthedUser
import SignIn.Web.LoginBody
import SignIn.Web.Message
import SignIn.Web.Origins
import SignIn.Web.Router
import SignIn.Web.Target
