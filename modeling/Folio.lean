import Folio.Database.Schema
import Folio.Database.Stores
import Folio.Http.App
import Folio.Json.Reader
import Folio.Main
import Folio.World
import Folio.Proofs.Interleaved.Following
import Folio.Proofs.Interleaved.Registering
import Folio.Proofs.Http.FollowLog
import Folio.Proofs.Http.Login
import Folio.Proofs.Http.Privacy
import Folio.Proofs.Http.SessionValidity
import Folio.Proofs.Http.Revoked
import Folio.Proofs.Interleaved.Revoking
import Folio.Proofs.Http.ProfilePage
import Folio.Proofs.Store.UserHistory
import Folio.Proofs.Database.Listing
import Folio.Proofs.Database.Interchange
import Folio.Proofs.Http.Unchanged
import Folio.Proofs.Http.Reported
import Folio.Proofs.Http.LoginRefusal
import Folio.Proofs.Http.Receivers
import Folio.Proofs.Http.Correlation
import Folio.Proofs.Http.LoginTarget
import Folio.Proofs.Http.RegistrationErrors
import Folio.Proofs.Database.RepeatedIds
import Folio.Proofs.Http.SessionCheck
import Folio.Proofs.Problem.Codec
import Folio.Proofs.UnknownMembers
import Folio.Proofs.Time.Denoted
import Folio.Proofs.Document
import Folio.Proofs.UuidForms
import Folio.Proofs.User
import Folio.Proofs.Http.SessionContent
import Folio.Proofs.Json.Text
import Folio.Proofs.Http.Forms
import Folio.Proofs.UsernameGrammar
import Folio.Proofs.Http.Revocation
import Folio.Proofs.Settings.Session
import Folio.Proofs.Dispatcher
import Folio.Proofs.Password.Hasher
import Folio.Proofs.Identifiers
import Folio.Proofs.Database.PoolSizing
