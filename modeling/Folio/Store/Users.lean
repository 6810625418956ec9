import Folio.Credentials
import Folio.Generation
import Folio.Store.Error
import Folio.Store.Table

/-!
# The user store

Users are kept by id and found by username through an index. Each user has a session generation.
-/

namespace Folio

/-- Users, their password hashes and their session generations. -/
structure Users where
  records : Table UserId StoredCredentials
  ids : Table Username UserId
  generations : Table UserId Generation

namespace Users

/-- The store without users. -/
def empty : Users := ⟨.empty, .empty, .empty⟩

/-- Adds a user unless someone has the username. -/
def create (users : Users) (user : User) (hash : PasswordHash) :
    Except UserStoreError Unit × Users :=
  if users.ids.contains user.username then
    (.error (.usernameTaken user.username.text), users)
  else
    (.ok (),
      { records := users.records.insert user.id ⟨user, hash⟩
        ids := users.ids.insert user.username user.id
        generations := users.generations.insert user.id .initial })

/-- The user with an id. -/
def find? (users : Users) (id : UserId) : Option User :=
  (users.records.get? id).map (·.user)

/-- The user with a username, and the password hash. -/
def credentials? (users : Users) (username : Username) : Option StoredCredentials :=
  (users.ids.get? username).bind users.records.get?

/-- The user with a username. -/
def findUsername? (users : Users) (username : Username) : Option User :=
  (users.credentials? username).map (·.user)

/-- The session generation of a user. -/
def generation? (users : Users) (id : UserId) : Option Generation :=
  users.generations.get? id

/-- Moves a user to the next session generation; nothing happens for an unknown id. -/
def advance (users : Users) (id : UserId) : Users :=
  match users.generations.get? id with
  | some g => { users with generations := users.generations.insert id g.next }
  | none => users

end Users

end Folio
