import Folio.Proofs.Database.UserRows
import Folio.Proofs.Json.Decode
import Folio.Proofs.Problem.Codec
import Folio.Proofs.UuidForms

/-!
# Users written as JSON and as rows, and read back

`ofJson_eq_ok_iff` says which values are users. Both parts are read into a normal form, the id
printed in lower case with hyphens and the username without blanks around it, and what is in normal
form is read as it stands (`user_round_trip`).
-/

namespace Folio

namespace User

/-- A value gives the two parts of a user and nothing else: an object of the two members in either
order, or an array of the two. -/
inductive Gives : (value id username : Json) → Prop where
  | idFirst {id username : Json} :
      Gives (.obj [("id", id), ("username", username)]) id username
  | usernameFirst {id username : Json} :
      Gives (.obj [("username", username), ("id", id)]) id username
  | items {id username : Json} : Gives (.arr [id, username]) id username

variable {value : Json} {user : User}

/-- The members that are still to come are those of the parts that are missing. -/
theorem members_of_ofMembers {id : Option UserId} {username : Option Username}
    {members : List (String × Json)} (read : ofMembers id username members = .ok user) :
    (id = some user.id ∧ username = some user.username ∧ members = []) ∨
    (id = some user.id ∧ username = none ∧ ∃ name, members = [("username", name)] ∧
      Username.ofJson name = .ok user.username) ∨
    (id = none ∧ username = some user.username ∧ ∃ own, members = [("id", own)] ∧
      UserId.ofJson own = .ok user.id) ∨
    (id = none ∧ username = none ∧ ∃ own name,
      (members = [("id", own), ("username", name)] ∨
        members = [("username", name), ("id", own)]) ∧
      UserId.ofJson own = .ok user.id ∧ Username.ofJson name = .ok user.username) := by
  fun_induction ofMembers id username members with
  | case3 id username =>
    cases read
    exact .inl ⟨rfl, rfl, rfl⟩
  | case5 id username value rest fresh ih =>
    obtain rfl : id = none := by simpa using fresh
    obtain ⟨own, isId, later⟩ := bind_eq_ok_iff.mp read
    rcases ih own later with ⟨same, named, rfl⟩ | ⟨same, rfl, name, rfl, isName⟩ |
      ⟨absent, _⟩ | ⟨absent, _⟩
    · cases same
      exact .inr (.inr (.inl ⟨rfl, named, value, rfl, isId⟩))
    · cases same
      exact .inr (.inr (.inr ⟨rfl, rfl, value, name, .inl rfl, isId, isName⟩))
    · cases absent
    · cases absent
  | case7 id username value rest fresh _ ih =>
    obtain rfl : username = none := by simpa using fresh
    obtain ⟨name, isName, later⟩ := bind_eq_ok_iff.mp read
    rcases ih name later with ⟨known, same, rfl⟩ | ⟨_, absent, _⟩ |
      ⟨rfl, same, own, rfl, isId⟩ | ⟨_, absent, _⟩
    · cases same
      exact .inr (.inl ⟨known, rfl, value, rfl, isName⟩)
    · cases absent
    · cases same
      exact .inr (.inr (.inr ⟨rfl, rfl, own, value, .inr rfl, isId, isName⟩))
    · cases absent
  | case1 | case2 | case4 | case6 | case8 => cases read

theorem items_of_ofItems {items : List Json} (read : ofItems items = .ok user) :
    ∃ id username, items = [id, username] ∧ UserId.ofJson id = .ok user.id ∧
      Username.ofJson username = .ok user.username := by
  unfold ofItems at read
  split at read
  · cases read
  · obtain ⟨_, _, failed⟩ := bind_eq_ok_iff.mp read
    cases failed
  · rename_i id username rest
    obtain ⟨own, isId, read⟩ := bind_eq_ok_iff.mp read
    obtain ⟨name, isName, read⟩ := bind_eq_ok_iff.mp read
    split at read
    · rename_i none
      cases read
      obtain rfl := List.isEmpty_iff.mp none
      exact ⟨id, username, rfl, isId, isName⟩
    · cases read

theorem ofJson_eq_parts :
    ofJson value = .ok user ↔ ∃ id username, Gives value id username ∧
      UserId.ofJson id = .ok user.id ∧ Username.ofJson username = .ok user.username := by
  constructor
  · intro read
    unfold ofJson at read
    split at read
    · rcases members_of_ofMembers read with ⟨given, _⟩ | ⟨given, _⟩ | ⟨_, given, _⟩ |
        ⟨_, _, own, name, rfl | rfl, isId, isName⟩
      · cases given
      · cases given
      · cases given
      · exact ⟨own, name, .idFirst, isId, isName⟩
      · exact ⟨own, name, .usernameFirst, isId, isName⟩
    · obtain ⟨id, username, rfl, isId, isName⟩ := items_of_ofItems read
      exact ⟨id, username, .items, isId, isName⟩
    · cases read
  · rintro ⟨id, username, gives, isId, isName⟩
    cases gives with
    | idFirst => simp [ofJson, ofMembers, isId, isName, bind, Except.bind]
    | usernameFirst => simp [ofJson, ofMembers, isId, isName, bind, Except.bind]
    | items => simp [ofJson, ofItems, isId, isName, bind, Except.bind, pure, Except.pure]

/-- The values that are a user: both parts are texts, and each is accepted by its own reader. -/
theorem ofJson_eq_ok_iff :
    ofJson value = .ok user ↔ ∃ id username, Gives value (.str id) (.str username) ∧
      UserId.parse id = .ok user.id ∧ Username.parse username = .ok user.username := by
  rw [ofJson_eq_parts]
  unfold UserId.ofJson Username.ofJson
  simp only [Json.parsed_eq_ok_iff]
  constructor
  · rintro ⟨_, _, gives, ⟨id, rfl, isId⟩, username, rfl, isName⟩
    exact ⟨id, username, gives, isId, isName⟩
  · rintro ⟨id, username, gives, isId, isName⟩
    exact ⟨_, _, gives, ⟨id, rfl, isId⟩, username, rfl, isName⟩

theorem ofJson_toJson (user : User) : ofJson user.toJson = .ok user :=
  ofJson_eq_ok_iff.mpr ⟨_, _, .idFirst, user.id.parse_render, user.username.parse_text⟩

/-- Users as JSON and as rows. A value that is a user holds the digits of an id in one of the forms
of a UUID and a username; the user is written with the same digits in lower case between hyphens and
with the username without the blanks around it. Every user is read from what is written of it, and
from the id and the username in the row that is stored for it. -/
theorem user_round_trip :
    (∀ (value : Json) (user : User), ofJson value = .ok user →
      ∃ (id username : String) (digits : List Char), Gives value (.str id) (.str username) ∧
        digits.length = 32 ∧ Uuid.Form digits id.toList ∧
        user.toJson =
          .obj [("id", .str (String.ofList (Uuid.hyphenate (digits.map Char.toLower)))),
            ("username", .str (Text.trim username))] ∧
        ofJson user.toJson = .ok user) ∧
    ∀ user : User, ofJson user.toJson = .ok user ∧
      ∀ hash : PasswordHash, ∃ values id username,
        Database.createUser user hash = .insert .users values ∧
        values.lookup .id = some (.uuid id) ∧ values.lookup .username = some (.text username) ∧
        Database.userOfRow id username = .ok user := by
  constructor
  · intro value user read
    obtain ⟨id, username, gives, isId, isName⟩ := ofJson_eq_ok_iff.mp read
    obtain ⟨digits, all, form, shown⟩ := Uuid.forms_of_parse (UserId.uuid_of_parse isId)
    refine ⟨id, username, digits, gives, all, form, ?_, user.ofJson_toJson⟩
    unfold toJson UserId.toJson UserId.render
    rw [shown, Username.text_of_parse isName]
  · intro user
    refine ⟨user.ofJson_toJson, fun hash => ⟨_, _, _, rfl, rfl, rfl, ?_⟩⟩
    exact Database.userOfRow_user user

/-- A user with the id in braces and capital letters, and blanks around the username. -/
def spacedUser : Json :=
  .obj [("username", .str "\u3000Zoë@home\n"),
    ("id", .str "\x7b3FA85F64-5717-4562-B3FC-2C963F66AFA6\x7d")]

def zoe : User :=
  ⟨⟨⟨0x3fa85f6457174562b3fc2c963f66afa6⟩⟩, "Zoë@home", by decide, by decide, by decide +kernel⟩

theorem user_round_trip_spaced :
    ofJson spacedUser = .ok zoe ∧ ofJson zoe.toJson = .ok zoe ∧
      zoe.toJson = .obj [("id", .str "3fa85f64-5717-4562-b3fc-2c963f66afa6"),
        ("username", .str "Zoë@home")] := by
  have trimmed : Text.trim "\u3000Zoë@home\n" = zoe.username.text := by rfl
  have isName : Username.parse "\u3000Zoë@home\n" = .ok zoe.username := by
    rw [← Username.parse_trim, trimmed, Username.parse_text]
  have read : ofJson spacedUser = .ok zoe :=
    ofJson_eq_ok_iff.mpr ⟨_, _, .usernameFirst, by rfl, isName⟩
  obtain ⟨_, _, _, _, _, _, _, again⟩ := user_round_trip.1 spacedUser zoe read
  exact ⟨read, again, by rfl⟩

end User

end Folio
