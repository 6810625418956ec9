import Folio.Document
import Folio.Proofs.Json.Decode
import Folio.Proofs.Time.Denoted
import Folio.Proofs.Uuid

/-!
# Documents written as JSON and read back

`ofJson_eq_some_iff` says which values are documents: those that give its five parts, the instant
as any timestamp that stands for it. `document_round_trip`: a document that was read is read again
from what is written of it.
-/

namespace Folio.Document

/-- Exactly one of some members has a name, and with it a value. -/
def Once (members : List (String × Json)) (name : String) (value : Json) : Prop :=
  members.filter (fun member => member.1 = name) = [(name, value)]

/-- A value gives the five parts of a document: an object with one member of each of their names, in
any order and among any others, or an array of the five. -/
inductive Gives : (value id owner title isPublic createdAt : Json) → Prop where
  | members {members : List (String × Json)} {id owner title isPublic createdAt : Json}
      (first : Once members "id" id) (second : Once members "userId" owner)
      (third : Once members "title" title) (fourth : Once members "isPublic" isPublic)
      (fifth : Once members "createdAt" createdAt) :
      Gives (.obj members) id owner title isPublic createdAt
  | items {id owner title isPublic createdAt : Json} :
      Gives (.arr [id, owner, title, isPublic, createdAt]) id owner title isPublic createdAt

variable {value : Json} {document : Document}

/-! ### Parts -/

theorem only_eq_some_iff {members : List (String × Json)} {name : String} :
    Json.only? name members = some value ↔ Once members name value := by
  have named : ∀ member ∈ members.filter (fun member => member.1 = name), member.1 = name := by
    intro member listed
    simpa using (List.mem_filter.mp listed).2
  have spelled : members.filter (fun member => member.1 == name) =
      members.filter fun member => member.1 = name :=
    List.filter_congr fun _ _ => rfl
  unfold Json.only? Once
  rw [spelled]
  generalize members.filter (fun member => member.1 = name) = found at named ⊢
  rcases found with _ | ⟨⟨other, held⟩, _ | ⟨second, more⟩⟩
  · simp
  · obtain rfl : other = name := named (other, held) List.mem_cons_self
    simp
  · simp

theorem uuidOfJson_eq_some_iff {uuid : Uuid} :
    uuidOfJson? value = some uuid ↔ ∃ text, value = .str text ∧ Uuid.parse? text = some uuid := by
  cases value with
  | str text => simp [uuidOfJson?]
  | _ => simp [uuidOfJson?]

theorem instantOfJson_eq_some_iff {t : Time.Instant} :
    instantOfJson? value = some t ↔ ∃ text, value = .str text ∧ Time.StandsFor text t := by
  cases value with
  | str text => simp [instantOfJson?, Time.parse_eq_some_iff]
  | _ => simp [instantOfJson?]

theorem ownerOfJson_eq_some_iff {owner : UserId} :
    ownerOfJson? value = some owner ↔ ∃ text, value = .str text ∧ UserId.parse text = .ok owner :=
  Json.toOption_eq_some_iff.trans Json.parsed_eq_ok_iff

theorem ofParts_eq_some_iff {id owner title isPublic createdAt : Json} :
    ofParts? id owner title isPublic createdAt = some document ↔
      uuidOfJson? id = some document.id ∧ ownerOfJson? owner = some document.owner ∧
        title = .str document.title ∧ isPublic = .bool document.isPublic ∧
        instantOfJson? createdAt = some document.createdAt := by
  rw [← Json.asString_eq_ok_iff, ← Json.asBool_eq_ok_iff, ← Json.toOption_eq_some_iff,
    ← Json.toOption_eq_some_iff]
  constructor
  · intro read
    unfold ofParts? at read
    obtain ⟨u, isId, read⟩ := Option.bind_eq_some_iff.mp read
    obtain ⟨o, isOwner, read⟩ := Option.bind_eq_some_iff.mp read
    obtain ⟨t, isTitle, read⟩ := Option.bind_eq_some_iff.mp read
    obtain ⟨p, isTruth, read⟩ := Option.bind_eq_some_iff.mp read
    obtain ⟨c, isInstant, read⟩ := Option.bind_eq_some_iff.mp read
    cases read
    exact ⟨isId, isOwner, isTitle, isTruth, isInstant⟩
  · rintro ⟨isId, isOwner, isTitle, isTruth, isInstant⟩
    unfold ofParts?
    rw [isId, isOwner, isTitle, isTruth, isInstant]
    rfl

theorem ofJson_eq_parts :
    ofJson? value = some document ↔ ∃ id owner title isPublic createdAt,
      Gives value id owner title isPublic createdAt ∧
        ofParts? id owner title isPublic createdAt = some document := by
  constructor
  · intro read
    unfold ofJson? at read
    split at read
    · obtain ⟨id, first, read⟩ := Option.bind_eq_some_iff.mp read
      obtain ⟨owner, second, read⟩ := Option.bind_eq_some_iff.mp read
      obtain ⟨title, third, read⟩ := Option.bind_eq_some_iff.mp read
      obtain ⟨isPublic, fourth, read⟩ := Option.bind_eq_some_iff.mp read
      obtain ⟨createdAt, fifth, read⟩ := Option.bind_eq_some_iff.mp read
      rw [only_eq_some_iff] at first second third fourth fifth
      exact ⟨id, owner, title, isPublic, createdAt, .members first second third fourth fifth, read⟩
    · exact ⟨_, _, _, _, _, .items, read⟩
    · cases read
  · rintro ⟨id, owner, title, isPublic, createdAt, gives, read⟩
    cases gives with
    | members first second third fourth fifth =>
      rw [← only_eq_some_iff] at first second third fourth fifth
      unfold ofJson?
      dsimp only
      rw [first, second, third, fourth, fifth]
      exact read
    | items => exact read

/-! ### Documents -/

/-- The values that are a document: its parts stand in them, ids as UUIDs in any form and the
instant as any timestamp that stands for it. -/
theorem ofJson_eq_some_iff :
    ofJson? value = some document ↔ ∃ id owner created : String,
      Gives value (.str id) (.str owner) (.str document.title) (.bool document.isPublic)
        (.str created) ∧
      Uuid.parse? id = some document.id ∧ UserId.parse owner = .ok document.owner ∧
      Time.StandsFor created document.createdAt := by
  simp only [ofJson_eq_parts, ofParts_eq_some_iff, uuidOfJson_eq_some_iff,
    ownerOfJson_eq_some_iff, instantOfJson_eq_some_iff]
  constructor
  · rintro ⟨_, _, _, _, _, gives, ⟨id, rfl, isId⟩, ⟨owner, rfl, isOwner⟩, rfl, rfl, created, rfl,
      stands⟩
    exact ⟨id, owner, created, gives, isId, isOwner, stands⟩
  · rintro ⟨id, owner, created, gives, isId, isOwner, stands⟩
    exact ⟨_, _, _, _, _, gives, ⟨id, rfl, isId⟩, ⟨owner, rfl, isOwner⟩, rfl, rfl, created, rfl,
      stands⟩

theorem gives_toJson (document : Document) :
    Gives document.toJson (.str document.id.render) (.str document.owner.render)
      (.str document.title) (.bool document.isPublic) (.str document.createdAt.render) :=
  .members rfl rfl rfl rfl rfl

theorem ofJson_toJson (document : Document) : ofJson? document.toJson = some document :=
  ofJson_eq_some_iff.mpr ⟨_, _, _, document.gives_toJson, document.id.parse_render,
    document.owner.parse_render, document.createdAt.standsFor_render⟩

/-- Documents as JSON. A value is a document exactly when it gives the parts of one, the instant as
any timestamp that stands for it. A document that was read from a value is read from what is written
of it, which is written again the same, and the timestamps in both stand for its instant. -/
theorem document_round_trip (value : Json) (document : Document) :
    (ofJson? value = some document ↔ ∃ id owner created : String,
      Gives value (.str id) (.str owner) (.str document.title) (.bool document.isPublic)
        (.str created) ∧
      Uuid.parse? id = some document.id ∧ UserId.parse owner = .ok document.owner ∧
      Time.StandsFor created document.createdAt) ∧
    (ofJson? value = some document →
      ofJson? document.toJson = some document ∧
      (ofJson? document.toJson).map toJson = some document.toJson ∧
      Gives document.toJson (.str document.id.render) (.str document.owner.render)
        (.str document.title) (.bool document.isPublic) (.str document.createdAt.render) ∧
      Time.StandsFor document.createdAt.render document.createdAt) := by
  refine ⟨ofJson_eq_some_iff, fun _ => ⟨document.ofJson_toJson, ?_, document.gives_toJson,
    document.createdAt.standsFor_render⟩⟩
  rw [document.ofJson_toJson]
  rfl

/-- A leap second at the end of a February, written on the first of March in the east with blanks
and ten digits of a fraction. -/
def leapMinute : Json :=
  .arr [.str "urn:uuid:3FA85F64-5717-4562-B3FC-2C963F66AFA6",
    .str "3fa85f6457174562b3fc2c963f66afa6", .str "minutes", .bool false,
    .str "2024-3-01 05 :29: 60.1234567899 +05:30"]

theorem document_round_trip_leap :
    ∃ document, ofJson? leapMinute = some document ∧
      ofJson? document.toJson = some document ∧
      document.createdAt.render = "2024-02-29T23:59:60.123456789Z" ∧
      Time.StandsFor document.createdAt.render document.createdAt := by
  have shown : (ofJson? leapMinute).map (fun document => document.createdAt.render) =
      some "2024-02-29T23:59:60.123456789Z" := by rfl
  obtain ⟨document, read, instant⟩ := Option.map_eq_some_iff.mp shown
  obtain ⟨again, _, _, stands⟩ := (document_round_trip leapMinute document).2 read
  exact ⟨document, read, again, instant, stands⟩

end Folio.Document
