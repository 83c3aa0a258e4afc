import NetTool.Error
import NetTool.Text
import NetTool.Lib.Check
import NetTool.Lib.Run
import NetTool.Lib.Table
/-!
# Storage.Profiles — network profiles and their revisions (`crates/storage`)

A profile is a row under its ID and one row under each of its revisions.  `get_profile` takes an ID or a name in one
argument and refuses it when more than one profile answers to it; `update_profile` and `delete_profile` find their
profile with it.  SQLite keeps the primary keys (a table is a finite map) and the foreign key, and a transaction that
fails changes nothing.
-/
namespace NetTool
namespace Storage

/-! ## Tables -/

/-- A row of `network_profile` but for its key, the ID. -/
structure ProfileRow where
  name : String
  activeRevision : Nat
  createdAt : String
  updatedAt : String

/-- A row of `network_profile_revision` but for its key, the profile's ID and the revision. -/
structure RevisionRow where
  configurationJson : String
  checksum : String
  createdAt : String

structure Database where
  networkProfile : Table String ProfileRow
  networkProfileRevision : Table (String × Nat) RevisionRow

/-- The constraint a statement violates. -/
inductive Constraint
  | unique (columns : String)
  | foreignKey

def Constraint.text : Constraint → String
  | .unique columns => "UNIQUE constraint failed: " ++ columns
  | .foreignKey => "FOREIGN KEY constraint failed"

def databaseError (constraint : Constraint) : NetToolError :=
  .new .storageFailed ("SQLite operation failed: " ++ constraint.text) false

def invalid (message : String) : NetToolError := .new .invalidArgument message false

def insertProfile (id : String) (row : ProfileRow) (db : Database) : Except Constraint Database :=
  if id ∈ db.networkProfile then .error (.unique "network_profile.id")
  else .ok { db with networkProfile := db.networkProfile.put id row }

def insertRevision (id : String) (revision : Nat) (row : RevisionRow) (db : Database) : Except Constraint Database :=
  if (id, revision) ∈ db.networkProfileRevision then
    .error (.unique "network_profile_revision.profile_id, network_profile_revision.revision")
  else if id ∉ db.networkProfile then .error .foreignKey
  else .ok { db with networkProfileRevision := db.networkProfileRevision.put (id, revision) row }

/-- `UPDATE network_profile SET name, active_revision, updated_at WHERE id`. -/
def setProfile (id name : String) (activeRevision : Nat) (updatedAt : String) (db : Database) : Database :=
  match db.networkProfile.lookup id with
  | some row => { db with networkProfile := db.networkProfile.put id { row with name, activeRevision, updatedAt } }
  | none => db

def deleteRevisions (id : String) (db : Database) : Database :=
  { db with networkProfileRevision := db.networkProfileRevision.keep (fun key => key.1 ≠ id) }

def deleteRow (id : String) (db : Database) : Except Constraint Database :=
  if db.networkProfileRevision.keys.any (fun key => key.1 = id) then .error .foreignKey
  else .ok { db with networkProfile := db.networkProfile.erase id }

/-! ## Calls -/

/-- The part of `serde_json` that the storage uses: `from_str` reads what `to_string` wrote of an object. -/
structure Json where
  Value : Type
  isObject : Value → Bool
  toString : Value → String
  fromStr : String → Except String Value
  reads : ∀ value, isObject value = true → ∃ read, fromStr (toString value) = .ok read

structure ProfileSummary where
  id : String
  name : String
  activeRevision : Nat

structure ProfileDocument (json : Json) where
  summary : ProfileSummary
  configuration : json.Value

def validateProfileIdentity (id name : String) : Result Unit :=
  if trimIsEmpty id ∨ 128 < id.utf8ByteSize ∨ id.toList.any isControl then
    .error (invalid "profile ID is empty, too long, or contains control characters")
  else if trimIsEmpty name ∨ 256 < name.utf8ByteSize ∨ name.toList.any isControl then
    .error (invalid "profile name is empty, too long, or contains control characters")
  else .ok ()

section
variable (json : Json) (hexDigest : String → String)

/-- What the query reads of a profile that it selects: the profile and its active revision. -/
def matchRow (db : Database) (idOrName id : String) (row : ProfileRow) : Option (ProfileSummary × RevisionRow) :=
  if id = idOrName ∨ row.name = idOrName then
    (db.networkProfileRevision.lookup (id, row.activeRevision)).map (fun revision =>
      (⟨id, row.name, row.activeRevision⟩, revision))
  else none

/-- The rows of the query; their order does not matter to a caller that takes a single one. -/
def profileMatches (db : Database) (idOrName : String) : List (ProfileSummary × RevisionRow) :=
  db.networkProfile.select (matchRow db idOrName)

def readDocument (summary : ProfileSummary) (revision : RevisionRow) : Result (ProfileDocument json) :=
  if hexDigest revision.configurationJson ≠ revision.checksum then
    .error (.new .storageFailed "profile configuration checksum does not match" false)
  else match json.fromStr revision.configurationJson with
    | .error error => .error (.new .storageFailed ("profile configuration JSON is invalid: " ++ error) false)
    | .ok configuration => .ok { summary, configuration }

def getProfile (db : Database) (idOrName : String) : Result (Option (ProfileDocument json)) :=
  if trimIsEmpty idOrName then .error (invalid "profile ID or name must not be empty")
  else match profileMatches db idOrName with
    | [] => .ok none
    | [(summary, revision)] => do
      let document ← readDocument json hexDigest summary revision
      pure (some document)
    | _ :: _ :: _ => .error (invalid "profile name is ambiguous")

def existingProfile (db : Database) (idOrName : String) : Result (ProfileDocument json) := do
  match ← getProfile json hexDigest db idOrName with
  | some document => pure document
  | none => .error (invalid "profile does not exist")

def revisionRow (configuration : json.Value) (timestamp : String) : RevisionRow :=
  { configurationJson := json.toString configuration
    checksum := hexDigest (json.toString configuration)
    createdAt := timestamp }

def createProfile (db : Database) (id name : String) (configuration : json.Value) (timestamp : String) :
    Result (ProfileSummary × Database) := do
  validateProfileIdentity id name
  if json.isObject configuration = false then .error (invalid "profile configuration must be a JSON object")
  else
    -- The only constraint on this insert is the primary key.
    let db ← (insertProfile id ⟨name, 1, timestamp, timestamp⟩ db).mapError
      (fun _ => invalid "profile ID already exists")
    let db ← (insertRevision id 1 (revisionRow json hexDigest configuration timestamp) db).mapError databaseError
    pure (⟨id, name, 1⟩, db)

/-- `i64::checked_add(1)`. -/
def nextRevision (revision : Nat) : Result Nat :=
  if revision + 1 < 2 ^ 63 then .ok (revision + 1) else .error (invalid "profile revision overflow")

def updateProfile (db : Database) (idOrName name : String) (configuration : json.Value) (timestamp : String) :
    Result (ProfileSummary × Database) := do
  validateProfileIdentity idOrName name
  if json.isObject configuration = false then .error (invalid "profile configuration must be a JSON object")
  else
    let current ← existingProfile json hexDigest db idOrName
    let revision ← nextRevision current.summary.activeRevision
    let db ← (insertRevision current.summary.id revision (revisionRow json hexDigest configuration timestamp)
      (setProfile current.summary.id name revision timestamp db)).mapError databaseError
    pure (⟨current.summary.id, name, revision⟩, db)

def deleteProfile (db : Database) (idOrName : String) : Result (ProfileSummary × Database) := do
  let document ← existingProfile json hexDigest db idOrName
  let db ← (deleteRow document.summary.id (deleteRevisions document.summary.id db)).mapError databaseError
  pure (document.summary, db)

/-! ## Runs -/

inductive Call
  | create (id name : String) (configuration : json.Value) (timestamp : String)
  | update (idOrName name : String) (configuration : json.Value) (timestamp : String)
  | delete (idOrName : String)

def call (db : Database) : Call json → Result (ProfileSummary × Database)
  | .create id name configuration timestamp => createProfile json hexDigest db id name configuration timestamp
  | .update idOrName name configuration timestamp =>
    updateProfile json hexDigest db idOrName name configuration timestamp
  | .delete idOrName => deleteProfile json hexDigest db idOrName

/-- A call that fails leaves the database as it was. -/
def step (db : Database) (c : Call json) : Database :=
  match call json hexDigest db c with
  | .ok (_, db) => db
  | .error _ => db

/-- The databases reached by successful calls from the empty one. -/
def Reachable (db : Database) : Prop :=
  Reach ⟨∅, ∅⟩ (step json hexDigest) (fun db c => ∃ result, call json hexDigest db c = .ok result) db

end

end Storage
end NetTool
