import NetTool.Storage.Profiles
/-!
# Storage.ById — reading, updating and deleting a profile by its ID

In a database that calls have made, each profile has its active revision and no later one (`Stored`).  A profile is then
read, updated and deleted by its ID, without touching another one, exactly when no other profile has that ID for a name
and its revision can still be counted up.
-/
namespace NetTool
namespace Storage

open Check

variable {json : Json} {hexDigest : String → String} {db db' : Database}

/-! ## Statements -/

variable {id : String} {row : ProfileRow} {revision : RevisionRow} {configuration : json.Value}
  {summary : ProfileSummary}

theorem insertRevision_ok {revision : Nat} {row : RevisionRow} (h : insertRevision id revision row db = .ok db') :
    db' = { db with networkProfileRevision := db.networkProfileRevision.put (id, revision) row } := by
  unfold insertRevision at h
  split at h
  · cases h
  · split at h
    · cases h
    · cases h
      rfl

theorem setProfile_some (name updatedAt : String) (activeRevision : Nat) (h : db.networkProfile.lookup id = some row) :
    setProfile id name activeRevision updatedAt db
      = { db with networkProfile := db.networkProfile.put id { row with name, activeRevision, updatedAt } } := by
  unfold setProfile
  rw [h]

theorem deleteRow_deleteRevisions (id : String) (db : Database) :
    deleteRow id (deleteRevisions id db)
      = .ok { networkProfile := db.networkProfile.erase id
              networkProfileRevision := (deleteRevisions id db).networkProfileRevision } := by
  unfold deleteRow
  rw [if_neg]
  · rfl
  · rw [List.any_eq_true]
    rintro ⟨key, hmem, hkey⟩
    obtain ⟨row, hrow⟩ := Table.mem_iff_lookup.1 (AList.mem_keys.2 hmem)
    unfold deleteRevisions at hrow
    rw [Table.lookup_keep] at hrow
    simp only [decide_eq_true_eq] at hkey hrow
    rw [if_neg (not_not.2 hkey)] at hrow
    cases hrow

theorem lookup_deleteRevisions (id : String) (db : Database) (key : String × Nat) :
    (deleteRevisions id db).networkProfileRevision.lookup key
      = if key.1 = id then none else db.networkProfileRevision.lookup key := by
  unfold deleteRevisions
  rw [Table.lookup_keep]
  by_cases hkey : key.1 = id
  · simp [hkey]
  · simp [hkey]

/-! ## What a database holds -/

/-- Each profile has a valid ID and name and its active revision, which reads back; no revision is later. -/
structure Stored (json : Json) (hexDigest : String → String) (db : Database) : Prop where
  identity : ∀ id row, db.networkProfile.lookup id = some row → validateProfileIdentity id row.name = .ok ()
  active : ∀ id row, db.networkProfile.lookup id = some row →
    ∃ configuration createdAt, json.isObject configuration = true ∧
    db.networkProfileRevision.lookup (id, row.activeRevision) =
      some (revisionRow json hexDigest configuration createdAt)
  latest : ∀ id n revision, db.networkProfileRevision.lookup (id, n) = some revision →
    ∃ row, db.networkProfile.lookup id = some row ∧ n ≤ row.activeRevision

theorem matchRow_of_match {id idOrName : String}
    (hrevision : db.networkProfileRevision.lookup (id, row.activeRevision) = some revision)
    (hmatch : id = idOrName ∨ row.name = idOrName) :
    matchRow db idOrName id row = some (⟨id, row.name, row.activeRevision⟩, revision) := by
  unfold matchRow
  rw [if_pos hmatch, hrevision]
  rfl

theorem existingProfile_ok {idOrName : String} {document : ProfileDocument json}
    (h : existingProfile json hexDigest db idOrName = .ok document) :
    ∃ row, db.networkProfile.lookup document.summary.id = some row ∧
      document.summary.activeRevision = row.activeRevision ∧ document.summary.name = row.name := by
  unfold existingProfile at h
  rw [bind_ok] at h
  obtain ⟨found, hfound, h⟩ := h
  cases found with
  | none => cases h
  | some found =>
    cases h
    unfold getProfile at hfound
    rw [guard_ok] at hfound
    obtain ⟨-, hfound⟩ := hfound
    split at hfound
    · cases hfound
    · rename_i summary revision hmatches
      rw [bind_ok] at hfound
      obtain ⟨read, hread, hsome⟩ := hfound
      cases hsome
      have hmem : (summary, revision) ∈ profileMatches db idOrName := by rw [hmatches]; exact List.mem_cons_self
      obtain ⟨id, row, hrow, hselected⟩ := Table.mem_select.1 hmem
      have hsummary : document.summary = summary := by
        unfold readDocument at hread
        rw [guard_ok] at hread
        obtain ⟨-, hread⟩ := hread
        split at hread
        · cases hread
        · cases hread
          rfl
      unfold matchRow at hselected
      split at hselected
      · obtain ⟨_, -, hpair⟩ := Option.map_eq_some_iff.1 hselected
        cases hpair
        rw [hsummary]
        exact ⟨row, hrow, rfl, rfl⟩
      · cases hselected
    · cases hfound

/-! ## Every call keeps it -/

/-- A profile is written with a new active revision that is not before its last one. -/
theorem Stored.write {id timestamp : String} (h : Stored json hexDigest db)
    (hvalid : validateProfileIdentity id row.name = .ok ()) (hobject : json.isObject configuration = true)
    (hlater : ∀ old, db.networkProfile.lookup id = some old → old.activeRevision ≤ row.activeRevision) :
    Stored json hexDigest
      { networkProfile := db.networkProfile.put id row
        networkProfileRevision := db.networkProfileRevision.put (id, row.activeRevision)
          (revisionRow json hexDigest configuration timestamp) } := by
  refine ⟨fun other row' hrow => ?_, fun other row' hrow => ?_, fun other n revision hrevision => ?_⟩
  · rcases Table.lookup_put_cases hrow with ⟨rfl, rfl⟩ | ⟨-, hold⟩
    · exact hvalid
    · exact h.identity other row' hold
  · simp only [Table.lookup_put]
    rcases Table.lookup_put_cases hrow with ⟨rfl, rfl⟩ | ⟨hne, hold⟩
    · exact ⟨configuration, timestamp, hobject, if_pos rfl⟩
    · obtain ⟨stored, createdAt, hstored, hlookup⟩ := h.active other row' hold
      exact ⟨stored, createdAt, hstored, by rw [if_neg (fun heq => hne (Prod.mk.inj heq).1), hlookup]⟩
  · simp only [Table.lookup_put]
    rcases Table.lookup_put_cases hrevision with ⟨heq, -⟩ | ⟨-, hrevision⟩
    · obtain ⟨rfl, rfl⟩ := Prod.mk.inj heq
      exact ⟨row, if_pos rfl, Nat.le_refl _⟩
    · obtain ⟨old, hold, hle⟩ := h.latest other n revision hrevision
      by_cases hother : other = id
      · subst hother
        exact ⟨row, if_pos rfl, Nat.le_trans hle (hlater old hold)⟩
      · exact ⟨old, by rw [if_neg hother, hold], hle⟩

theorem Stored.create {id name timestamp : String} (h : Stored json hexDigest db)
    (hcall : createProfile json hexDigest db id name configuration timestamp = .ok (summary, db')) :
    Stored json hexDigest db' := by
  unfold createProfile at hcall
  simp only [bind_ok, guard_ok, mapError_ok, pure_ok, Bool.not_eq_false] at hcall
  obtain ⟨_, hvalid, hobject, profiles, hprofiles, revisions, hrevisions, hresult⟩ := hcall
  have hdb := insertRevision_ok hrevisions
  cases hresult
  subst hdb
  unfold insertProfile at hprofiles
  split at hprofiles
  · cases hprofiles
  · rename_i hnew
    cases hprofiles
    exact h.write hvalid hobject (fun old hold => absurd (Table.mem_iff_lookup.2 ⟨old, hold⟩) hnew)

theorem nextRevision_ok {revision next : Nat} (h : nextRevision revision = .ok next) :
    next = revision + 1 ∧ next < 2 ^ 63 := by
  unfold nextRevision at h
  split at h
  · rename_i hcount
    cases h
    exact ⟨rfl, hcount⟩
  · cases h

theorem Stored.update {idOrName name timestamp : String} (h : Stored json hexDigest db)
    (hcall : updateProfile json hexDigest db idOrName name configuration timestamp = .ok (summary, db')) :
    Stored json hexDigest db' := by
  unfold updateProfile at hcall
  simp only [bind_ok, guard_ok, mapError_ok, pure_ok, Bool.not_eq_false] at hcall
  obtain ⟨_, hvalid, hobject, current, hcurrent, revision, hnext, revisions, hrevisions, hresult⟩ := hcall
  obtain ⟨row, hrow, hactive, -⟩ := existingProfile_ok hcurrent
  have hrevision : revision = row.activeRevision + 1 := by rw [(nextRevision_ok hnext).1, hactive]
  rw [setProfile_some _ _ _ hrow] at hrevisions
  have hdb := insertRevision_ok hrevisions
  cases hresult
  subst hdb hrevision
  have hidentity : validateProfileIdentity current.summary.id name = .ok () := by
    have hown := h.identity _ _ hrow
    unfold validateProfileIdentity at hown hvalid ⊢
    simp only [guard_ok] at hown hvalid ⊢
    exact ⟨hown.1, hvalid.2⟩
  refine h.write hidentity hobject (fun old hold => ?_)
  rw [hrow] at hold
  cases hold
  exact Nat.le_succ _

theorem Stored.delete {idOrName : String} (h : Stored json hexDigest db)
    (hcall : deleteProfile json hexDigest db idOrName = .ok (summary, db')) : Stored json hexDigest db' := by
  unfold deleteProfile at hcall
  simp only [bind_ok, mapError_ok, pure_ok, deleteRow_deleteRevisions] at hcall
  obtain ⟨document, hdocument, deleted, hdeleted, hresult⟩ := hcall
  cases hdeleted
  cases hresult
  generalize document.summary.id = id at *
  have hkept : ∀ {other row}, (db.networkProfile.erase id).lookup other = some row →
      other ≠ id ∧ db.networkProfile.lookup other = some row := by
    intro other row hrow
    have hne : other ≠ id := fun heq => by rw [heq, AList.lookup_erase] at hrow; cases hrow
    rw [AList.lookup_erase_ne hne] at hrow
    exact ⟨hne, hrow⟩
  refine ⟨fun other row hrow => h.identity other row (hkept hrow).2, fun other row hrow => ?_,
    fun other n revision hrevision => ?_⟩
  · obtain ⟨hne, hrow⟩ := hkept hrow
    obtain ⟨stored, createdAt, hstored, hlookup⟩ := h.active other row hrow
    exact ⟨stored, createdAt, hstored, by rw [lookup_deleteRevisions, if_neg hne, hlookup]⟩
  · rw [lookup_deleteRevisions] at hrevision
    split at hrevision
    · cases hrevision
    · rename_i hne
      obtain ⟨row, hrow, hle⟩ := h.latest other n revision hrevision
      exact ⟨row, by rw [AList.lookup_erase_ne hne, hrow], hle⟩

/-- **Every database that calls have made is in this state.** -/
theorem Reachable.stored (h : Reachable json hexDigest db) : Stored json hexDigest db := by
  refine Reach.invariant ⟨?_, ?_, ?_⟩ (fun db c hstored hok => ?_) h
  · intro id row hrow; cases hrow
  · intro id row hrow; cases hrow
  · intro id n revision hrevision; cases hrevision
  · obtain ⟨⟨summary, db'⟩, hcall⟩ := hok
    unfold step
    rw [hcall]
    cases c with
    | create id name configuration timestamp => exact hstored.create hcall
    | update idOrName name configuration timestamp => exact hstored.update hcall
    | delete idOrName => exact hstored.delete hcall

/-! ## By ID -/

structure OnlyTouches (id : String) (db db' : Database) : Prop where
  profiles : ∀ other, other ≠ id → db'.networkProfile.lookup other = db.networkProfile.lookup other
  revisions : ∀ other n, other ≠ id →
    db'.networkProfileRevision.lookup (other, n) = db.networkProfileRevision.lookup (other, n)

/-- The profile is read, updated with any valid name and configuration, and deleted by its ID, and nothing else is. -/
structure ActsById (json : Json) (hexDigest : String → String) (db : Database) (id : String) (row : ProfileRow) :
    Prop where
  read : ∃ revision configuration, db.networkProfileRevision.lookup (id, row.activeRevision) = some revision ∧
    json.fromStr revision.configurationJson = .ok configuration ∧
    getProfile json hexDigest db id = .ok (some ⟨⟨id, row.name, row.activeRevision⟩, configuration⟩)
  update : ∀ name configuration timestamp, validateProfileIdentity id name = .ok () →
    json.isObject configuration = true →
    ∃ db', updateProfile json hexDigest db id name configuration timestamp =
      .ok (⟨id, name, row.activeRevision + 1⟩, db') ∧
      db'.networkProfile.lookup id =
        some { row with name, activeRevision := row.activeRevision + 1, updatedAt := timestamp } ∧
      db'.networkProfileRevision.lookup (id, row.activeRevision + 1) =
        some (revisionRow json hexDigest configuration timestamp) ∧
      OnlyTouches id db db'
  delete : ∃ db', deleteProfile json hexDigest db id = .ok (⟨id, row.name, row.activeRevision⟩, db') ∧
    db'.networkProfile.lookup id = none ∧ (∀ n, db'.networkProfileRevision.lookup (id, n) = none) ∧
      OnlyTouches id db db'

section
variable {id : String} {row : ProfileRow} (h : Stored json hexDigest db) (hrow : db.networkProfile.lookup id = some row)
include h hrow

theorem Stored.not_trimIsEmpty : ¬ trimIsEmpty id = true := by
  have hid := h.identity id row hrow
  unfold validateProfileIdentity at hid
  rw [guard_ok] at hid
  exact fun hempty => hid.1 (.inl hempty)

theorem Stored.getProfile_of_alone
    (halone : ∀ other row', db.networkProfile.lookup other = some row' → row'.name = id → other = id) :
    ∃ revision configuration, db.networkProfileRevision.lookup (id, row.activeRevision) = some revision ∧
      json.fromStr revision.configurationJson = .ok configuration ∧
      getProfile json hexDigest db id = .ok (some ⟨⟨id, row.name, row.activeRevision⟩, configuration⟩) := by
  obtain ⟨configuration, createdAt, hobject, hrevision⟩ := h.active id row hrow
  obtain ⟨read, hread⟩ := json.reads configuration hobject
  have hjson : (revisionRow json hexDigest configuration createdAt).configurationJson =
    json.toString configuration := rfl
  have hmatches : profileMatches db id = [(⟨id, row.name, row.activeRevision⟩, _)] :=
    Table.select_eq_singleton hrow (matchRow_of_match hrevision (.inl rfl))
      (fun other row' hrow' hne => if_neg fun hmatch => hne (hmatch.elim (fun heq => heq) (halone other row' hrow')))
  refine ⟨_, read, hrevision, hread, ?_⟩
  unfold getProfile
  rw [if_neg (h.not_trimIsEmpty hrow), hmatches]
  dsimp only
  unfold readDocument
  rw [if_neg (fun h => h rfl), hjson]
  simp only [hread]
  rfl

theorem Stored.getProfile_of_shared {other : String} {row' : ProfileRow} (hne : id ≠ other)
    (hother : db.networkProfile.lookup other = some row') (hname : row'.name = id) :
    getProfile json hexDigest db id = .error (invalid "profile name is ambiguous") := by
  obtain ⟨_, _, -, hrevision⟩ := h.active id row hrow
  obtain ⟨_, _, -, hrevision'⟩ := h.active other row' hother
  have htwo : 2 ≤ (profileMatches db id).length :=
    Table.two_le_length_select hrow hother hne (by rw [matchRow_of_match hrevision (.inl rfl)]; rfl)
      (by rw [matchRow_of_match hrevision' (.inr hname)]; rfl)
  unfold getProfile
  rw [if_neg (h.not_trimIsEmpty hrow)]
  split
  · rename_i hmatches
    rw [hmatches, List.length_nil] at htwo
    omega
  · rename_i hmatches
    rw [hmatches, List.length_singleton] at htwo
    omega
  · rfl

theorem Stored.lookup_next : db.networkProfileRevision.lookup (id, row.activeRevision + 1) = none := by
  cases hnext : db.networkProfileRevision.lookup (id, row.activeRevision + 1) with
  | none => rfl
  | some revision =>
    obtain ⟨row', hrow', hle⟩ := h.latest _ _ _ hnext
    rw [hrow] at hrow'
    cases hrow'
    omega

theorem Stored.updateProfile_of_read {name timestamp : String} {configuration read : json.Value}
    (hread : getProfile json hexDigest db id = .ok (some ⟨⟨id, row.name, row.activeRevision⟩, read⟩))
    (hcount : row.activeRevision + 1 < 2 ^ 63) (hvalid : validateProfileIdentity id name = .ok ())
    (hobject : json.isObject configuration = true) :
    updateProfile json hexDigest db id name configuration timestamp
      = .ok (⟨id, name, row.activeRevision + 1⟩,
          { networkProfile := db.networkProfile.put id
              { row with name, activeRevision := row.activeRevision + 1, updatedAt := timestamp }
            networkProfileRevision := db.networkProfileRevision.put (id, row.activeRevision + 1)
              (revisionRow json hexDigest configuration timestamp) }) := by
  have hexisting : existingProfile json hexDigest db id = .ok ⟨⟨id, row.name, row.activeRevision⟩, read⟩ := by
    unfold existingProfile
    rw [hread]
    rfl
  have hnext : nextRevision row.activeRevision = .ok (row.activeRevision + 1) := if_pos hcount
  have hset := setProfile_some name timestamp (row.activeRevision + 1) hrow
  unfold updateProfile
  rw [hvalid, if_neg (by rw [hobject]; decide), hexisting]
  simp only [hnext, ok_bind]
  rw [hset]
  unfold insertRevision
  rw [if_neg (AList.lookup_eq_none.1 (h.lookup_next hrow)),
    if_neg (not_not.2 (Table.mem_iff_lookup.2 ⟨_, (Table.lookup_put ..).trans (if_pos rfl)⟩))]
  rfl

end

/-- **A profile is read, updated and deleted by its ID, and nothing else is, exactly when no other profile has that ID
for a name** and its revision can be counted up. -/
theorem acts_by_id_iff {id : String} {row : ProfileRow} (h : Reachable json hexDigest db)
    (hrow : db.networkProfile.lookup id = some row) :
    ActsById json hexDigest db id row ↔
      (∀ other row', db.networkProfile.lookup other = some row' → row'.name = id → other = id) ∧
        row.activeRevision + 1 < 2 ^ 63 := by
  have hstored := h.stored
  constructor
  · intro hacts
    obtain ⟨revision, read, -, -, hread⟩ := hacts.read
    refine ⟨fun other row' hother hname => ?_, ?_⟩
    · by_contra hne
      rw [hstored.getProfile_of_shared hrow (Ne.symm hne) hother hname] at hread
      cases hread
    · obtain ⟨configuration, _, hobject, -⟩ := hstored.active id row hrow
      obtain ⟨db', hupdate, -⟩ := hacts.update row.name configuration "" (hstored.identity id row hrow) hobject
      unfold updateProfile at hupdate
      simp only [bind_ok, guard_ok, pure_ok] at hupdate
      obtain ⟨_, -, -, _, -, revision, hnext, _, -, hresult⟩ := hupdate
      cases hresult
      exact (nextRevision_ok hnext).2
  · rintro ⟨halone, hcount⟩
    have hread := hstored.getProfile_of_alone hrow halone
    refine ⟨hread, fun name configuration timestamp hvalid hobject => ?_, ?_⟩
    · obtain ⟨_, _, -, -, hread⟩ := hread
      refine ⟨_, hstored.updateProfile_of_read hrow hread hcount hvalid hobject, ?_, ?_, ?_, ?_⟩
      · exact (Table.lookup_put ..).trans (if_pos rfl)
      · exact (Table.lookup_put ..).trans (if_pos rfl)
      · exact fun other hne => (Table.lookup_put ..).trans (if_neg hne)
      · exact fun other n hne => (Table.lookup_put ..).trans (if_neg (fun heq => hne (Prod.mk.inj heq).1))
    · obtain ⟨_, read, -, -, hread⟩ := hread
      refine ⟨{ networkProfile := db.networkProfile.erase id
                networkProfileRevision := (deleteRevisions id db).networkProfileRevision },
        ?_, AList.lookup_erase .., ?_, ?_, ?_⟩
      · unfold deleteProfile existingProfile
        rw [hread]
        simp only [ok_bind, deleteRow_deleteRevisions]
        rfl
      · exact fun n => (lookup_deleteRevisions ..).trans (if_pos rfl)
      · exact fun other hne => AList.lookup_erase_ne hne
      · exact fun other n hne => (lookup_deleteRevisions ..).trans (if_neg hne)

def plainJson : Json := ⟨String, fun _ => true, fun value => value, .ok, fun value _ => ⟨value, rfl⟩⟩

def made (calls : List (Call plainJson)) : Database := calls.foldl (step plainJson (fun text => text)) ⟨∅, ∅⟩

def twoProfiles : List (Call plainJson) := [.create "a" "lab" "x" "t", .create "b" "home" "y" "u"]

def sharedName : List (Call plainJson) := [.create "a" "lab" "x" "t", .create "b" "a" "y" "u"]

theorem acts_by_id_sample :
    (made twoProfiles).networkProfile.lookup "a" = some ⟨"lab", 1, "t", "t"⟩ ∧
    ActsById plainJson (fun text => text) (made twoProfiles) "a" ⟨"lab", 1, "t", "t"⟩ := by
  have hreach : Reachable plainJson (fun text => text) (made twoProfiles) :=
    Reach.foldl twoProfiles _ .init ⟨⟨_, rfl⟩, ⟨_, rfl⟩, trivial⟩
  have hrow : (made twoProfiles).networkProfile.lookup "a" = some ⟨"lab", 1, "t", "t"⟩ := rfl
  refine ⟨hrow, (acts_by_id_iff hreach hrow).2 ⟨fun other row hother hname => ?_, by decide⟩⟩
  rcases Table.lookup_put_cases hother with ⟨-, rfl⟩ | ⟨-, hfirst⟩
  · exact absurd hname (by decide)
  · rcases Table.lookup_put_cases hfirst with ⟨rfl, -⟩ | ⟨-, hnone⟩
    · rfl
    · cases hnone

theorem id_taken_for_a_name :
    Reachable plainJson (fun text => text) (made sharedName) ∧
    (made sharedName).networkProfile.lookup "a" = some ⟨"lab", 1, "t", "t"⟩ ∧
    getProfile plainJson (fun text => text) (made sharedName) "a" = .error (invalid "profile name is ambiguous") ∧
    updateProfile plainJson (fun text => text) (made sharedName) "a"
      "lab" "z" "v" = .error (invalid "profile name is ambiguous") ∧
    deleteProfile plainJson (fun text => text) (made sharedName) "a" =
      .error (invalid "profile name is ambiguous") := by
  exact ⟨Reach.foldl sharedName _ .init ⟨⟨_, rfl⟩, ⟨_, rfl⟩, trivial⟩, rfl, rfl, rfl, rfl⟩

end Storage
end NetTool
