import NetTool.Lib.Check
import NetTool.Lib.Prog
import NetTool.Lib.Table
import NetTool.Error
import NetTool.Text
/-!
# Resource — the agent's resource manager (`crates/resource`)

A reservation claims resources for a session until it is released.  A claim is refused when it or a held claim on the
same resource is exclusive, so exclusive resources have one holder (`Exclusive`, kept by every operation).
-/
namespace NetTool
namespace Resource

open Prog

inductive ResourceKey
  | dpdkPort (pci : String)
  | dpdkRxQueue (pciAddress : String) (queue : UInt16)
  | dpdkTxQueue (pciAddress : String) (queue : UInt16)
  | pinnedCpu (cpu : UInt32)
  | numaMemory (node : UInt32)
  | hugePages (numaNode : UInt32) (pageSizeKib : Nat)
  | losslessCaptureWriter (path : String)
  | captureStorage (path : String)
  | dataPort (protocol address : String) (port : UInt16)
  | managementInterface (interface : String)
  | database
  | readOnlyInterfaceStatistics (interface : String)
  deriving DecidableEq

namespace ResourceKey

def requiresExclusive : ResourceKey → Bool
  | dpdkPort _ | dpdkRxQueue _ _ | dpdkTxQueue _ _ | pinnedCpu _ | losslessCaptureWriter _ | dataPort _ _ _ => true
  | _ => false

def requiresCapacity : ResourceKey → Bool
  | numaMemory _ | hugePages _ _ | captureStorage _ => true
  | _ => false

def display : ResourceKey → String
  | dpdkPort pci => "dpdk-port:" ++ pci
  | dpdkRxQueue pci queue => "dpdk-rx-queue:" ++ pci ++ ":" ++ toString queue.toNat
  | dpdkTxQueue pci queue => "dpdk-tx-queue:" ++ pci ++ ":" ++ toString queue.toNat
  | pinnedCpu cpu => "pinned-cpu:" ++ toString cpu.toNat
  | numaMemory node => "numa-memory:" ++ toString node.toNat
  | hugePages node size => "huge-pages:" ++ toString node.toNat ++ ":" ++ toString size ++ "KiB"
  | losslessCaptureWriter path => "lossless-capture-writer:" ++ path
  | captureStorage path => "capture-storage:" ++ path
  | dataPort protocol address port => "data-port:" ++ protocol ++ ":" ++ address ++ ":" ++ toString port.toNat
  | managementInterface interface => "management-interface:" ++ interface
  | database => "database"
  | readOnlyInterfaceStatistics interface => "read-only-interface-statistics:" ++ interface

end ResourceKey

inductive ResourceMode
  | exclusive | shared
  deriving DecidableEq

def ResourceMode.asStr : ResourceMode → String
  | .exclusive => "exclusive"
  | .shared => "shared"

structure ResourceClaim where
  resource : ResourceKey
  mode : ResourceMode
  units : Nat
  deriving DecidableEq

structure ReservationRequest where
  reservationId : String
  sessionId : String
  claims : List ResourceClaim
  deriving DecidableEq

inductive ReservationState
  | pending | active | releasing | released | failed
  deriving DecidableEq

structure Reservation where
  request : ReservationRequest
  state : ReservationState
  failure : Option String

structure ResourceManager where
  reservations : Table String Reservation
  capacities : Table ResourceKey Nat

def ResourceManager.new : ResourceManager := ⟨∅, ∅⟩

def invalid (message : String) : NetToolError := .new .invalidArgument message false
def invalidState (message : String) : NetToolError := .new .invalidState message false
def missing : NetToolError := .new .invalidArgument "reservation does not exist" false
def operationConflict : NetToolError :=
  .new .operationConflict "reservation ID was reused with a different request" false

/-- The details are a `BTreeMap`, here in key order. -/
def conflict (resource : ResourceKey) (ownerSession : String) (mode : ResourceMode) : NetToolError :=
  { NetToolError.new .resourceConflict "requested resource conflicts with an existing reservation" false with
    details := [("owner_session", ownerSession), ("requested_mode", mode.asStr), ("resource", resource.display)] }

def holdsResources (state : ReservationState) : Bool := state != .released

def validateClaim (earlier : List ResourceClaim) (claim : ResourceClaim) : Result Unit := do
  if claim.units = 0 then .error (invalid "resource claim units must be non-zero")
  if claim.mode = .exclusive && claim.units != 1 then .error (invalid "exclusive resource claim must request one unit")
  if claim.resource.requiresExclusive && claim.mode != .exclusive then
    .error (invalid "resource requires exclusive mode")
  if earlier.any (fun e => e.resource = claim.resource) then
    .error (invalid "reservation contains duplicate resource claims")

def validateClaims : List ResourceClaim → List ResourceClaim → Result Unit
  | _, []                     => .ok ()
  | earlier, claim :: claims => do
    validateClaim earlier claim
    validateClaims (earlier ++ [claim]) claims

def validateRequest (request : ReservationRequest) : Result Unit := do
  if trimIsEmpty request.reservationId || trimIsEmpty request.sessionId then
    .error (invalid "reservation and session IDs are required")
  if request.claims.isEmpty then .error (invalid "reservation must contain at least one claim")
  validateClaims [] request.claims

namespace ResourceManager

/-- The held claims on a resource, each with the session that holds it. -/
def owners (m : ResourceManager) (resource : ResourceKey) : List (String × ResourceClaim) :=
  ((m.reservations.values.filter (fun r => holdsResources r.state)).flatMap
    (fun r => r.request.claims.map (fun claim => (r.request.sessionId, claim)))).filter
    (fun owner => owner.2.resource = resource)

/-- `u64` addition over the claims, `none` on overflow. -/
def usedUnits (owners : List (String × ResourceClaim)) : Option Nat :=
  owners.foldlM (fun total owner => checkedAdd total owner.2.units) 0

def checkClaim (m : ResourceManager) (requested : ResourceClaim) : Result Unit :=
  let owners := m.owners requested.resource
  match owners.find? (fun owner => requested.mode = .exclusive || owner.2.mode = .exclusive) with
  | some owner => .error (conflict requested.resource owner.1 requested.mode)
  | none =>
    if requested.mode = .shared then
      match usedUnits owners with
      | none => .error (conflict requested.resource "capacity-overflow" requested.mode)
      | some used =>
        match m.capacities.lookup requested.resource, requested.resource.requiresCapacity with
        | none, true => .error (invalid "shared resource capacity is not configured")
        | capacity, _ =>
          match checkedAdd used requested.units with
          | some total =>
            if capacity.getD (2 ^ 64 - 1) < total then
              .error (conflict requested.resource ((owners.head?.map (·.1)).getD "capacity") requested.mode)
            else .ok ()
          | none => .error (conflict requested.resource ((owners.head?.map (·.1)).getD "capacity") requested.mode)
    else .ok ()

def checkClaims (m : ResourceManager) : List ResourceClaim → Result Unit
  | []              => .ok ()
  | claim :: claims => do
    m.checkClaim claim
    checkClaims m claims

def set (id : String) (r : Reservation) (m : ResourceManager) : ResourceManager :=
  { m with reservations := m.reservations.put id r }

end ResourceManager

abbrev Manage (α : Type) : Type := Prog ResourceManager NetToolError α

def setCapacity (resource : ResourceKey) (units : Nat) : Manage Unit := do
  if units = 0 then fail (invalid "resource capacity must be non-zero")
  else if resource.requiresExclusive then fail (invalid "exclusive resource cannot define shared capacity")
  else modify (fun m => { m with capacities := m.capacities.put resource units })

def reserve (request : ReservationRequest) : Manage Reservation := do
  let m ← get
  match m.reservations.lookup request.reservationId with
  | some existing => if existing.request = request then pure existing else fail operationConflict
  | none =>
    ofExcept (validateRequest request)
    ofExcept (m.checkClaims request.claims)
    modify (ResourceManager.set request.reservationId ⟨request, .pending, none⟩)
    pure ⟨request, .pending, none⟩

/-- The state changes of a reservation: look it up, move to the next state (or stay, or refuse), write it back. -/
def transition (id : String) (next : ReservationState → Result ReservationState) : Manage Reservation := do
  let m ← get
  let r ← ofOption missing (m.reservations.lookup id)
  let state ← ofExcept (next r.state)
  modify (ResourceManager.set id { r with state := state })
  pure { r with state := state }

def activate (id : String) : Manage Reservation :=
  transition id (fun
    | .pending | .active => .ok .active
    | _ => .error (invalidState "reservation cannot be activated from current state"))

def beginRelease (id : String) : Manage Reservation :=
  transition id (fun
    | .released => .ok .released
    | _ => .ok .releasing)

def finishRelease (id : String) : Manage Reservation :=
  transition id (fun
    | .releasing | .released => .ok .released
    | _ => .error (invalidState "reservation must be releasing before release completes"))

/-- `fail`. -/
def markFailed (id reason : String) : Manage Reservation := do
  if trimIsEmpty reason then fail (invalid "reservation failure reason is required")
  else
    let m ← get
    let r ← ofOption missing (m.reservations.lookup id)
    if r.state = .released then pure r
    else
      modify (ResourceManager.set id { r with state := .failed, failure := some reason })
      pure { r with state := .failed, failure := some reason }

/-! ## What the operations do -/

variable {m m' : ResourceManager} {id : String}

/-- `m'` is `m` with the reservation `r` under `id`. -/
structure Sets (id : String) (r : Reservation) (m m' : ResourceManager) : Prop where
  lookup : ∀ id', m'.reservations.lookup id' = if id' = id then some r else m.reservations.lookup id'
  capacities : m'.capacities = m.capacities

theorem sets_set (id : String) (r : Reservation) (m : ResourceManager) : Sets id r m (m.set id r) :=
  ⟨fun id' => Table.lookup_put id id' r m.reservations, rfl⟩

theorem Sets.cases {id' : String} {r r' : Reservation} (h : Sets id r m m')
    (hr : m'.reservations.lookup id' = some r') :
    id' = id ∧ r' = r ∨ id' ≠ id ∧ m.reservations.lookup id' = some r' := by
  rw [h.lookup] at hr
  by_cases hid : id' = id
  · rw [if_pos hid, Option.some.injEq] at hr
    exact .inl ⟨hid, hr.symm⟩
  · rw [if_neg hid] at hr
    exact .inr ⟨hid, hr⟩

theorem Sets.again {r r' : Reservation} {n : ResourceManager} (h : Sets id r m m') (h' : Sets id r' m' n) :
    Sets id r' m n := by
  refine ⟨fun id' => ?_, h'.capacities.trans h.capacities⟩
  rw [h'.lookup id', h.lookup id']
  by_cases hid : id' = id <;> simp [hid]

variable {r : Reservation}

theorem wp_transition {next : ReservationState → Result ReservationState} (hr : m.reservations.lookup id = some r) :
    wp (transition id next) (fun r' m' => ∃ state, next r.state = .ok state ∧ r' = { r with state := state } ∧
      m' = m.set id r') (fun _ m' => m' = m ∧ ∃ e, next r.state = .error e) m := by
  apply wp_ofOption_some hr
  rw [wp_bind, wp_ofExcept]
  exact ⟨fun state hs => ⟨state, hs, rfl, rfl⟩, fun e he => ⟨rfl, e, he⟩⟩

structure Grantable (request : ReservationRequest) (m : ResourceManager) : Prop where
  absent : m.reservations.lookup request.reservationId = none
  valid : validateRequest request = .ok ()
  free : m.checkClaims request.claims = .ok ()

theorem wp_reserve (request : ReservationRequest) (m : ResourceManager) :
    wp (reserve request)
      (fun r m' => (m.reservations.lookup request.reservationId = some r ∧ r.request = request ∧ m' = m) ∨
        (Grantable request m ∧ r = ⟨request, .pending, none⟩ ∧ m' = m.set request.reservationId r))
      (fun _ m' => m' = m ∧ ¬ Grantable request m) m := by
  unfold reserve
  rw [wp_bind, wp_get]
  cases hl : m.reservations.lookup request.reservationId with
  | some existing =>
    have hnot : ¬ Grantable request m := fun hgrant => by rw [hgrant.absent] at hl; cases hl
    rw [wp_ite]
    exact ⟨fun heq => .inl ⟨rfl, heq, rfl⟩, fun _ => ⟨rfl, hnot⟩⟩
  | none =>
    refine wp_check (fun _ hvalid => wp_check (fun _ hfree => .inr ⟨⟨hl, hvalid, hfree⟩, rfl, rfl⟩) ?_) ?_
    · exact fun e he => ⟨rfl, fun hgrant => by rw [hgrant.free] at he; cases he⟩
    · exact fun e he => ⟨rfl, fun hgrant => by rw [hgrant.valid] at he; cases he⟩

/-- The reservation `r` for `request` is there and active: its claims were free, or it was there for the same request.
-/
structure Acquired (request : ReservationRequest) (r : Reservation) (m m' : ResourceManager) : Prop where
  same : r.request = request
  active : r.state = .active
  sets : Sets request.reservationId r m m'
  grounds : Grantable request m ∨ ∃ old, m.reservations.lookup request.reservationId = some old ∧
    old.request = request ∧
      (old.state = .pending ∨ (old.state = .active ∧ m' = m))

/-- **Reserving and activating**: an error leaves the manager as it was. -/
theorem wp_acquire (request : ReservationRequest) (m : ResourceManager) :
    wp (reserve request >>= fun _ => activate request.reservationId)
      (fun r m' => Acquired request r m m') (fun _ m' => m' = m ∧ ¬ Grantable request m) m := by
  refine wp_seq (wp_reserve request m) (fun r m1 h => ?_)
  rcases h with ⟨hold, hreq, rfl⟩ | ⟨hgrant, rfl, rfl⟩
  · have hnot : ¬ Grantable request m1 := fun hgrant => by rw [hgrant.absent] at hold; cases hold
    refine wp_mono (wp_transition hold) ?_ (fun _ _ h => ⟨h.1, hnot⟩)
    rintro r' m' ⟨state, hnext, rfl, rfl⟩
    have hst : state = .active ∧ (r.state = .pending ∨ r.state = .active) := by
      cases hr : r.state <;> rw [hr] at hnext <;> cases hnext <;> simp
    refine ⟨hreq, hst.1, sets_set _ _ _, .inr ⟨r, hold, hreq, hst.2.imp_right (fun hact => ⟨hact, ?_⟩)⟩⟩
    have hsame : { r with state := state } = r := by rw [hst.1, ← hact]
    rw [hsame]
    show ({ m1 with reservations := m1.reservations.put request.reservationId r } : ResourceManager) = m1
    rw [Table.put_eq_self hold]
  · have hl : (m.set request.reservationId ⟨request, .pending, none⟩).reservations.lookup request.reservationId =
        some ⟨request, .pending, none⟩ := by rw [(sets_set _ _ _).lookup]; simp
    apply wp_mono (wp_transition hl)
    · rintro r' m' ⟨state, hnext, rfl, rfl⟩
      cases hnext
      exact ⟨rfl, rfl, (sets_set _ _ _).again (sets_set _ _ _), .inl hgrant⟩
    · rintro e m' ⟨-, e', he⟩
      cases he

/-- **Releasing an active reservation** cannot fail. -/
theorem wp_release (hr : m.reservations.lookup id = some r) (hst : r.state = .active) :
    wp (beginRelease id >>= fun _ => finishRelease id)
      (fun _ m' => Sets id { r with state := .released } m m') (fun _ _ => False) m := by
  apply wp_then (wp_transition hr)
  · rintro r1 m1 ⟨state, hnext, rfl, rfl⟩
    rw [hst] at hnext
    cases hnext
    have hl : (m.set id { r with state := .releasing }).reservations.lookup id =
      some { r with state := .releasing } := by
      rw [(sets_set _ _ _).lookup]; simp
    apply wp_mono (wp_transition hl)
    · rintro r2 m2 ⟨state, hnext, rfl, rfl⟩
      cases hnext
      exact (sets_set _ _ _).again (sets_set _ _ _)
    · rintro e m2 ⟨-, e', he⟩
      cases he
  · rintro e m1 ⟨-, e', he⟩
    rw [hst] at he
    cases he

/-! ## Exclusive resources -/

/-- Two held reservations share only what both claim as shared. -/
def Exclusive (m : ResourceManager) : Prop :=
  ∀ id r id' r', id ≠ id' → m.reservations.lookup id = some r → m.reservations.lookup id' = some r' →
    holdsResources r.state = true → holdsResources r'.state = true →
    ∀ claim ∈ r.request.claims, ∀ claim' ∈ r'.request.claims, claim.resource = claim'.resource →
      claim.mode = .shared ∧ claim'.mode = .shared

theorem mem_owners {claim : ResourceClaim} (hr : m.reservations.lookup id = some r)
    (hheld : holdsResources r.state = true) (hc : claim ∈ r.request.claims) :
    (r.request.sessionId, claim) ∈ m.owners claim.resource := by
  refine List.mem_filter.2 ⟨List.mem_flatMap.2 ⟨r, List.mem_filter.2 ⟨Table.mem_values.2 ⟨id, hr⟩, hheld⟩, ?_⟩, by simp⟩
  exact List.mem_map.2 ⟨claim, hc, rfl⟩

theorem checkClaim_free {requested : ResourceClaim} (h : m.checkClaim requested = .ok ())
    {owner : String × ResourceClaim}
    (ho : owner ∈ m.owners requested.resource) : requested.mode = .shared ∧ owner.2.mode = .shared := by
  unfold ResourceManager.checkClaim at h
  dsimp only at h
  split at h
  · cases h
  · rename_i hnone
    have hn := List.find?_eq_none.1 hnone owner ho
    cases hm : requested.mode <;> cases ho' : owner.2.mode <;> simp_all

theorem checkClaims_free : ∀ {claims : List ResourceClaim}, m.checkClaims claims = .ok () →
    ∀ requested ∈ claims, m.checkClaim requested = .ok ()
  | [], _, _, hc => by cases hc
  | claim :: claims, h, requested, hc => by
    rw [ResourceManager.checkClaims, Check.bind_ok] at h
    obtain ⟨_, hfirst, hrest⟩ := h
    rcases List.mem_cons.1 hc with rfl | hc
    · exact hfirst
    · exact checkClaims_free hrest requested hc

theorem exclusive_new : Exclusive .new := by
  intro id r id' r' _ hr
  simp [ResourceManager.new] at hr

/-- A reservation that is written holds nothing, or what it held before, or only claims that were free. -/
theorem Exclusive.sets (h : Exclusive m) (hs : Sets id r m m')
    (hr : holdsResources r.state = true → (∃ old, m.reservations.lookup id = some old ∧ old.request = r.request ∧
      holdsResources old.state = true) ∨ m.checkClaims r.request.claims = .ok ()) :
    Exclusive m' := by
  -- the reservation written, against one that was there
  have hone : ∀ id' r', id' ≠ id → m.reservations.lookup id' = some r' → holdsResources r.state = true →
      holdsResources r'.state = true → ∀ claim ∈ r.request.claims, ∀ claim' ∈ r'.request.claims,
      claim.resource = claim'.resource → claim.mode = .shared ∧ claim'.mode = .shared := by
    intro id' r' hne hr' hheld hheld' claim hc claim' hc' hres
    rcases hr hheld with ⟨old, hold, hreq, holdheld⟩ | hfree
    · exact h id old id' r' (Ne.symm hne) hold hr' holdheld hheld' claim (by rw [hreq]; exact hc) claim' hc' hres
    · have ho := mem_owners hr' hheld' hc'
      rw [← hres] at ho
      exact checkClaim_free (checkClaims_free hfree claim hc) ho
  intro id₁ r₁ id₂ r₂ hne h₁ h₂ hheld₁ hheld₂ claim₁ hc₁ claim₂ hc₂ hres
  rcases hs.cases h₁ with ⟨rfl, rfl⟩ | ⟨hid₁, h₁⟩
  · obtain ⟨hid₂, h₂⟩ := (hs.cases h₂).resolve_left fun h => hne h.1.symm
    exact hone id₂ r₂ hid₂ h₂ hheld₁ hheld₂ claim₁ hc₁ claim₂ hc₂ hres
  · rcases hs.cases h₂ with ⟨rfl, rfl⟩ | ⟨-, h₂⟩
    · exact (hone id₁ r₁ hid₁ h₁ hheld₂ hheld₁ claim₂ hc₂ claim₁ hc₁ hres.symm).symm
    · exact h id₁ r₁ id₂ r₂ hne h₁ h₂ hheld₁ hheld₂ claim₁ hc₁ claim₂ hc₂ hres

theorem Exclusive.acquired {request : ReservationRequest} (h : Exclusive m) (ha : Acquired request r m m') :
    Exclusive m' := by
  apply h.sets ha.sets
  intro _
  rcases ha.grounds with hgrant | ⟨old, hold, hreq, hst⟩
  · right; rw [ha.same]; exact hgrant.free
  · left
    refine ⟨old, hold, hreq.trans ha.same.symm, ?_⟩
    rcases hst with hst | ⟨hst, -⟩ <;> rw [hst] <;> rfl

end Resource
end NetTool
