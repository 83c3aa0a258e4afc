import NetTool.Lib.Check
import NetTool.Lib.Run
import NetTool.Resource
/-!
# Resource.Runs — the resource manager over every run

Whatever is asked of a manager, it does one of four things: nothing, note a capacity, add a reservation whose claims are
free, or move a reservation that is there, never out of `Released` (`Effect`).  From this follow the invariants of all
runs: an exclusive resource has one holder and no shared claim, what has to be exclusive is never shared, and what was
released holds nothing again.
-/
namespace NetTool
namespace Resource

open Prog List

inductive Command
  | setCapacity (resource : ResourceKey) (units : Nat)
  | reserve (request : ReservationRequest)
  | activate (id : String)
  | beginRelease (id : String)
  | finishRelease (id : String)
  | fail (id reason : String)

def Command.exec (m : ResourceManager) : Command → ResourceManager
  | setCapacity resource units => (Resource.setCapacity resource units m).2
  | reserve request => (Resource.reserve request m).2
  | activate id => (Resource.activate id m).2
  | beginRelease id => (Resource.beginRelease id m).2
  | finishRelease id => (Resource.finishRelease id m).2
  | fail id reason => (Resource.markFailed id reason m).2

/-- The managers that some run leads to from `m`. -/
abbrev Runs (m : ResourceManager) : ResourceManager → Prop := Reach m Command.exec (fun _ _ => True)

section
variable {m m' : ResourceManager} {id : String} {request : ReservationRequest} {claim : ResourceClaim}

/-! ## What a command can do -/

inductive Effect (m : ResourceManager) : ResourceManager → Prop
  | same : Effect m m
  | capacity (capacities : Table ResourceKey Nat) : Effect m { m with capacities := capacities }
  | granted {request : ReservationRequest} : Grantable request m →
      Effect m (m.set request.reservationId ⟨request, .pending, none⟩)
  | moved {id : String} {r r' : Reservation} : m.reservations.lookup id = some r → r'.request = r.request →
      (r.state = .released → r' = r) → (r'.state ≠ .released → r.state ≠ .released) → Effect m (m.set id r')

theorem effect_transition {next : ReservationState → Result ReservationState}
    (hreleased : ∀ state, next .released = .ok state → state = .released) : Effect m (transition id next m).2 := by
  cases hr : m.reservations.lookup id with
  | none =>
    apply wp_state
    unfold transition
    rw [wp_bind, wp_get, wp_bind, wp_ofOption]
    refine ⟨fun r hr' => ?_, fun _ => .same⟩
    rw [hr] at hr'
    cases hr'
  | some r =>
    refine wp_state (wp_mono (wp_transition hr) ?_ ?_)
    · rintro r' m' ⟨state, hnext, rfl, rfl⟩
      refine .moved hr rfl (fun hst => ?_) (fun hheld hst => hheld ?_)
      · rw [hst] at hnext
        rw [hreleased state hnext, ← hst]
      · rw [hst] at hnext
        exact hreleased state hnext
    · rintro _ _ ⟨rfl, -⟩
      exact .same

/-- **Every command has one of the effects.** -/
theorem effect_exec (m : ResourceManager) (command : Command) : Effect m (command.exec m) := by
  cases command with
  | setCapacity resource units =>
    apply wp_state
    unfold setCapacity
    rw [wp_ite, wp_ite]
    exact ⟨fun _ => .same, fun _ => ⟨fun _ => .same, fun _ => .capacity _⟩⟩
  | reserve request =>
    refine wp_state (wp_mono (wp_reserve request m) ?_ ?_)
    · rintro r m' (⟨-, -, rfl⟩ | ⟨hgrant, rfl, rfl⟩)
      · exact .same
      · exact .granted hgrant
    · rintro _ _ ⟨rfl, -⟩
      exact .same
  | activate id => exact effect_transition (fun _ h => by cases h)
  | beginRelease id
  | finishRelease id => exact effect_transition (fun _ h => by cases h; rfl)
  | fail id reason =>
    apply wp_state
    unfold markFailed
    rw [wp_ite]
    refine ⟨fun _ => .same, fun _ => ?_⟩
    rw [wp_bind, wp_get, wp_bind, wp_ofOption]
    refine ⟨fun r hr => ?_, fun _ => .same⟩
    rw [wp_ite]
    refine ⟨fun _ => .same, fun hheld => ?_⟩
    exact .moved hr rfl (fun hst => absurd hst hheld) (fun _ => hheld)

/-! ## What a valid request claims -/

/-- What must be exclusive is claimed so, and no resource is claimed twice. -/
structure WellFormed (claims : List ResourceClaim) : Prop where
  exclusive : ∀ claim ∈ claims, claim.resource.requiresExclusive = true → claim.mode = .exclusive
  distinct : claims.Pairwise (fun a b => a.resource ≠ b.resource)

theorem validateClaim_ok {earlier : List ResourceClaim} (h : validateClaim earlier claim = .ok ()) :
    (claim.resource.requiresExclusive = true → claim.mode = .exclusive) ∧
      ∀ e ∈ earlier, e.resource ≠ claim.resource := by
  simp only [validateClaim, Check.error_bind, Check.guard_ok, Check.pure_ok] at h
  obtain ⟨-, -, hexclusive, hearlier, -⟩ := h
  constructor
  · intro hrequires
    by_contra hmode
    exact hexclusive (by simp [hrequires, hmode])
  · intro e he hsame
    exact hearlier (any_eq_true.2 ⟨e, he, by simpa using hsame⟩)

theorem wellFormed_of_validateClaims : ∀ {claims earlier : List ResourceClaim}, validateClaims earlier claims = .ok () →
    WellFormed claims ∧ ∀ claim ∈ claims, ∀ e ∈ earlier, e.resource ≠ claim.resource
  | [], _, _ => ⟨⟨by simp, .nil⟩, by simp⟩
  | claim :: claims, earlier, h => by
    rw [validateClaims, Check.bind_ok] at h
    obtain ⟨_, hclaim, hclaims⟩ := h
    obtain ⟨hexclusive, hnew⟩ := validateClaim_ok hclaim
    obtain ⟨⟨hexclusive', hdistinct⟩, hnew'⟩ := wellFormed_of_validateClaims hclaims
    refine ⟨⟨?_, pairwise_cons.2 ⟨fun other hother => hnew' other hother claim (by simp), hdistinct⟩⟩, ?_⟩
    · rintro other (_ | ⟨_, hother⟩)
      · exact hexclusive
      · exact hexclusive' other hother
    · rintro other (_ | ⟨_, hother⟩) e he
      · exact hnew e he
      · exact hnew' other hother e (mem_append_left _ he)

theorem wellFormed_of_valid (h : validateRequest request = .ok ()) : WellFormed request.claims := by
  simp only [validateRequest, Check.error_bind, Check.guard_ok] at h
  exact (wellFormed_of_validateClaims h.2.2).1

/-! ## The invariant -/

def Holds (m : ResourceManager) (id : String) (claim : ResourceClaim) : Prop :=
  ∃ r, m.reservations.lookup id = some r ∧ holdsResources r.state = true ∧ claim ∈ r.request.claims

structure Invariant (m : ResourceManager) : Prop where
  exclusive : Exclusive m
  wellFormed : ∀ id r, m.reservations.lookup id = some r → WellFormed r.request.claims

theorem holdsResources_iff {state : ReservationState} : holdsResources state = true ↔ state ≠ .released := by
  simp [holdsResources]

theorem invariant_new : Invariant .new := by
  refine ⟨exclusive_new, fun id r hr => ?_⟩
  simp [ResourceManager.new] at hr

theorem Invariant.effect (h : Invariant m) (heffect : Effect m m') : Invariant m' := by
  cases heffect with
  | same => exact h
  | capacity capacities => exact ⟨h.exclusive, h.wellFormed⟩
  | granted hgrant =>
    refine ⟨h.exclusive.sets (sets_set _ _ m) (fun _ => .inr hgrant.free), fun id r hr => ?_⟩
    rcases (sets_set _ _ m).cases hr with ⟨-, rfl⟩ | ⟨-, hr⟩
    · exact wellFormed_of_valid hgrant.valid
    · exact h.wellFormed id r hr
  | moved hold hrequest _ hheld =>
    refine ⟨h.exclusive.sets (sets_set _ _ m) (fun hst => .inl ⟨_, hold, hrequest.symm, ?_⟩), fun id r hr => ?_⟩
    · rw [holdsResources_iff] at hst ⊢
      exact hheld hst
    · rcases (sets_set _ _ m).cases hr with ⟨-, rfl⟩ | ⟨-, hr⟩
      · rw [hrequest]
        exact h.wellFormed _ _ hold
      · exact h.wellFormed id r hr

/-- **The invariant of all runs.** -/
theorem invariant_runs (h : Runs .new m) : Invariant m :=
  h.invariant invariant_new (fun m command hm _ => hm.effect (effect_exec m command))

theorem Invariant.one_holder (h : Invariant m) {id' : String} {claim' : ResourceClaim} (hheld : Holds m id claim)
    (hmode : claim.mode = .exclusive) (hheld' : Holds m id' claim') (hsame : claim'.resource = claim.resource) :
    id' = id ∧ claim' = claim := by
  obtain ⟨r, hr, hst, hclaim⟩ := hheld
  obtain ⟨r', hr', hst', hclaim'⟩ := hheld'
  by_cases hid : id' = id
  · subst hid
    obtain rfl : r' = r := Option.mem_unique hr' hr
    refine ⟨rfl, ?_⟩
    by_contra hne
    have hsymm : Std.Symm (fun a b : ResourceClaim => a.resource ≠ b.resource) := ⟨fun _ _ hab hba => hab hba.symm⟩
    exact (h.wellFormed _ _ hr).distinct.forall hclaim' hclaim hne hsame
  · have hshared := (h.exclusive id' r' id r hid hr' hr hst' hst claim' hclaim' claim hclaim hsame).2
    rw [hmode] at hshared
    cases hshared

theorem released_stays {r : Reservation} (hr : m.reservations.lookup id = some r) (hst : r.state = .released)
    (h : Runs m m') : m'.reservations.lookup id = some r := by
  refine Reach.invariant (I := fun m => m.reservations.lookup id = some r) hr (fun m command hm _ => ?_) h
  have heffect := effect_exec m command
  generalize command.exec m = m' at heffect
  cases heffect with
  | same => exact hm
  | capacity capacities => exact hm
  | granted hgrant =>
    rw [(sets_set _ _ m).lookup, if_neg, hm]
    rintro rfl
    rw [hgrant.absent] at hm
    cases hm
  | moved hold _ hstays _ =>
    rw [(sets_set _ _ m).lookup]
    split
    · rename_i hid
      subst hid
      obtain rfl := Option.mem_unique hold hm
      rw [hstays hst]
    · exact hm

/-! ## Capacity -/

def sharedUnits (m : ResourceManager) (resource : ResourceKey) : Nat :=
  (((m.owners resource).filter (fun owner => owner.2.mode = .shared)).map (fun owner => owner.2.units)).sum

/-- What may be shared of a resource; without a configured capacity, the largest `u64`. -/
def capacityOf (m : ResourceManager) (resource : ResourceKey) : Nat := (m.capacities.lookup resource).getD (2 ^ 64 - 1)

theorem usedUnits_foldlM {owners : List (String × ResourceClaim)} {start used : Nat}
    (h : owners.foldlM (fun total owner => checkedAdd total owner.2.units) start = some used) :
    used = start + (owners.map (fun owner => owner.2.units)).sum := by
  induction owners generalizing start with
  | nil =>
    cases h
    simp
  | cons owner owners ih =>
    rw [foldlM_cons] at h
    obtain ⟨total, htotal, hrest⟩ := Option.bind_eq_some_iff.1 h
    unfold checkedAdd at htotal
    split at htotal
    · cases htotal
      rw [ih hrest, map_cons, sum_cons, Nat.add_assoc]
    · cases htotal

theorem checkClaim_fits (h : m.checkClaim claim = .ok ()) (hmode : claim.mode = .shared) :
    sharedUnits m claim.resource + claim.units ≤ capacityOf m claim.resource := by
  have hall : (m.owners claim.resource).filter (fun owner => owner.2.mode = .shared) = m.owners claim.resource :=
    filter_eq_self.2 (fun owner ho => by simpa using (checkClaim_free h ho).2)
  unfold ResourceManager.checkClaim at h
  dsimp only at h
  split at h
  · cases h
  · rw [if_pos hmode] at h
    split at h
    · cases h
    · rename_i used hused
      have hsum := usedUnits_foldlM hused
      split at h
      · cases h
      · split at h
        · rename_i total htotal
          rw [Check.guard_ok] at h
          unfold checkedAdd at htotal
          split at htotal
          · cases htotal
            unfold sharedUnits capacityOf
            rw [hall]
            omega
          · cases htotal
        · cases h

theorem checkClaim_alone (h : m.checkClaim claim = .ok ()) (hmode : claim.mode = .exclusive) :
    m.owners claim.resource = [] := by
  rcases howners : m.owners claim.resource with _ | ⟨owner, owners⟩
  · rfl
  · have hshared := (checkClaim_free h (by rw [howners]; exact mem_cons_self)).1
    rw [hmode] at hshared
    cases hshared

theorem filter_resource {claims : List ResourceClaim} (hdistinct : claims.Pairwise (fun a b => a.resource ≠ b.resource))
    (hclaim : claim ∈ claims) : claims.filter (fun other => other.resource = claim.resource) = [claim] := by
  induction claims with
  | nil => cases hclaim
  | cons other claims ih =>
    rw [pairwise_cons] at hdistinct
    rcases mem_cons.1 hclaim with rfl | hmem
    · have hnone : claims.filter (fun other => other.resource = claim.resource) = [] :=
        filter_eq_nil_iff.2 (fun c hc => by simpa using (hdistinct.1 c hc).symm)
      rw [filter_cons_of_pos (by simp), hnone]
    · rw [filter_cons_of_neg (by simpa using hdistinct.1 claim hmem), ih hdistinct.2 hmem]

theorem owners_granted (hgrant : Grantable request m) (hclaim : claim ∈ request.claims) :
    (m.set request.reservationId ⟨request, .pending, none⟩).owners claim.resource =
      (request.sessionId, claim) :: m.owners claim.resource := by
  have hvalues : (m.set request.reservationId ⟨request, .pending, none⟩).reservations.values =
      ⟨request, .pending, none⟩ :: m.reservations.values := Table.values_put_of_none hgrant.absent _
  have hfilter : (request.claims.map (fun c => (request.sessionId, c))).filter
      (fun owner => owner.2.resource = claim.resource) = [(request.sessionId, claim)] := by
    rw [filter_map]
    show (request.claims.filter (fun c => c.resource = claim.resource)).map _ = _
    rw [filter_resource (wellFormed_of_valid hgrant.valid).distinct hclaim]
    rfl
  unfold ResourceManager.owners
  rw [hvalues, filter_cons_of_pos rfl, flatMap_cons, filter_append, hfilter]
  rfl

/-- **A new reservation stays within the capacities** of the resources it claims. -/
theorem sharedUnits_granted (hgrant : Grantable request m) (hclaim : claim ∈ request.claims) :
    sharedUnits (m.set request.reservationId ⟨request, .pending, none⟩) claim.resource ≤
      capacityOf m claim.resource := by
  have hfree := checkClaims_free hgrant.free claim hclaim
  unfold sharedUnits
  rw [owners_granted hgrant hclaim]
  cases hmode : claim.mode with
  | exclusive =>
    rw [checkClaim_alone hfree hmode]
    simp [hmode]
  | shared =>
    have hfits := checkClaim_fits hfree hmode
    rw [filter_cons_of_pos (by simpa using hmode), map_cons, sum_cons, Nat.add_comm]
    exact hfits

/-! ## Reserving -/

theorem reserve_replay {r : Reservation} (hold : m.reservations.lookup request.reservationId = some r)
    (hsame : r.request = request) : reserve request m = (.ok r, m) := by
  unfold reserve
  rw [get_bind, hold]
  dsimp only
  rw [if_pos hsame]
  rfl

/-- **The resource manager, over every run.**  An exclusive claim is the only one held on its resource; what has to be
exclusive is never held shared; a refused reserve changes nothing, and an accepted one holds all its claims unless it
replays a released reservation; a new reservation leaves the shared units on each resource it claims within the
capacity; a released reservation stays released; a replay returns the stored record and changes nothing. -/
theorem resource_manager_runs (h : Runs .new m) :
    (∀ id claim id' claim', Holds m id claim → claim.mode = .exclusive → Holds m id' claim' →
      claim'.resource = claim.resource → id' = id ∧ claim' = claim) ∧
    (∀ id claim, Holds m id claim → claim.resource.requiresExclusive = true → claim.mode = .exclusive) ∧
    (∀ request e m', reserve request m = (.error e, m') → m' = m) ∧
    (∀ request r m', reserve request m = (.ok r, m') →
      (∀ claim ∈ request.claims, Holds m' request.reservationId claim) ∨
      (m.reservations.lookup request.reservationId = some r ∧ r.state = .released)) ∧
    (∀ request r m', reserve request m = (.ok r, m') → m.reservations.lookup request.reservationId = none →
      ∀ claim ∈ request.claims, sharedUnits m' claim.resource ≤ capacityOf m' claim.resource) ∧
    (∀ id r m', m.reservations.lookup id = some r → r.state = .released → Runs m m' →
      m'.reservations.lookup id = some r ∧ ∀ claim, ¬ Holds m' id claim) ∧
    (∀ request r, m.reservations.lookup request.reservationId = some r → r.request = request →
      reserve request m = (.ok r, m)) := by
  have hinvariant := invariant_runs h
  refine ⟨fun id claim id' claim' hheld hmode hheld' hsame => hinvariant.one_holder hheld hmode hheld' hsame, ?_,
    fun request e m' hrun => (wp_error (wp_reserve request m) hrun).1, ?_, ?_, ?_, fun request r => reserve_replay⟩
  · rintro id claim ⟨r, hr, -, hclaim⟩ hrequires
    exact (hinvariant.wellFormed id r hr).exclusive claim hclaim hrequires
  · intro request r m' hrun
    rcases wp_ok (wp_reserve request m) hrun with ⟨hold, hsame, rfl⟩ | ⟨hgrant, rfl, rfl⟩
    · by_cases hst : r.state = .released
      · exact .inr ⟨hold, hst⟩
      · exact .inl (fun claim hclaim => ⟨r, hold, holdsResources_iff.2 hst, by rw [hsame]; exact hclaim⟩)
    · exact .inl (fun claim hclaim => ⟨_, by rw [(sets_set _ _ m).lookup, if_pos rfl], rfl, hclaim⟩)
  · intro request r m' hrun hnew claim hclaim
    rcases wp_ok (wp_reserve request m) hrun with ⟨hold, -, -⟩ | ⟨hgrant, rfl, rfl⟩
    · rw [hold] at hnew
      cases hnew
    · exact sharedUnits_granted hgrant hclaim
  · intro id r m' hr hst hruns
    have hstays := released_stays hr hst hruns
    refine ⟨hstays, fun claim ⟨r', hr', hheld, _⟩ => holdsResources_iff.1 hheld ?_⟩
    rw [Option.mem_unique hr' hstays, hst]

end

def sampleReservation : ReservationRequest := ⟨"reservation", "session", [⟨.database, .shared, 3⟩]⟩

theorem resource_manager_runs_sample :
    Runs .new (Command.exec .new (.reserve sampleReservation)) ∧
      reserve sampleReservation (Command.exec .new (.reserve sampleReservation)) =
        (.ok ⟨sampleReservation, .pending, none⟩, Command.exec .new (.reserve sampleReservation)) := by
  have hruns : Runs .new (Command.exec .new (.reserve sampleReservation)) := .step _ .init trivial
  have hstored : (Command.exec .new (.reserve sampleReservation)).reservations.lookup "reservation" =
      some ⟨sampleReservation, .pending, none⟩ := by rfl
  exact ⟨hruns, (resource_manager_runs hruns).2.2.2.2.2.2 sampleReservation _ hstored rfl⟩

/-- Once released, the same request is accepted again and holds nothing. -/
theorem replayed_release_holds_nothing :
    ∃ m r, Runs .new m ∧ reserve sampleReservation m = (.ok r, m) ∧ ∀ claim, ¬ Holds m "reservation" claim := by
  have hruns :
    Runs .new ([Command.reserve sampleReservation, .beginRelease "reservation", .finishRelease "reservation"].foldl
      Command.exec .new) := Reach.foldl _ _ .init (by simp [Allowed])
  have hstored : ([Command.reserve sampleReservation, .beginRelease "reservation", .finishRelease "reservation"].foldl
      Command.exec .new).reservations.lookup "reservation" = some ⟨sampleReservation, .released, none⟩ := by rfl
  refine ⟨_, _, hruns, reserve_replay hstored rfl, fun claim ⟨r, hr, hheld, _⟩ => ?_⟩
  cases hstored.symm.trans hr
  cases hheld

end Resource
end NetTool
