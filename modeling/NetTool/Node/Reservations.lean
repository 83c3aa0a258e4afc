import Mathlib.Data.Set.Function
import NetTool.Node.Effects
/-!
# Node.Reservations — sessions and reservations go together

While the random source works, the reservations that are held are exactly those of the live sessions: one each, active,
and no data port or DPDK device is claimed by two of them.
-/
namespace NetTool
namespace Node

open Prog Speed Resource SpeedTestLifecycle

namespace SessionCoordinator

def Live (c : SessionCoordinator) (sid : SessionId) : Prop :=
  ∃ s, c.session sid = some s ∧ (s.state = .testReady ∨ s.state = .running ∨ s.state = .finalizing)

def reservationOf (c : SessionCoordinator) (sid : SessionId) : String :=
  ((c.session sid).map (·.reservationId)).getD ""

def Held (c : SessionCoordinator) (id : String) : Prop :=
  ∃ r, c.resources.reservations.lookup id = some r ∧ holdsResources r.state = true

def Claims (c : SessionCoordinator) (sid : SessionId) (key : ResourceKey) : Prop :=
  ∃ r, c.resources.reservations.lookup (c.reservationOf sid) = some r ∧ ∃ claim ∈ r.request.claims, claim.resource = key

end SessionCoordinator

section
variable {orphans : Prop} {c : SessionCoordinator} {sid sid' : SessionId} {s : Session}

theorem cancelable_iff {state : NodeConnectionState} :
    cancelable state = true ↔ state = .testReady ∨ state = .running ∨ state = .finalizing := by
  cases state <;> simp [cancelable]

theorem reservationOf_eq (hs : c.session sid = some s) : c.reservationOf sid = s.reservationId := by
  unfold SessionCoordinator.reservationOf
  rw [hs]
  rfl

theorem Good.active (hg : Good orphans c) (hlive : c.Live sid) :
    ∃ r, c.resources.reservations.lookup (c.reservationOf sid) = some r ∧ r.state = .active := by
  obtain ⟨s, hs, hst⟩ := hlive
  obtain ⟨r, hr, hstate⟩ := hg.held sid s hs
  rw [if_pos (cancelable_iff.2 hst)] at hstate
  exact ⟨r, by rw [reservationOf_eq hs]; exact hr, hstate⟩

theorem Good.reservationOf_injOn (hg : Good orphans c) : Set.InjOn c.reservationOf {sid | c.Live sid} := by
  rintro sid₁ ⟨s₁, hs₁, -⟩ sid₂ ⟨s₂, hs₂, -⟩ heq
  rw [reservationOf_eq hs₁, reservationOf_eq hs₂] at heq
  exact hg.reservationId_injective hs₁ hs₂ heq

theorem Good.live_of_held {r : Reservation} {id : String} (hg : Good False c)
    (hr : c.resources.reservations.lookup id = some r) (hheld : holdsResources r.state = true) :
    ∃ sid, c.Live sid ∧ c.reservationOf sid = id := by
  rcases hg.owned id r hr with ⟨sid, s, hs, hid⟩ | ⟨hfalse, -⟩
  · refine ⟨sid, ⟨s, hs, ?_⟩, (reservationOf_eq hs).trans hid⟩
    obtain ⟨r', hr', hstate⟩ := hg.held sid s hs
    rw [hid, hr, Option.some.injEq] at hr'
    subst hr'
    by_cases hlive : cancelable s.state = true
    · exact cancelable_iff.1 hlive
    · rw [if_neg hlive] at hstate
      rw [hstate] at hheld
      cases hheld
  · exact hfalse.elim

/-- Two live sessions claim no port and no device together. -/
theorem Good.unshared (hg : Good orphans c) (hlive : c.Live sid) (hlive' : c.Live sid') (hne : sid ≠ sid')
    {key : ResourceKey} (hkey : isEndpoint key = true) : ¬ (c.Claims sid key ∧ c.Claims sid' key) := by
  rintro ⟨⟨r, hr, claim, hc, hres⟩, ⟨r', hr', claim', hc', hres'⟩⟩
  obtain ⟨r₁, hr₁, hact⟩ := hg.active hlive
  obtain ⟨r₂, hr₂, hact'⟩ := hg.active hlive'
  obtain rfl := Option.mem_unique hr hr₁
  obtain rfl := Option.mem_unique hr' hr₂
  have hids : c.reservationOf sid ≠ c.reservationOf sid' := fun heq => hne (hg.reservationOf_injOn hlive hlive' heq)
  have hshared := hg.exclusive _ r _ r' hids hr hr' (by rw [hact]; rfl) (by rw [hact']; rfl) claim hc claim' hc'
    (hres.trans hres'.symm)
  have hexclusive := hg.guarded _ r hr claim hc (by rw [hres]; exact hkey)
  rw [hshared.1] at hexclusive
  cases hexclusive

end

/-- **The reservations held are those of the live sessions, each active, and no port or device has two sessions.** -/
theorem reservations_match_sessions {ext : Externals} {c : SessionCoordinator}
    (h : Reachable ext (fun call => ¬ call.RandomFails) c) :
    Set.BijOn c.reservationOf {sid | c.Live sid} {id | c.Held id} ∧
    (∀ id r, c.resources.reservations.lookup id = some r → holdsResources r.state = true → r.state = .active) ∧
    (∀ sid sid', c.Live sid → c.Live sid' → sid ≠ sid' → ∀ key, isEndpoint key = true →
      ¬ (c.Claims sid key ∧ c.Claims sid' key)) := by
  have hg : Good False c := reachable_good h (fun call hok hfails => hok hfails)
  refine ⟨⟨?_, hg.reservationOf_injOn, ?_⟩, ?_, ?_⟩
  · intro sid hlive
    obtain ⟨r, hr, hact⟩ := hg.active hlive
    exact ⟨r, hr, by rw [hact]; rfl⟩
  · rintro id ⟨r, hr, hheld⟩
    exact hg.live_of_held hr hheld
  · intro id r hr hheld
    obtain ⟨sid, hlive, hid⟩ := hg.live_of_held hr hheld
    obtain ⟨r', hr', hact⟩ := hg.active hlive
    rw [hid, hr, Option.some.injEq] at hr'
    rw [hr']
    exact hact
  · exact fun sid sid' hlive hlive' hne key hkey => hg.unshared hlive hlive' hne hkey

/-! A run with a TCP receiver, a DPDK receiver that is stopped again, and a TCP sender. -/

def sampleId (n : UInt8) : SessionId := Bytes.replicate 16 n

def sampleOs : Os := ⟨fun _ => .ok 7, .ok (.v4 0x7f000001#32 40000), .ok (Bytes.replicate 32 0xab)⟩

def sampleExternals : Externals := ⟨fun _ => [], fun _ => .ok (.object [("schema_version", .string "1.0")])⟩

def sampleConfig : TcpRunConfig := ⟨1, 1024, 0, 100⟩

def sampleTcp : PrepareTcpRequest :=
  ⟨sampleId 1, "prepare-1", sampleId 9, .localhost, .v4 0x7f000001#32 0, sampleConfig, 30⟩

def sampleDpdk : PrepareDpdkReceiverRequest :=
  ⟨sampleId 2, "prepare-2", sampleId 9, "0000:01:00.0", 500, "02:00:00:00:00:02", 30⟩

def sampleTcpSender : PrepareTcpSenderRequest :=
  ⟨sampleId 3, "prepare-3", sampleId 9, .localhost, .v4 0x7f000001#32 5000, sampleConfig, 30⟩

def mixedRun : List Call :=
  [.request (.prepareTcp sampleTcp) sampleOs 0, .request (.prepareDpdkReceiver sampleDpdk) sampleOs 0,
    .request (.stop (sampleId 2) "stop-2") sampleOs 0, .request (.prepareTcpSender sampleTcpSender) sampleOs 0]

def mixedCoordinator : SessionCoordinator := mixedRun.foldl (step sampleExternals) .new

theorem mixedRun_reachable : Reachable sampleExternals (fun call => ¬ call.RandomFails) mixedCoordinator := by
  have hok : ¬ ∃ error, sampleOs.random = .error error := by rintro ⟨error, h⟩; cases h
  exact Reach.foldl mixedRun _ .init ⟨hok, hok, hok, hok, trivial⟩

theorem reservations_match_sessions_mixed :
    ((mixedCoordinator.session (sampleId 1)).map (·.state) = some .testReady ∧
      (mixedCoordinator.session (sampleId 2)).map (·.state) = some .canceled) ∧
    Set.BijOn mixedCoordinator.reservationOf {sid | mixedCoordinator.Live sid} {id | mixedCoordinator.Held id} ∧
    (∀ id r, mixedCoordinator.resources.reservations.lookup id = some r → holdsResources r.state = true →
      r.state = .active) ∧
    (∀ sid sid', mixedCoordinator.Live sid → mixedCoordinator.Live sid' → sid ≠ sid' → ∀ key, isEndpoint key = true →
      ¬ (mixedCoordinator.Claims sid key ∧ mixedCoordinator.Claims sid' key)) :=
  ⟨by decide, reservations_match_sessions mixedRun_reachable⟩

end Node
end NetTool
