import NetTool.PlatformNetwork.Macos
import NetTool.PlatformNetwork.Windows
/-!
# PlatformNetwork.Rollback — restoring a snapshot after any applies (`crates/helper-core/src/platform_network.rs`)

A snapshot holds what the reader returned, and a restore builds its commands from that.  On macOS every state the reader
returns comes back (`Macos.settles_iff`).  On Windows the reader takes names and DNS servers that the builder has no
command for: a restore sets the first server only, and a name with one of the characters no argument may have is
refused.
-/
namespace NetTool
namespace PlatformNetwork

open Helper Prog List

section
variable {I C : Type} {p : Platform I C}

def applies (p : Platform I C) (requests : List (Str × NetworkDesiredState)) (w : World I) : World I :=
  requests.foldl (fun w request => (apply p request.1 request.2 w).2) w

def RollsBack (p : Platform I C) (snapshotId : String) (interfaceId : Str) (state : NetworkDesiredState) (w : World I) :
    Prop :=
  (restore p snapshotId w).1 = .ok () ∧ p.readState interfaceId
    ((restore p snapshotId w).2.interfaces interfaceId) = .ok state

variable {interfaceId : Str} {snapshotId : String} {state : NetworkDesiredState} {w : World I}

theorem snapshot_ok (h : (snapshot p snapshotId interfaceId w).1 = .ok (snapshotId, state)) :
    p.readState interfaceId (w.interfaces interfaceId) = .ok state ∧ snapshotPath snapshotId = .ok () ∧
      (snapshot p snapshotId interfaceId w).2 = w.record snapshotId ⟨platformSnapshotVersion, interfaceId,
        p.backend, state⟩ := by
  have hspec :
    wp (snapshot p snapshotId interfaceId) (fun r w' => p.readState interfaceId (w.interfaces interfaceId) = .ok r.2 ∧
      snapshotPath snapshotId = .ok () ∧ w' = w.record snapshotId ⟨platformSnapshotVersion, interfaceId,
        p.backend, r.2⟩)
      (fun _ _ => True) w := by
    unfold snapshot
    rw [wp_bind, wp_get, wp_bind, wp_ofExcept]
    refine ⟨fun state hread => ?_, fun _ _ => trivial⟩
    refine wp_check (fun _ _ => ?_) (fun _ _ => trivial)
    rw [wp_bind, wp_ofExcept]
    exact ⟨fun _ hpath => ⟨hread, hpath, rfl⟩, fun _ _ => trivial⟩
  rcases wp_cases hspec with ⟨r, w', hrun, hread, hpath, rfl⟩ | ⟨e, w', hrun, -⟩
  · rw [hrun] at h ⊢
    cases h
    exact ⟨hread, hpath, rfl⟩
  · rw [hrun] at h
    cases h

/-- An apply leaves the snapshots alone, and what no command changes. -/
theorem keeps_apply {F : Type} {f : I → F} (hf : ∀ c i i', p.run c i = some i' → f i' = f i) (w₀ : World I)
    (interfaceId : Str) (desired : NetworkDesiredState) :
    Keeps (fun w => w.snapshots = w₀.snapshots ∧ ∀ j, f (w.interfaces j) = f (w₀.interfaces j)) (fun _ => False)
      (apply p interfaceId desired) := by
  refine (Keeps.ofExcept _).bind fun _ => (Keeps.ofExcept _).bind fun commands => (Keeps.ofExcept _).bind fun _ =>
    Keeps.forEach (fun c => ?_) _
  refine (Keeps.ofExcept _).bind fun _ w hw => ?_
  rw [wp_bind, wp_get]
  cases hrun : p.run c (w.interfaces (p.interfaceId c)) with
  | none => exact .inr hw
  | some i =>
    refine ⟨hw.1, fun j => ?_⟩
    by_cases hj : j = p.interfaceId c
    · subst hj
      rw [World.set_interfaces, hf _ _ _ hrun, hw.2]
    · show f (Function.update w.interfaces (p.interfaceId c) i j) = _
      rw [Function.update_of_ne hj, hw.2]

theorem applies_fixed {F : Type} {f : I → F} (hf : ∀ c i i', p.run c i = some i' → f i' = f i) :
    ∀ (requests : List (Str × NetworkDesiredState)) (w : World I), (applies p requests w).snapshots = w.snapshots ∧
      ∀ j, f ((applies p requests w).interfaces j) = f (w.interfaces j)
  | [], _ => ⟨rfl, fun _ => rfl⟩
  | request :: requests, w => by
    obtain ⟨hsnapshots, hfixed⟩ := wp_state ((keeps_apply hf w request.1 request.2).always ⟨rfl, fun _ => rfl⟩)
    obtain ⟨hsnapshots', hfixed'⟩ := applies_fixed hf requests (apply p request.1 request.2 w).2
    exact ⟨hsnapshots'.trans hsnapshots, fun j => (hfixed' j).trans (hfixed j)⟩

/-- A restore after applies is a question about the interface they leave. -/
theorem rollsBack_iff (h : (snapshot p snapshotId interfaceId w).1 = .ok (snapshotId, state))
    (requests : List (Str × NetworkDesiredState)) :
    RollsBack p snapshotId interfaceId state (applies p requests (snapshot p snapshotId interfaceId w).2) ↔
      p.Settles interfaceId ((applies p requests (snapshot p snapshotId interfaceId w).2).interfaces
        interfaceId) state := by
  obtain ⟨-, hpath, hworld⟩ := snapshot_ok h
  have hkept := (applies_fixed (p := p) (f := fun _ => ()) (fun _ _ _ _ => rfl) requests
    (snapshot p snapshotId interfaceId w).2).1
  refine restore_reads_iff hpath ?_
  rw [hkept, hworld]
  exact Function.update_self ..

end

namespace Windows

/-- What no command changes. -/
def Interface.fixed (x : Interface) :
    List Str × Option (List (BitVec 128)) × List (Bool × IpAddr) × Lease 32 × Lease 128 :=
  (x.adapters, x.dns6, x.routes, x.lease4, x.lease6)

theorem fixed_run (c : Command) (x x' : Interface) (h : run c x = some x') : x'.fixed = x.fixed := by
  cases c with
  | setDnsStatic i server =>
    cases server with
    | v4 bits => cases h; rfl
    | v6 bits => cases h
  | _ => cases h; rfl

/-- The states that Windows gets back: with one IPv4 DNS server, or with none at all where the network gives none
either. -/
def Restorable (x : Interface) (state : NetworkDesiredState) : Prop :=
  (state.dns.servers = [] ∧ (state.ipv4 = .dhcp → x.lease4.servers = [])) ∨
    (state.dns.servers.filter IpAddr.isIpv4).length = 1

section
variable {x x' : Interface} {state : NetworkDesiredState} (hreads : Reads x state) (hfixed : x'.fixed = x.fixed)
include hreads hfixed

theorem noHop_of_reads : NoHop x' state := by
  simp only [Interface.fixed, Prod.mk.injEq] at hfixed
  obtain ⟨-, -, hroutes, h4, h6⟩ := hfixed
  obtain ⟨hnone, hnone4, hnone6⟩ := hops_eq_nil_iff.1 hreads.hops
  refine ⟨?_, fun hdhcp => ?_, fun hautomatic => ?_⟩
  · rw [hroutes]
    exact hnone
  · rw [← Ipv4Setting.dhcp_iff hreads.ipv4] at hdhcp
    rw [h4]
    simpa [Interface.gateways4, hdhcp] using hnone4
  · rw [← Ipv6Setting.automatic_iff hreads.ipv6] at hautomatic
    rw [h6]
    simpa [Interface.gateways6, hautomatic] using hnone6

theorem standing6_of_reads : x'.standing6 state.ipv6 = x.servers6 := by
  simp only [Interface.fixed, Prod.mk.injEq] at hfixed
  obtain ⟨-, hdns6, -, -, h6⟩ := hfixed
  unfold Interface.standing6 Interface.servers6
  rw [hdns6, h6]
  simp only [Ipv6Setting.automatic_iff hreads.ipv6]

theorem oneServer_iff_restorable : OneServer x' state ↔ Restorable x state := by
  have hservers : state.dns.servers = x.servers4.map .v4 ++ x.servers6.map .v6 := by rw [hreads.dns]; rfl
  have hcount : (state.dns.servers.filter IpAddr.isIpv4).length = x.servers4.length := by
    have h4 : (x.servers4.map IpAddr.v4).filter IpAddr.isIpv4 = x.servers4.map .v4 :=
      filter_eq_self.2 (by simp [IpAddr.isIpv4])
    have h6 : (x.servers6.map IpAddr.v6).filter IpAddr.isIpv4 = [] := filter_eq_nil_iff.2 (by simp [IpAddr.isIpv4])
    rw [hservers, filter_append, h4, h6, append_nil, length_map]
  have hlease : x'.lease4 = x.lease4 := by
    simp only [Interface.fixed, Prod.mk.injEq] at hfixed
    exact hfixed.2.2.2.1
  unfold OneServer Restorable
  rw [standing6_of_reads hreads hfixed, hlease, hcount, hservers]
  constructor
  · rintro (⟨hnil, hgiven, -⟩ | ⟨server, heq⟩)
    · exact .inl ⟨hnil, hgiven⟩
    · right
      have hlength := congrArg List.length heq
      simp only [length_append, length_map, length_cons] at hlength
      omega
  · rintro (⟨hnil, hgiven⟩ | hone)
    · exact .inl ⟨hnil, hgiven, map_eq_nil_iff.1 (append_eq_nil_iff.1 hnil).2⟩
    · obtain ⟨server, heq⟩ := length_eq_one_iff.1 hone
      rw [heq]
      exact .inr ⟨server, rfl⟩

end
end Windows

def sampleId : String := "0123456789abcdef0123456789abcdef0123456789abcdef0123456789abcdef"

def sampleState (servers : List (BitVec 32)) : NetworkDesiredState :=
  ⟨.dhcp, .disabled, ⟨false, servers.map .v4 ++ [.v6 0x20010db8000000000000000000000053#128], []⟩, [], some 1500⟩

def macosSample : World Macos.Interface where
  interfaces _ := ⟨"DHCP Configuration\n".toList, "IPv6: Off\n".toList, "192.0.2.53\n2001:db8::53\n".toList,
    "Active MTU: 1500 (Current Setting: 1500)\n".toList⟩
  snapshots _ := none

def windowsSample (name : Str) (servers : List (BitVec 32)) : World Windows.Interface where
  interfaces _ := ⟨[name], 12, .dhcp, .disabled, some servers, some [0x20010db8000000000000000000000053#128], 1500, [],
    ⟨[], [], []⟩, ⟨[], [], []⟩⟩
  snapshots _ := none

theorem snapshot_windowsSample (name : Str) (servers : List (BitVec 32)) (hname : validateInterface name = .ok ())
    (hvalid : (sampleState servers).validate = .ok ()) :
    (snapshot Windows.platform sampleId name (windowsSample name servers)).1 = .ok (sampleId, sampleState servers) := by
  have hdns : (sampleState servers).dns = ⟨((windowsSample name servers).interfaces name).servers.isEmpty,
      ((windowsSample name servers).interfaces name).servers, []⟩ := by
    cases servers <;> rfl
  have hread : Windows.platform.readState name ((windowsSample name servers).interfaces name) =
    .ok (sampleState servers) :=
    Windows.readState_ok_iff.2 ⟨hname, rfl, rfl, rfl, rfl, hdns, rfl, rfl, hvalid⟩
  unfold snapshot
  rw [get_bind, bind_of_ok (ofExcept_eq hread _), bind_of_ok (ofExcept_eq (Check.mapError_ok.2 hvalid) _)]
  rfl

end PlatformNetwork
end NetTool
