import NetTool.PlatformNetwork.Macos
import NetTool.PlatformNetwork.Windows
/-!
# PlatformNetwork.Verify — an apply and the verification after it (`crates/helper-core/src/platform_network.rs`)

A verification compares the whole state that is read with the whole state that was requested.  The readers always return
an MTU, never a disabled IPv4, and take DNS servers to be automatic exactly when there are none; so a request that
differs in one of these is applied and then fails its verification.  On Windows the network has a say as well, in what
it gives the interface.
-/
namespace NetTool
namespace PlatformNetwork

open Helper Prog

def Verified {I C : Type} (p : Platform I C) (interfaceId : Str) (desired : NetworkDesiredState) (w : World I) : Prop :=
  (apply p interfaceId desired w).1 = .ok () ∧
    (verify p interfaceId desired (apply p interfaceId desired w).2).1 = .ok ()

/-- A request of the form the readers return. -/
structure Readable (desired : NetworkDesiredState) : Prop where
  ipv4 : desired.ipv4 ≠ .disabled
  dns : desired.dns.automatic = desired.dns.servers.isEmpty
  mtu : desired.mtu ≠ none

/-- The builder has seen to the rest. -/
theorem single_iff_readable {C : Type} {a : Adapter C} {interfaceId : Str} {desired : NetworkDesiredState}
    {commands : List C} (h : a.build interfaceId desired = .ok commands) : Single desired ↔ Readable desired := by
  obtain ⟨-, hvalid, hroutes, hdomains, c4, c6, -, h4, h6, -⟩ := Adapter.build_ok_iff.1 h
  constructor
  · intro hsingle
    refine ⟨fun hdisabled => ?_, ?_, fun hnone => ?_⟩
    · rcases hsingle.ipv4 with heq | ⟨_, _, heq⟩
      · rw [hdisabled] at heq; cases heq
      · rw [hdisabled] at heq; cases heq
    · exact congrArg DnsConfiguration.automatic hsingle.dns
    · obtain ⟨mtu, hmtu⟩ := hsingle.mtu
      rw [hnone] at hmtu
      cases hmtu
  · intro hreadable
    refine ⟨hvalid, ?_, ?_, ?_, hroutes, Option.ne_none_iff_exists'.1 hreadable.mtu⟩
    · rcases Adapter.ipv4Command_ok h4 with ⟨heq, -⟩ | ⟨heq, -⟩ | ⟨address, length, heq, -, -⟩
      · exact .inl heq
      · exact absurd heq hreadable.ipv4
      · exact .inr ⟨address, length, heq⟩
    · rcases Adapter.ipv6Command_ok h6 with ⟨heq, -⟩ | ⟨heq, -⟩ | ⟨address, length, heq, -⟩
      · exact .inl heq
      · exact .inr (.inl heq)
      · exact .inr (.inr ⟨address, length, heq⟩)
    · rw [← hreadable.dns, ← hdomains]

def leased (mtu : Option UInt32) : NetworkDesiredState := ⟨.dhcp, .disabled, ⟨true, [], []⟩, [], mtu⟩

def macosLeased : World Macos.Interface where
  interfaces name :=
    ⟨"DHCP Configuration\n".toList, "IPv6: Off\n".toList, Macos.serverInfo name [], Macos.currentMtu 1500⟩
  snapshots _ := none

def windowsLeased : World Windows.Interface where
  interfaces name := ⟨[name], 12, .dhcp, .disabled, none, none, 1500, [], ⟨[(0xc0000201#32, 24)], [], []⟩, ⟨[], [], []⟩⟩
  snapshots _ := none

end PlatformNetwork
end NetTool
