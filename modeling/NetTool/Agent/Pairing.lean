import NetTool.Agent.Listener
/-!
# Agent.Pairing — what pairings and revocations keep

What one call does to the registry, and the key of an identity over all runs of successful pairings and revocations.  An
identity is to keep its key unless a change is confirmed; the check looks at the text of the Node ID, and an identity
has many texts.
-/
namespace NetTool
namespace Agent

open Storage

variable {crypto : Crypto} {tls : Tls} {registry result : Registry} {trusted : TrustedNodeConnection}

/-! ## What a call does -/

theorem trustNodeConnection_ok (h : trustNodeConnection crypto registry trusted = .ok result) :
    validateTrustedConnection crypto trusted = .ok () ∧ identityChanged registry trusted = false ∧
      result = writeTrust registry trusted := by
  unfold trustNodeConnection at h
  simp only [Check.bind_ok, Check.guard_ok, Check.pure_ok, Bool.not_eq_true] at h
  obtain ⟨_, hvalid, hsame, hresult⟩ := h
  exact ⟨hvalid, hsame, hresult.symm⟩

theorem trustNodeConnection_of_valid (hvalid : validateTrustedConnection crypto trusted = .ok ())
    (hsame : identityChanged registry trusted = false) :
    trustNodeConnection crypto registry trusted = .ok (writeTrust registry trusted) := by
  unfold trustNodeConnection
  rw [hvalid, if_neg (by rw [hsame]; decide)]
  rfl

/-- A row that a revocation leaves is a row that was there, with the same key; a trusted one is unchanged. -/
theorem revokeTrustedNode_ok {idOrName : String} (h : revokeTrustedNode registry idOrName = .ok result) :
    result.node = registry.node ∧ ∀ id row, result.nodeTrust.lookup id = some row →
      ∃ old, registry.nodeTrust.lookup id = some old ∧ row = { old with trustStatus := row.trustStatus } ∧
        (row.trustStatus = .trusted → row = old) := by
  unfold revokeTrustedNode at h
  rw [Check.bind_ok] at h
  obtain ⟨found, -, h⟩ := h
  cases found with
  | none => cases h
  | some node =>
    simp only [setRevoked] at h
    split at h
    · rename_i old hold
      split at h
      · cases h
        refine ⟨rfl, fun id row hrow => ?_⟩
        simp only [Table.lookup_put] at hrow
        split at hrow
        · rename_i heq
          cases hrow
          exact ⟨old, by rw [heq, hold], rfl, fun htrusted => by cases htrusted⟩
        · exact ⟨row, hrow, rfl, fun _ => rfl⟩
      · cases h
    · cases h

theorem lookup_writeTrust (id : String) :
    (writeTrust registry trusted).nodeTrust.lookup id
      = if id = trusted.nodeId then some (trustRow trusted) else registry.nodeTrust.lookup id :=
  Table.lookup_put ..

/-- **A row after a call** was written by the pairing, or was there under its ID, trusted if it is. -/
theorem row_after {c : TrustCall} {id : String} {row : TrustRow} (hcall : trustCall crypto registry c = .ok result)
    (hrow : result.nodeTrust.lookup id = some row) :
    (∃ trusted, c = .pair trusted ∧ id = trusted.nodeId ∧ row = trustRow trusted) ∨
      (∀ trusted, c = .pair trusted → id ≠ trusted.nodeId) ∧ ∃ old, registry.nodeTrust.lookup id = some old ∧
        row = { old with trustStatus := row.trustStatus } ∧ (row.trustStatus = .trusted → row = old) := by
  cases c with
  | pair trusted =>
    obtain ⟨-, -, rfl⟩ := trustNodeConnection_ok hcall
    rw [lookup_writeTrust] at hrow
    split at hrow
    · cases hrow
      exact .inl ⟨trusted, rfl, ‹_›, rfl⟩
    · refine .inr ⟨?_, row, hrow, rfl, fun _ => rfl⟩
      rintro _ ⟨⟩
      assumption
  | revoke idOrName => exact .inr ⟨fun _ heq => (by cases heq), (revokeTrustedNode_ok hcall).2 id row hrow⟩

/-! ## The key of an identity -/

def confirmed : TrustCall → Bool
  | .pair trusted => trusted.identityChangeConfirmed
  | .revoke _ => false

/-- An identity that had a key is trusted with no other one. -/
def KeepsKeys (before after : Registry) : Prop :=
  ∀ identity id row id' row', before.nodeTrust.lookup id = some row → parseNodeId id = .ok identity →
    after.nodeTrust.lookup id' = some row' → row'.trustStatus = .trusted → parseNodeId id' = .ok identity →
    eqIgnoreAsciiCase row.fingerprint row'.fingerprint = true

/-- Every row of the same identity under another text holds the key that is presented. -/
def KnownKey (registry : Registry) : TrustCall → Prop
  | .pair trusted => ∀ identity id row, registry.nodeTrust.lookup id = some row → id ≠ trusted.nodeId →
      parseNodeId id = .ok identity → parseNodeId trusted.nodeId = .ok identity →
      eqIgnoreAsciiCase row.fingerprint trusted.fingerprint = true
  | .revoke _ => True

/-- All rows of an identity hold one key. -/
def OneKey (registry : Registry) : Prop :=
  ∀ identity id row id' row', registry.nodeTrust.lookup id = some row → parseNodeId id = .ok identity →
    registry.nodeTrust.lookup id' = some row' → parseNodeId id' = .ok identity →
    eqIgnoreAsciiCase row.fingerprint row'.fingerprint = true

theorem eqIgnoreAsciiCase_symm {a b : String} (h : eqIgnoreAsciiCase a b = true) : eqIgnoreAsciiCase b a = true := by
  rw [eqIgnoreAsciiCase_iff] at h ⊢
  exact h.symm

theorem eqIgnoreAsciiCase_trans {a b c : String} (h : eqIgnoreAsciiCase a b = true)
    (h' : eqIgnoreAsciiCase b c = true) : eqIgnoreAsciiCase a c = true := by
  rw [eqIgnoreAsciiCase_iff] at h h' ⊢
  exact h.trans h'

theorem eqIgnoreAsciiCase_refl (a : String) : eqIgnoreAsciiCase a a = true := eqIgnoreAsciiCase_iff.2 rfl

theorem OneKey.step {c : TrustCall} (h : OneKey registry) (hcall : trustCall crypto registry c = .ok result)
    (hknown : KnownKey registry c) : OneKey result := by
  intro identity id row id' row' hrow hid hrow' hid'
  rcases row_after hcall hrow with ⟨trusted, rfl, rfl, rfl⟩ | ⟨hne, old, hold, hrow, -⟩ <;>
    rcases row_after hcall hrow' with ⟨trusted', hpair, rfl, rfl⟩ | ⟨hne', old', hold', hrow', -⟩
  · cases hpair
    exact eqIgnoreAsciiCase_refl _
  · rw [hrow']
    exact eqIgnoreAsciiCase_symm (hknown identity id' old' hold' (hne' trusted rfl) hid' hid)
  · subst hpair
    rw [hrow]
    exact hknown identity id old hold (hne trusted' rfl) hid hid'
  · rw [hrow, hrow']
    exact h identity id old id' old' hold hid hold' hid'

theorem OneKey.of_paired (h : PairedBy crypto KnownKey registry) : OneKey registry :=
  h.invariant (fun _ _ _ _ _ hrow => by cases hrow) OneKey.step

/-- **A call that confirms no change keeps the key of every identity exactly when the rows of the identity it names,
under other texts, hold the key that is presented.** -/
theorem unconfirmed_call_keeps_keys_iff {c : TrustCall} (h : PairedBy crypto KnownKey registry)
    (hcall : trustCall crypto registry c = .ok result) (hunconfirmed : confirmed c = false) :
    KeepsKeys registry result ↔ KnownKey registry c := by
  have hone := OneKey.of_paired h
  cases c with
  | pair trusted =>
    have hconfirmed : trusted.identityChangeConfirmed = false := hunconfirmed
    obtain ⟨-, hsame, rfl⟩ := trustNodeConnection_ok hcall
    constructor
    · intro hkeeps identity id row hrow _ hid hnode
      exact hkeeps identity id row trusted.nodeId (trustRow trusted) hrow hid
        (by rw [lookup_writeTrust, if_pos rfl]) rfl hnode
    · intro hknown identity id row id' row' hrow hid hrow' _ hid'
      rw [lookup_writeTrust] at hrow'
      split at hrow'
      · rename_i heq
        cases hrow'
        by_cases htext : id = trusted.nodeId
        · -- The text is the one of the request: the storage has compared the keys.
          rw [htext] at hrow
          unfold identityChanged at hsame
          rw [hrow] at hsame
          show eqIgnoreAsciiCase row.fingerprint trusted.fingerprint = true
          simpa [hconfirmed] using hsame
        · exact hknown identity id row hrow htext hid (heq ▸ hid')
      · exact hone identity id row id' row' hrow hid hrow' hid'
  | revoke idOrName =>
    refine ⟨fun _ => trivial, fun _ => ?_⟩
    intro identity id row id' row' hrow hid hrow' htrusted hid'
    obtain ⟨old, hold, -, hunchanged⟩ := (revokeTrustedNode_ok hcall).2 id' row' hrow'
    rw [hunchanged htrusted]
    exact hone identity id row id' old hrow hid hold hid'

/-- Certificates that are their own keys; a digest repeats the first byte. -/
def plainCrypto : Crypto := ⟨fun certificate => .ok ([], certificate), fun key => .replicate 32 (key.headD 0)⟩

/-- A pairing of a node with a key, by the out-of-band channel and without a confirmed change. -/
def pairing (nodeId : String) (key : UInt8) : TrustedNodeConnection :=
  ⟨nodeId, "lab", "192.0.2.1:47000", "lab", [key], fingerprintSha256 plainCrypto [key], true, false⟩

theorem valid_pairing {nodeId : String} (h : isNodeIdText nodeId) (key : UInt8) :
    validateTrustedConnection plainCrypto (pairing nodeId key) = .ok () := by
  have hname : ¬ (trimIsEmpty "lab" = true ∨ 255 < "lab".utf8ByteSize) := by decide
  have hserver : ¬ (trimIsEmpty "lab" = true ∨ 253 < "lab".utf8ByteSize) := by decide
  have haddress : (IpAddr.parseSocketAddr "192.0.2.1:47000".toList).isNone = false := by decide
  have hkey : publicKeyFingerprint plainCrypto [key] = .ok (fingerprintSha256 plainCrypto [key]) := rfl
  unfold validateTrustedConnection pairing
  rw [if_neg (by simp), if_neg (not_not.2 h), if_neg hname, if_neg hserver, if_neg (by rw [haddress]; decide), hkey,
    Check.ok_bind, if_neg (by rw [eqIgnoreAsciiCase_refl]; decide)]

def lowerId : String := "abcdefabcdefabcdefabcdefabcdefab"
def upperId : String := "ABCDEFABCDEFABCDEFABCDEFABCDEFAB"

def onePaired (nodeId : String) (key : UInt8) : Registry := writeTrust ⟨∅, ∅⟩ (pairing nodeId key)

theorem lookup_onePaired {nodeId id : String} {key : UInt8} {row : TrustRow}
    (h : (onePaired nodeId key).nodeTrust.lookup id = some row) :
    id = nodeId ∧ row = trustRow (pairing nodeId key) := by
  unfold onePaired at h
  rw [lookup_writeTrust] at h
  split at h
  · rename_i heq
    cases h
    exact ⟨heq, rfl⟩
  · cases h

theorem pairedBy_onePaired {ok : Registry → TrustCall → Prop} {nodeId : String} {key : UInt8}
    (hnode : isNodeIdText nodeId) (hok : ok ⟨∅, ∅⟩ (.pair (pairing nodeId key))) :
    PairedBy plainCrypto ok (onePaired nodeId key) := by
  have hcall : trustCall plainCrypto ⟨∅, ∅⟩ (.pair (pairing nodeId key)) = .ok (onePaired nodeId key) :=
    trustNodeConnection_of_valid (valid_pairing hnode key) rfl
  have hstep : trustStep plainCrypto ⟨∅, ∅⟩ (.pair (pairing nodeId key)) = onePaired nodeId key := by
    unfold trustStep
    rw [hcall]
  rw [← hstep]
  exact .step _ .init ⟨⟨_, hcall⟩, hok⟩

/-- The fingerprints of the keys 1 and 2: the texts differ in their second character. -/
theorem keys_differ :
    ¬ eqIgnoreAsciiCase (fingerprintSha256 plainCrypto [1]) (fingerprintSha256 plainCrypto [2]) = true := by
  intro hsame
  rw [eqIgnoreAsciiCase_iff] at hsame
  exact absurd (congrArg (fun l : List Char => l[1]?) hsame) (by decide)

/-- The same node is paired again under the other text, with its key. -/
theorem unconfirmed_call_keeps_keys_sample :
    PairedBy plainCrypto KnownKey (onePaired lowerId 1) ∧
    KeepsKeys (onePaired lowerId 1) (writeTrust (onePaired lowerId 1) (pairing upperId 1)) := by
  have hpaired : PairedBy plainCrypto KnownKey (onePaired lowerId 1) :=
    pairedBy_onePaired (by decide) (fun _ _ _ hrow => by cases hrow)
  have hcall : trustCall plainCrypto (onePaired lowerId 1) (.pair (pairing upperId 1))
      = .ok (writeTrust (onePaired lowerId 1) (pairing upperId 1)) :=
    trustNodeConnection_of_valid (valid_pairing (by decide) 1) rfl
  refine ⟨hpaired, (unconfirmed_call_keeps_keys_iff hpaired hcall rfl).2 ?_⟩
  intro identity id row hrow _ _ _
  rw [(lookup_onePaired hrow).2]
  exact eqIgnoreAsciiCase_refl _

/-- Paired with one key, the identity is trusted with another one, unconfirmed, under its other text. -/
theorem identity_rebound_by_spelling :
    PairedBy plainCrypto KnownKey (onePaired lowerId 1) ∧
    trustNodeConnection plainCrypto (onePaired lowerId 1) (pairing upperId 2)
      = .ok (writeTrust (onePaired lowerId 1) (pairing upperId 2)) ∧
    (pairing upperId 2).identityChangeConfirmed = false ∧
    ¬ KeepsKeys (onePaired lowerId 1) (writeTrust (onePaired lowerId 1) (pairing upperId 2)) := by
  refine ⟨pairedBy_onePaired (by decide) (fun _ _ _ hrow => by cases hrow),
    trustNodeConnection_of_valid (valid_pairing (by decide) 2) rfl, rfl, fun hkeeps => ?_⟩
  have hsame := hkeeps _ lowerId (trustRow (pairing lowerId 1)) upperId (trustRow (pairing upperId 2)) rfl
    rfl rfl rfl rfl
  exact keys_differ hsame

end Agent
end NetTool
