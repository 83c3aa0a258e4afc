import NetTool.Error
import NetTool.Lib.Bytes
import NetTool.Text
/-!
# Benchmark.Environment — the platform a certification is bound to (`crates/benchmark`)

The certification key of a platform is the SHA-256 digest of what its snapshot says, one field after another, each
behind its length.  A complete snapshot can be read back from what is hashed (`readTexts`, `readNumbers`), so that
without a collision two platforms share a key only if their snapshots agree in every field.  SHA-256 is a parameter.
-/
namespace NetTool
namespace Benchmark

open List

def invalid (message : String) : NetToolError := .new .invalidArgument message false

/-- `String`: an allocation has at most `isize::MAX` bytes. -/
abbrev Text : Type := { s : String // s.utf8ByteSize < 2 ^ 63 }

structure BenchmarkEnvironmentSnapshot where
  os : Option Text
  kernel : Option Text
  cpu : Option Text
  cpuFrequency : Option Text
  numa : Option Text
  memory : Option Text
  hugePages : Option Text
  nic : Option Text
  pcie : Option Text
  firmware : Option Text
  driver : Option Text
  dpdkVersion : Option Text
  backend : Option Text
  mtu : Option UInt32
  rxQueues : Option UInt32
  txQueues : Option UInt32
  rss : Option Text
  offloads : Option Text

/-- `hash_field`: a length of eight bytes, then the bytes. -/
def hashField (value : List UInt8) : List UInt8 := Bytes.toBe 8 (min value.length (2 ^ 64 - 1)) ++ value

theorem hashField_of_lt {value : List UInt8} (h : value.length < 2 ^ 64) :
    hashField value = Bytes.toBe 8 value.length ++ value := by
  rw [hashField, Nat.min_eq_left (by omega)]

/-- **As many fields that are hashed to the same bytes are the same fields**: nothing moves over to a neighbour. -/
theorem hashFields_inj : ∀ {xs ys : List (List UInt8)}, xs.length = ys.length → (∀ x ∈ xs, x.length < 2 ^ 64) →
    (∀ y ∈ ys, y.length < 2 ^ 64) → xs.flatMap hashField = ys.flatMap hashField → xs = ys
  | [], [], _, _, _, _ => rfl
  | x :: xs, y :: ys, hlen, hxs, hys, h => by
    have hx := hxs x mem_cons_self
    have hy := hys y mem_cons_self
    rw [flatMap_cons, flatMap_cons, hashField_of_lt hx, hashField_of_lt hy, append_assoc, append_assoc] at h
    -- the lengths have the same width, and then the fields do
    obtain ⟨hlength, h⟩ := append_inj h (by rw [Bytes.length_toBe, Bytes.length_toBe])
    have hread := congrArg Bytes.ofBe hlength
    rw [Bytes.ofBe_toBe (by omega), Bytes.ofBe_toBe (by omega)] at hread
    obtain ⟨hfirst, h⟩ := append_inj h hread
    rw [hfirst, hashFields_inj (Nat.succ.inj hlen) (fun z hz => hxs z (.tail x hz)) (fun z hz => hys z (.tail y hz)) h]

namespace BenchmarkEnvironmentSnapshot

variable (environment : BenchmarkEnvironmentSnapshot)

/-- The texts of a snapshot under the names of their fields, in the order they are checked and hashed. -/
def texts : List (String × Option Text) :=
  [("os", environment.os), ("kernel", environment.kernel), ("cpu", environment.cpu),
    ("cpu_frequency", environment.cpuFrequency), ("numa", environment.numa), ("memory", environment.memory),
    ("huge_pages", environment.hugePages), ("nic", environment.nic), ("pcie", environment.pcie),
    ("firmware", environment.firmware), ("driver", environment.driver), ("dpdk_version", environment.dpdkVersion),
    ("backend", environment.backend), ("rss", environment.rss), ("offloads", environment.offloads)]

def numbers : List (String × Option UInt32) :=
  [("mtu", environment.mtu), ("rx_queues", environment.rxQueues), ("tx_queues", environment.txQueues)]

def missingFields : List String :=
  (environment.texts.filter (fun field => field.2.all (trimIsEmpty ·.1))).map (·.1) ++
    (environment.numbers.filter (fun field => field.2.isNone)).map (·.1)

/-- `value.unwrap_or_default().as_bytes()`. -/
def textBytes (value : Option Text) : List UInt8 := asBytes ((value.map Subtype.val).getD "")

/-- `value.unwrap_or_default().to_be_bytes()`. -/
def numberBytes (value : Option UInt32) : List UInt8 := Bytes.toBe 4 (value.getD 0).toNat

def hashed : List UInt8 :=
  (environment.texts.map (textBytes ·.2) ++ environment.numbers.map (numberBytes ·.2)).flatMap hashField

def Counted : Prop := ¬ (environment.mtu = some 0 ∨ environment.rxQueues = some 0 ∨ environment.txQueues = some 0)

instance : Decidable environment.Counted := inferInstanceAs (Decidable (¬ _))

def certificationKey (sha256 : List UInt8 → Bytes 32) : Result String :=
  if environment.missingFields ≠ [] then
    .error (invalid ("benchmark environment is incomplete: " ++ ",".intercalate environment.missingFields))
  else if ¬ environment.Counted then .error (invalid "MTU and queue counts must be non-zero")
  else .ok (hexString (sha256 environment.hashed).1)

variable {environment} {a b : BenchmarkEnvironmentSnapshot} {sha256 : List UInt8 → Bytes 32}

theorem certificationKey_ok_iff {key : String} :
    environment.certificationKey sha256 = .ok key ↔
      environment.missingFields = [] ∧ environment.Counted ∧ key = hexString (sha256 environment.hashed).1 := by
  unfold certificationKey
  by_cases hmissing : environment.missingFields = []
  · by_cases hcounted : environment.Counted
    · simp [hmissing, hcounted, eq_comm]
    · simp [hmissing, hcounted]
  · simp [hmissing]

/-! ## Reading a snapshot back -/

section
variable (h : environment.missingFields = [])
include h

theorem complete_texts : ∀ field ∈ environment.texts, field.2.isSome := by
  intro field hfield
  have hnone := map_eq_nil_iff.1 (append_eq_nil_iff.1 h).1
  have hsolid := filter_eq_nil_iff.1 hnone field hfield
  cases hvalue : field.2 with
  | none => simp [hvalue] at hsolid
  | some value => rfl

theorem complete_numbers : ∀ field ∈ environment.numbers, field.2.isSome := by
  intro field hfield
  have hnone := map_eq_nil_iff.1 (append_eq_nil_iff.1 h).2
  simpa [Option.isSome_iff_ne_none] using filter_eq_nil_iff.1 hnone field hfield

theorem readTexts :
    (environment.texts.map (textBytes ·.2)).map fromUtf8 = environment.texts.map (·.2.map Subtype.val) := by
  rw [map_map]
  refine map_congr_left fun field hfield => ?_
  obtain ⟨value, hvalue⟩ := Option.isSome_iff_exists.1 (complete_texts h field hfield)
  rw [Function.comp_apply, hvalue]
  exact fromUtf8_asBytes value.1

theorem readNumbers :
    (environment.numbers.map (numberBytes ·.2)).map (fun bytes => some (UInt32.ofNat (Bytes.ofBe bytes)))
      = environment.numbers.map (·.2) := by
  rw [map_map]
  refine map_congr_left fun field hfield => ?_
  obtain ⟨value, hvalue⟩ := Option.isSome_iff_exists.1 (complete_numbers h field hfield)
  rw [Function.comp_apply, hvalue]
  show some (UInt32.ofNat (Bytes.ofBe (Bytes.toBe 4 value.toNat))) = some value
  rw [Bytes.ofBe_toBe value.toNat_lt, UInt32.ofNat_toNat]

end

theorem length_textBytes (value : Option Text) : (textBytes value).length < 2 ^ 64 := by
  cases value with
  | none => decide
  | some value => exact Nat.lt_trans value.2 (by decide)

theorem hashed_injective (ha : a.missingFields = []) (hb : b.missingFields = []) (h : a.hashed = b.hashed) : a = b := by
  have hshort (c : BenchmarkEnvironmentSnapshot) :
      ∀ x ∈ c.texts.map (textBytes ·.2) ++ c.numbers.map (numberBytes ·.2), x.length < 2 ^ 64 := by
    simp only [mem_append, mem_map]
    rintro x (⟨field, -, rfl⟩ | ⟨field, -, rfl⟩)
    · exact length_textBytes field.2
    · rw [numberBytes, Bytes.length_toBe]
      decide
  have hfields := hashFields_inj (by rfl) (hshort a) (hshort b) h
  obtain ⟨htexts, hnumbers⟩ := append_inj hfields (by rfl)
  have htexts := (readTexts ha).symm.trans ((congrArg (List.map fromUtf8) htexts).trans (readTexts hb))
  have hnumbers := (readNumbers ha).symm.trans ((congrArg (List.map _) hnumbers).trans (readNumbers hb))
  cases a
  simp only [texts, numbers, map_cons, map_nil, List.cons.injEq,
    (Option.map_injective Subtype.val_injective).eq_iff] at htexts hnumbers
  simp only [htexts, hnumbers]

/-- **Of two complete snapshots that SHA-256 tells apart if it is given different bytes for them, the certification keys
are equal exactly when all eighteen fields are**; a complete snapshot has a key unless its MTU or a queue count is zero.
-/
theorem certification_key_exact (hfree : Set.InjOn sha256 {a.hashed, b.hashed}) (ha : a.missingFields = [])
    (hb : b.missingFields = []) :
    ((∃ key, a.certificationKey sha256 = .ok key) ↔ a.Counted) ∧
      ∀ keyA keyB, a.certificationKey sha256 = .ok keyA → b.certificationKey sha256 = .ok keyB →
        (keyA = keyB ↔ a = b) := by
  constructor
  · simp only [certificationKey_ok_iff, ha, true_and, exists_and_left, exists_eq, and_true]
  · intro keyA keyB hkeyA hkeyB
    rw [(certificationKey_ok_iff.1 hkeyA).2.2, (certificationKey_ok_iff.1 hkeyB).2.2]
    constructor
    · intro hkeys
      have hdigest := flatMap_hexByte_injective (String.ofList_injective hkeys)
      exact hashed_injective ha hb (hfree (.inl rfl) (.inr rfl) (Subtype.ext hdigest))
    · rintro rfl
      rfl

def sampleSnapshot (os kernel : Text) : BenchmarkEnvironmentSnapshot where
  os := some os
  kernel := some kernel
  cpu := some os
  cpuFrequency := some os
  numa := some os
  memory := some os
  hugePages := some os
  nic := some os
  pcie := some os
  firmware := some os
  driver := some os
  dpdkVersion := some os
  backend := some os
  mtu := some 1500
  rxQueues := some 4
  txQueues := some 4
  rss := some os
  offloads := some os

def sampleDigest (bytes : List UInt8) : Bytes 32 := ⟨(bytes ++ List.replicate 32 0).take 32, by simp⟩

/-- A letter that moves from one field to the next makes another key. -/
theorem certification_key_exact_sample :
    (sampleSnapshot ⟨"ab", by decide⟩ ⟨"c", by decide⟩).certificationKey sampleDigest ≠
      (sampleSnapshot ⟨"a", by decide⟩ ⟨"bc", by decide⟩).certificationKey sampleDigest := by
  have hfree : Set.InjOn sampleDigest {(sampleSnapshot ⟨"ab", by decide⟩ ⟨"c", by decide⟩).hashed,
      (sampleSnapshot ⟨"a", by decide⟩ ⟨"bc", by decide⟩).hashed} := by
    rintro x (rfl | rfl) y (rfl | rfl) h
    · rfl
    · exact absurd h (by decide)
    · exact absurd h (by decide)
    · rfl
  intro hkeys
  obtain ⟨key, hkey⟩ := (certification_key_exact hfree (by decide) (by decide)).1.2 (by decide)
  have heq := ((certification_key_exact hfree (by decide) (by decide)).2 key key hkey (hkeys ▸ hkey)).1 rfl
  exact absurd (congrArg os heq) (by decide)

end BenchmarkEnvironmentSnapshot
end Benchmark
end NetTool
