import Mathlib.Data.String.Basic
import Mathlib.Algebra.Order.Ring.Int
/-!
# Text — the pieces of Rust's standard library the modelled code reads text and integers with

`str::trim` strips Unicode `White_Space`; `{:02x}` prints a byte as two lower-case hexadecimal digits; `checked_add` on
`u64` is `None` from 2⁶⁴ on, and the saturating operations stop at 2⁶⁴ − 1.
-/
namespace NetTool

open List

/-- `char::is_whitespace`: the Unicode property `White_Space`. -/
def isWhitespace (c : Char) : Bool :=
  let n := c.toNat
  (9 ≤ n && n ≤ 13) || n == 0x20 || n == 0x85 || n == 0xA0 || n == 0x1680 || (0x2000 ≤ n && n ≤ 0x200A) ||
    n == 0x2028 || n == 0x2029 || n == 0x202F || n == 0x205F || n == 0x3000

def trimIsEmpty (s : String) : Bool := s.toList.all isWhitespace

/-- `char::is_control`: the general category `Cc`. -/
def isControl (c : Char) : Bool := c.toNat ≤ 0x1F || (0x7F ≤ c.toNat && c.toNat ≤ 0x9F)

def isAsciiHexdigit (c : Char) : Bool :=
  ('0' ≤ c && c ≤ '9') || ('a' ≤ c && c ≤ 'f') || ('A' ≤ c && c ≤ 'F')

def hexValue (c : Char) : Nat :=
  if c ≤ '9' then c.toNat - 48 else if c ≤ 'F' then c.toNat - 55 else c.toNat - 87

/-- `from_str_radix(_, 16)` of hexadecimal digits. -/
def fromHex (digits : List Char) : Nat := digits.foldl (fun n c => 16 * n + hexValue c) 0

/-- `dddd:bb:dd.f` in hexadecimal digits.  The source reads bytes; a text with a character above ASCII has a byte that
is refused. -/
def isPciBdf (value : String) : Bool :=
  let chars := value.toList
  chars.length == 12 && chars[4]? == some ':' && chars[7]? == some ':' && chars[10]? == some '.' &&
    chars.zipIdx.all (fun p => p.2 == 4 || p.2 == 7 || p.2 == 10 || isAsciiHexdigit p.1)

/-- Six octets of two digits; the first is neither zero nor odd. -/
def isUnicastMac (value : String) : Bool :=
  let parts := value.toList.splitOn ':'
  let first := fromHex (parts.headD [])
  parts.length == 6 && parts.all (fun part => part.length == 2 && part.all isAsciiHexdigit) &&
    first != 0 && first % 2 == 0

/-- `u64::checked_add`. -/
def checkedAdd (a b : Nat) : Option Nat := if a + b < 2 ^ 64 then some (a + b) else none

/-- `u64::saturating_add`. -/
def saturatingAdd (a b : Nat) : Nat := min (a + b) (2 ^ 64 - 1)

/-- `u64::saturating_mul`. -/
def saturatingMul (a b : Nat) : Nat := min (a * b) (2 ^ 64 - 1)

/-- `[u8; n]`. -/
def Bytes (n : Nat) : Type := { bytes : List UInt8 // bytes.length = n }
  deriving DecidableEq

def Bytes.replicate (n : Nat) (byte : UInt8) : Bytes n := ⟨List.replicate n byte, by simp⟩

/-! ## Bytes of a text -/

def asBytes (s : String) : List UInt8 := s.toUTF8.data.toList

/-- `str::from_utf8`. -/
def fromUtf8 (bytes : List UInt8) : Option String := String.fromUTF8? ⟨⟨bytes⟩⟩

theorem fromUtf8_asBytes (s : String) : fromUtf8 (asBytes s) = some s := by
  exact dif_pos s.isValidUTF8

theorem length_asBytes (s : String) : (asBytes s).length = s.utf8ByteSize := rfl

theorem asBytes_ofList (l : List Char) : asBytes (String.ofList l) = l.flatMap String.utf8EncodeChar := by
  show (String.ofList l).toByteArray.data.toList = _
  rw [String.toByteArray_ofList, List.utf8Encode]
  simp

def toAsciiLowercase (c : Char) : Char := if 'A' ≤ c && c ≤ 'Z' then Char.ofNat (c.toNat + 32) else c

def eqIgnoreAsciiCase (a b : String) : Bool := a.toList.map toAsciiLowercase = b.toList.map toAsciiLowercase

@[simp] theorem eqIgnoreAsciiCase_iff {a b : String} :
    eqIgnoreAsciiCase a b = true ↔ a.toList.map toAsciiLowercase = b.toList.map toAsciiLowercase := decide_eq_true_iff

/-! ## Hexadecimal -/

def hexDigit (n : Nat) : Char := Char.ofNat (if n < 10 then 48 + n else 87 + n)

/-- `{byte:02x}`. -/
def hexByte (b : UInt8) : List Char := [hexDigit (b.toNat / 16), hexDigit (b.toNat % 16)]

def hexString (bytes : List UInt8) : String := String.ofList (bytes.flatMap hexByte)

theorem hexDigit_injective {a b : Nat} (ha : a < 16) (hb : b < 16) (h : hexDigit a = hexDigit b) : a = b := by
  have hall : ∀ a < 16, ∀ b < 16, hexDigit a = hexDigit b → a = b := by decide
  exact hall a ha b hb h

theorem hexByte_injective {a b : UInt8} (h : hexByte a = hexByte b) : a = b := by
  simp only [hexByte, List.cons.injEq, and_true] at h
  have ha := a.toNat_lt
  have hb := b.toNat_lt
  have h1 := hexDigit_injective (by omega) (by omega) h.1
  have h2 := hexDigit_injective (by omega) (by omega) h.2
  exact UInt8.toNat_inj.1 (by omega)

theorem flatMap_hexByte_injective : ∀ {xs ys : List UInt8}, xs.flatMap hexByte = ys.flatMap hexByte → xs = ys
  | [], [], _ => rfl
  | [], _ :: _, h => by simp [hexByte] at h
  | _ :: _, [], h => by simp [hexByte] at h
  | x :: xs, y :: ys, h => by
    obtain ⟨h1, h2⟩ := append_inj h (by simp [hexByte])
    rw [hexByte_injective h1, flatMap_hexByte_injective h2]

theorem length_flatMap_hexByte : ∀ (xs : List UInt8), (xs.flatMap hexByte).length = 2 * xs.length
  | [] => rfl
  | x :: xs => by
    rw [flatMap_cons, length_append, length_flatMap_hexByte xs]
    simp only [hexByte, length_cons, length_nil]
    omega

/-- **Of two texts that end in the hexadecimal text of equally long byte strings, the byte strings are equal if the
texts are.** -/
theorem append_hexString_injective {a b : String} {xs ys : List UInt8} (hlen : xs.length = ys.length)
    (h : a ++ hexString xs = b ++ hexString ys) : xs = ys := by
  have hl := congrArg String.toList h
  simp only [hexString, String.toList_append, String.toList_ofList] at hl
  have htails := (append_inj' hl (by rw [length_flatMap_hexByte, length_flatMap_hexByte, hlen])).2
  exact flatMap_hexByte_injective htails

/-- The digits are ASCII, so a digit is a byte, and none is white space or a control character. -/
theorem hexDigit_plain {n : Nat} (h : n < 16) :
    (hexDigit n).utf8Size = 1 ∧ isWhitespace (hexDigit n) = false ∧ isControl (hexDigit n) = false := by
  have hall : ∀ n < 16, (hexDigit n).utf8Size = 1 ∧ isWhitespace (hexDigit n) = false ∧
    isControl (hexDigit n) = false := by
    decide
  exact hall n h

theorem utf8ByteSize_hexString (bytes : List UInt8) : (hexString bytes).utf8ByteSize = 2 * bytes.length := by
  unfold hexString
  rw [String.utf8ByteSize_ofList]
  induction bytes with
  | nil => rfl
  | cons b rest ih =>
    have hb := b.toNat_lt
    have hhigh := (hexDigit_plain (n := b.toNat / 16) (by omega)).1
    have hlow := (hexDigit_plain (n := b.toNat % 16) (by omega)).1
    rw [flatMap_cons, String.utf8Len_append, length_cons]
    simp only [hexByte, String.utf8Len_cons, String.utf8Len_nil, hhigh, hlow]
    omega

theorem exists_hexDigit {bytes : List UInt8} {c : Char} (h : c ∈ (hexString bytes).toList) :
    ∃ n < 16, c = hexDigit n := by
  unfold hexString at h
  rw [String.toList_ofList, mem_flatMap] at h
  obtain ⟨b, -, hc⟩ := h
  have hb := b.toNat_lt
  simp only [hexByte, mem_cons, not_mem_nil, or_false] at hc
  rcases hc with rfl | rfl
  · exact ⟨_, by omega, rfl⟩
  · exact ⟨_, by omega, rfl⟩

end NetTool
