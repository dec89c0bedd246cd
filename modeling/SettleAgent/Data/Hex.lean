import Mathlib.Data.List.Basic

/-!
# Hexadecimal text

Encoding of bytes as pairs of lower-case hexadecimal digits, and the decoder,
which takes digits of either case.
-/

namespace SettleAgent

/-- The lower-case digit of a value below sixteen. -/
def hexChar (value : Nat) : Char :=
  "0123456789abcdef".toList.getD value '0'

/-- The value of a hexadecimal digit. -/
def fromHexChar (char : Char) : Option Nat :=
  if '0' ≤ char ∧ char ≤ '9' then some (char.toNat - 48)
  else if 'a' ≤ char ∧ char ≤ 'f' then some (char.toNat - 87)
  else if 'A' ≤ char ∧ char ≤ 'F' then some (char.toNat - 55)
  else none

/-- `hex.EncodeToString`. -/
def hexEncode (bytes : List UInt8) : String :=
  String.ofList (bytes.flatMap fun byte =>
    [hexChar (byte.toNat / 16), hexChar (byte.toNat % 16)])

/-- `hex.DecodeString` on the characters of its argument: `none` for an odd
number of digits or a character that is no digit. -/
def hexDecode : List Char → Option (List UInt8)
  | [] => some []
  | [_] => none
  | high :: low :: rest =>
      match fromHexChar high, fromHexChar low, hexDecode rest with
      | some upper, some lower, some bytes =>
          some (UInt8.ofNat (upper * 16 + lower) :: bytes)
      | _, _, _ => none

theorem fromHexChar_hexChar :
    ∀ value < 16, fromHexChar (hexChar value) = some value := by
  decide

/-- The digits of a byte. -/
theorem toList_hexEncode_cons (byte : UInt8) (bytes : List UInt8) :
    (hexEncode (byte :: bytes)).toList =
      hexChar (byte.toNat / 16) :: hexChar (byte.toNat % 16) ::
        (hexEncode bytes).toList := by
  simp [hexEncode]

/-- Decoding undoes encoding. -/
theorem hexDecode_hexEncode (bytes : List UInt8) :
    hexDecode (hexEncode bytes).toList = some bytes := by
  induction bytes with
  | nil => rfl
  | cons byte bytes inductionHypothesis =>
      have bound : byte.toNat < 256 := byte.toNat_lt
      have upper := fromHexChar_hexChar (byte.toNat / 16) (by omega)
      have lower := fromHexChar_hexChar (byte.toNat % 16) (by omega)
      have whole : byte.toNat / 16 * 16 + byte.toNat % 16 = byte.toNat := by
        omega
      rw [toList_hexEncode_cons, hexDecode, upper, lower, inductionHypothesis]
      simp only [whole, UInt8.ofNat_toNat]

theorem hexEncode_injective : Function.Injective hexEncode := by
  intro left right equal
  have decoded := hexDecode_hexEncode left
  rw [equal, hexDecode_hexEncode] at decoded
  exact (Option.some.inj decoded).symm

/-- Only digits occur in hexadecimal text. -/
theorem notMem_hexEncode {char : Char}
    (other : ∀ value < 16, hexChar value ≠ char) (bytes : List UInt8) :
    char ∉ (hexEncode bytes).toList := by
  induction bytes with
  | nil => simp [hexEncode]
  | cons byte bytes inductionHypothesis =>
      have bound : byte.toNat < 256 := byte.toNat_lt
      have upper := other (byte.toNat / 16) (by omega)
      have lower := other (byte.toNat % 16) (by omega)
      rw [toList_hexEncode_cons]
      simp only [List.mem_cons, not_or]
      exact ⟨upper.symm, lower.symm, inductionHypothesis⟩

theorem hexEncode_eq_empty {bytes : List UInt8} :
    hexEncode bytes = "" ↔ bytes = [] := by
  constructor
  · intro empty
    apply hexEncode_injective
    rw [empty]
    rfl
  · rintro rfl
    rfl

end SettleAgent
