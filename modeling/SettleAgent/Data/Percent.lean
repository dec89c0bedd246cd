import Mathlib.Data.List.Basic
import SettleAgent.Data.Hex

/-!
# Percent-encoding

A byte that is not kept as it is becomes a percent sign and two upper-case
hexadecimal digits.  As long as the percent sign itself is not kept, the text
can be read back, and every byte of the encoded text is a kept byte, a percent
sign or a digit.
-/

namespace SettleAgent

/-- A text of arbitrary bytes. -/
abbrev Bytes := List UInt8

namespace Percent

/-- The percent sign. -/
def sign : UInt8 := 37

/-- The upper-case digit of a value below sixteen. -/
def digit (value : Nat) : UInt8 :=
  UInt8.ofNat (if value < 10 then 48 + value else 55 + value)

/-- The value of a hexadecimal digit of either case. -/
def valueOf (byte : UInt8) : Option Nat :=
  fromHexChar (Char.ofNat byte.toNat)

/-- A percent sign and the two digits of a byte, as `%%%02X` prints them. -/
def escape (byte : UInt8) : Bytes :=
  [sign, digit (byte.toNat / 16), digit (byte.toNat % 16)]

/-- A byte as it stands in the encoded text. -/
def encodeByte (keep : UInt8 → Bool) (byte : UInt8) : Bytes :=
  if keep byte then [byte] else escape byte

def encode (keep : UInt8 → Bool) (text : Bytes) : Bytes :=
  text.flatMap (encodeByte keep)

/-- Replace every percent sign and the two digits behind it by the byte they
stand for: `none` where digits are missing. -/
def decode : Bytes → Option Bytes
  | [] => some []
  | byte :: rest =>
      if byte = sign then
        match rest with
        | high :: low :: rest =>
            match valueOf high, valueOf low, decode rest with
            | some upper, some lower, some text =>
                some (UInt8.ofNat (upper * 16 + lower) :: text)
            | _, _, _ => none
        | _ => none
      else (decode rest).map (byte :: ·)

theorem valueOf_digit : ∀ value < 16, valueOf (digit value) = some value := by
  decide

theorem encode_cons (keep : UInt8 → Bool) (byte : UInt8) (text : Bytes) :
    encode keep (byte :: text) = encodeByte keep byte ++ encode keep text :=
  List.flatMap_cons

/-- An escape is read as the byte it stands for. -/
theorem decode_escape (byte : UInt8) (rest : Bytes) :
    decode (escape byte ++ rest) = (decode rest).map (byte :: ·) := by
  have bound : byte.toNat < 256 := byte.toNat_lt
  have upper := valueOf_digit (byte.toNat / 16) (by omega)
  have lower := valueOf_digit (byte.toNat % 16) (by omega)
  have whole : byte.toNat / 16 * 16 + byte.toNat % 16 = byte.toNat := by
    omega
  simp only [escape, List.cons_append, List.nil_append, decode, if_true]
  rw [upper, lower]
  cases decode rest with
  | none => rfl
  | some text => simp only [whole, UInt8.ofNat_toNat, Option.map_some]

theorem decode_of_ne {byte : UInt8} (plain : byte ≠ sign) (rest : Bytes) :
    decode (byte :: rest) = (decode rest).map (byte :: ·) := by
  rw [decode.eq_def]
  simp only [plain, if_false]

variable {keep : UInt8 → Bool}

/-- Each byte of the text is read back from its place. -/
theorem decode_encodeByte (escapes : keep sign = false) (byte : UInt8)
    (rest : Bytes) :
    decode (encodeByte keep byte ++ rest) = (decode rest).map (byte :: ·) := by
  unfold encodeByte
  split
  · rename_i kept
    refine decode_of_ne ?_ rest
    rintro rfl
    rw [escapes] at kept
    cases kept
  · exact decode_escape byte rest

/-- Decoding undoes encoding. -/
theorem decode_encode (escapes : keep sign = false) (text : Bytes) :
    decode (encode keep text) = some text := by
  induction text with
  | nil => rfl
  | cons byte text inductionHypothesis =>
      rw [encode_cons, decode_encodeByte escapes, inductionHypothesis]
      rfl

theorem encode_injective (escapes : keep sign = false) :
    Function.Injective (encode keep) := by
  intro left right equal
  have decoded := decode_encode escapes left
  rw [equal, decode_encode escapes] at decoded
  exact (Option.some.inj decoded).symm

/-- A byte that is neither kept nor used by escapes does not occur. -/
theorem notMem_encode {byte : UInt8} (dropped : keep byte = false)
    (unsigned : byte ≠ sign) (other : ∀ value < 16, digit value ≠ byte)
    (text : Bytes) : byte ∉ encode keep text := by
  intro member
  obtain ⟨source, _, place⟩ := List.mem_flatMap.mp member
  have bound : source.toNat < 256 := source.toNat_lt
  unfold encodeByte at place
  split at place
  · rename_i kept
    rw [List.mem_singleton.mp place, kept] at dropped
    cases dropped
  · simp only [escape, List.mem_cons, List.not_mem_nil, or_false] at place
    rcases place with same | same | same
    · exact unsigned same
    · exact other _ (by omega) same.symm
    · exact other _ (by omega) same.symm

end Percent
end SettleAgent
