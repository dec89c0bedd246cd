import SettleAgent.Data.Percent
import SettleAgent.Integrations.Stripe

/-!
# Form bodies

`doJSON` sends a form as the fields' names and values, percent-encoded and
joined by equals signs and ampersands.  Go strings are arbitrary bytes, and a
map is iterated in any order.  Whoever splits the body at these signs and
decodes the parts gets the fields of the form, and nothing else.
-/

namespace SettleAgent
namespace Integrations

/-! ## Encoding -/

/-- `urlEncode` on the bytes of its argument. -/
def urlEncodeBytes (text : Bytes) : Bytes :=
  Percent.encode (fun byte => unreserved byte.toNat) text

/-- The signs `&` and `=`. -/
def ampersand : UInt8 := 38
def equalsSign : UInt8 := 61

/-- A form: a map from names to values. -/
structure Form where
  entries : List (Bytes × Bytes)
  distinct : (entries.map Prod.fst).Nodup

/-- One field as it stands in the body. -/
def formPart (entry : Bytes × Bytes) : Bytes :=
  urlEncodeBytes entry.1 ++ equalsSign :: urlEncodeBytes entry.2

/-- `urlValues`, for a map whose entries come in this order. -/
def urlValues (order : List (Bytes × Bytes)) : Bytes :=
  [ampersand].intercalate (order.map formPart)

/-! ## Reading -/

/-- A part of a body, cut at its first equals sign and decoded. -/
def readPart (part : Bytes) : Option (Bytes × Bytes) :=
  match Percent.decode (part.takeWhile (· ≠ equalsSign)),
      Percent.decode ((part.dropWhile (· ≠ equalsSign)).drop 1) with
  | some name, some value => some (name, value)
  | _, _ => none

/-- A body, split at its ampersands. -/
def readForm (body : Bytes) : Option (List (Bytes × Bytes)) :=
  (body.splitOn ampersand).mapM readPart

theorem decode_urlEncodeBytes (text : Bytes) :
    Percent.decode (urlEncodeBytes text) = some text :=
  Percent.decode_encode (by decide) text

theorem equalsSign_notMem (text : Bytes) :
    equalsSign ∉ urlEncodeBytes text :=
  Percent.notMem_encode (by decide) (by decide) (by decide) text

theorem ampersand_notMem (text : Bytes) : ampersand ∉ urlEncodeBytes text :=
  Percent.notMem_encode (by decide) (by decide) (by decide) text

/-- The parts of a body hold no ampersand. -/
theorem ampersand_notMem_formPart (entry : Bytes × Bytes) :
    ampersand ∉ formPart entry := by
  simp only [formPart, List.mem_append, List.mem_cons, not_or]
  exact ⟨ampersand_notMem entry.1, by decide, ampersand_notMem entry.2⟩

/-- A part is read as the field it stands for. -/
theorem readPart_formPart (entry : Bytes × Bytes) :
    readPart (formPart entry) = some entry := by
  have before : ∀ byte ∈ urlEncodeBytes entry.1,
      decide (byte ≠ equalsSign) = true := by
    intro byte member
    rw [decide_eq_true_eq]
    rintro rfl
    exact equalsSign_notMem entry.1 member
  have name : (formPart entry).takeWhile (· ≠ equalsSign) =
      urlEncodeBytes entry.1 := by
    rw [formPart, List.takeWhile_append_of_pos before]
    simp
  have value : (formPart entry).dropWhile (· ≠ equalsSign) =
      equalsSign :: urlEncodeBytes entry.2 := by
    rw [formPart, List.dropWhile_append_of_pos before]
    simp
  simp only [readPart, name, value, List.drop_one, List.tail_cons,
    decode_urlEncodeBytes]

theorem mapM_readPart (order : List (Bytes × Bytes)) :
    (order.map formPart).mapM readPart = some order := by
  induction order with
  | nil => rfl
  | cons entry order inductionHypothesis =>
      rw [List.map_cons, List.mapM_cons, readPart_formPart,
        inductionHypothesis]
      rfl

/-- A body with fields is read as these fields. -/
theorem readForm_urlValues {order : List (Bytes × Bytes)}
    (nonempty : order ≠ []) : readForm (urlValues order) = some order := by
  have split : (urlValues order).splitOn ampersand = order.map formPart := by
    refine List.splitOn_intercalate ampersand ?_ (by simpa using nonempty)
    intro part member
    obtain ⟨entry, _, rfl⟩ := List.mem_map.mp member
    exact ampersand_notMem_formPart entry
  rw [readForm, split]
  exact mapM_readPart order

/-- The encoded text as a sequence of unreserved characters and escapes. -/
theorem urlEncodeBytes_blocks (text : Bytes) :
    ∃ blocks : List Bytes, urlEncodeBytes text = blocks.flatten ∧
      ∀ block ∈ blocks,
        (∃ byte, unreserved byte.toNat = true ∧ block = [byte]) ∨
        ∃ high < 16, ∃ low < 16,
          block = [Percent.sign, Percent.digit high, Percent.digit low] := by
  refine ⟨_, List.flatMap_def, ?_⟩
  intro block member
  obtain ⟨byte, _, rfl⟩ := List.mem_map.mp member
  have bound : byte.toNat < 256 := byte.toNat_lt
  unfold Percent.encodeByte
  split
  · rename_i kept
    exact Or.inl ⟨byte, kept, rfl⟩
  · exact Or.inr ⟨byte.toNat / 16, by omega, byte.toNat % 16, by omega, rfl⟩

/-- Whatever the order in which a form is iterated, its body is read as
exactly its entries.  Encoding is injective and undone by decoding, and what
it prints are unreserved characters and escapes. -/
theorem form_body_reads_back :
    (∀ form : Form, form.entries ≠ [] →
      ∀ order : List (Bytes × Bytes), order.Perm form.entries →
        readForm (urlValues order) = some order) ∧
    Function.Injective urlEncodeBytes ∧
    (∀ text, Percent.decode (urlEncodeBytes text) = some text) ∧
    ∀ text, ∃ blocks : List Bytes, urlEncodeBytes text = blocks.flatten ∧
      ∀ block ∈ blocks,
        (∃ byte, unreserved byte.toNat = true ∧ block = [byte]) ∨
        ∃ high < 16, ∃ low < 16,
          block = [Percent.sign, Percent.digit high, Percent.digit low] := by
  refine ⟨?_, Percent.encode_injective (by decide), decode_urlEncodeBytes,
    urlEncodeBytes_blocks⟩
  intro form nonempty order perm
  apply readForm_urlValues
  rintro rfl
  exact nonempty perm.nil_eq.symm

/-! ## Forms of texts -/

/-- The bytes of a text. -/
def bytesOf (text : String) : Bytes := text.toUTF8.toList

/-- The characters that `urlEncode` prints for a byte. -/
def printed (byte : Nat) : List Char :=
  if unreserved byte then [Char.ofNat byte]
  else ['%', hexDigit (byte / 16), hexDigit (byte % 16)]

theorem toList_urlEncode (text : String) :
    (urlEncode text).toList =
      (bytesOf text).flatMap fun byte => printed byte.toNat :=
  String.toList_ofList

/-- A character that is not printed for any byte does not occur. -/
theorem notMem_urlEncode {char : Char}
    (other : ∀ byte < 256, char ∉ printed byte) (text : String) :
    char ∉ (urlEncode text).toList := by
  rw [toList_urlEncode]
  intro member
  obtain ⟨byte, _, place⟩ := List.mem_flatMap.mp member
  exact other byte.toNat byte.toNat_lt place

/-- What is printed for a byte are the bytes of its place. -/
theorem utf8_printed (byte : UInt8) :
    (printed byte.toNat).flatMap String.utf8EncodeChar =
      Percent.encodeByte (fun byte => unreserved byte.toNat) byte := by
  have all : ∀ value < 256,
      (printed value).flatMap String.utf8EncodeChar =
        Percent.encodeByte (fun byte => unreserved byte.toNat)
          (UInt8.ofNat value) := by
    decide +kernel
  have own := all byte.toNat byte.toNat_lt
  rwa [UInt8.ofNat_toNat] at own

/-- The bytes of an encoded text are the encoded bytes of the text. -/
theorem toByteArray_urlEncode (text : String) :
    (urlEncode text).toByteArray =
      (urlEncodeBytes (bytesOf text)).toByteArray := by
  rw [urlEncode, String.toByteArray_ofList, List.utf8Encode,
    List.flatMap_assoc]
  apply congrArg List.toByteArray
  apply List.flatMap_congr
  intro byte _
  exact utf8_printed byte

/-- The fields of a request's form as bytes. -/
def fieldBytes (fields : List (String × String)) : List (Bytes × Bytes) :=
  fields.map fun field => (bytesOf field.1, bytesOf field.2)

theorem names_refundForm (charge : String) (arguments : Object) :
    ((refundForm charge arguments).map Prod.fst).Sublist
      ["charge", "amount", "reason"] := by
  unfold refundForm
  cases numArg arguments ["amount_cents"] <;>
    cases strArg arguments ["reason"] <;> simp

/-- The form of a refund request. -/
def refundFields (charge : String) (arguments : Object) : Form where
  entries := fieldBytes (refundForm charge arguments)
  distinct := by
    have names : (fieldBytes (refundForm charge arguments)).map Prod.fst =
        ((refundForm charge arguments).map Prod.fst).map bytesOf := by
      simp [fieldBytes]
    have apart : (["charge", "amount", "reason"].map bytesOf).Nodup := by
      decide +kernel
    rw [names]
    exact apart.sublist ((names_refundForm charge arguments).map bytesOf)

/-- No argument of a refund adds a field to the request or drops one. -/
theorem refund_body_reads_back (charge : String) (arguments : Object)
    {order : List (Bytes × Bytes)}
    (iterated : order.Perm (refundFields charge arguments).entries) :
    readForm (urlValues order) = some order := by
  apply readForm_urlValues
  rintro rfl
  exact absurd iterated.nil_eq (by simp [refundFields, fieldBytes, refundForm])

end Integrations
end SettleAgent
