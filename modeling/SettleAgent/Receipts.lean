import SettleAgent.Data.Cut
import SettleAgent.Data.HashChain
import SettleAgent.Data.Hex
import SettleAgent.Store.Ledger

/-!
# Receipt hashes

`Canonical` and `ChainHash` over SHA-256 and `encoding/json`, which are
parameters.  If SHA-256 has no collisions and the encoding is injective, a chain
hash binds the payload and, since hexadecimal digests contain no zero character,
the hash that it continues.
-/

namespace SettleAgent
namespace Receipts

open HashChain

/-- The map that a receipt is hashed as. -/
structure Entries where
  txn : String
  action : String
  tool : String
  argsHash : String
  resultHash : String
  decision : String
  started : Time
  completed : Time

/-- A decision is encoded as its text. -/
def entriesOf (payload : ChainPayload) : Entries where
  txn := payload.txn
  action := payload.action
  tool := payload.tool
  argsHash := payload.argsHash
  resultHash := payload.resultHash
  decision := payload.decision.text
  started := payload.started
  completed := payload.completed

/-- SHA-256 of the UTF-8 encoding of a text, and `json.Marshal` of arguments and
of hashed maps. -/
structure Primitives where
  sha256 : String → List UInt8
  marshal : Object → String
  marshalEntries : Entries → String

variable (primitives : Primitives)

def canonical (value : Object) : String :=
  hexEncode (primitives.sha256 (primitives.marshal value))

/-- The previous hash, a zero byte and the encoded payload, hashed. -/
def chainHash (prevHash : String) (payload : Entries) : String :=
  hexEncode (primitives.sha256 (prevHash ++ String.singleton '\x00' ++
    primitives.marshalEntries payload))

/-- The hash functions of the store. -/
def Primitives.hashing : Hashing where
  canonical := canonical primitives
  chainHash := fun prevHash payload =>
    chainHash primitives prevHash (entriesOf payload)

/-- SHA-256 has no collisions, and different maps have different encodings. -/
structure Primitives.CollisionFree : Prop where
  sha256 : Function.Injective primitives.sha256
  marshal : Function.Injective primitives.marshalEntries

variable {primitives}

namespace Primitives.CollisionFree

theorem hashed_inj (free : primitives.CollisionFree)
    {prevHash other : String} {payload content : Entries}
    (equal : chainHash primitives prevHash payload =
      chainHash primitives other content) :
    prevHash ++ String.singleton '\x00' ++ primitives.marshalEntries payload =
      other ++ String.singleton '\x00' ++ primitives.marshalEntries content := by
  apply free.sha256
  exact hexEncode_injective equal

/-- Over one previous hash, different payloads have different hashes. -/
theorem chainHash_injective (free : primitives.CollisionFree)
    (prevHash : String) :
    Function.Injective (chainHash primitives prevHash) := by
  intro payload content equal
  apply free.marshal
  have texts := congrArg String.toList (free.hashed_inj equal)
  simp only [String.toList_append, List.append_cancel_left_eq] at texts
  exact String.toList_inj.mp texts

end Primitives.CollisionFree

/-- The hashes that receipts name contain no separator. -/
theorem zero_notMem_of_nameable {hash : String}
    (named : Nameable (chainHash primitives) "" hash) :
    '\x00' ∉ hash.toList := by
  cases named with
  | start => simp
  | digest prev payload _ => exact notMem_hexEncode (by decide) _

/-- A chain hash binds the previous hash and the payload. -/
theorem Primitives.CollisionFree.binding (free : primitives.CollisionFree)
    (digests : ∀ text, primitives.sha256 text ≠ []) :
    Binding (chainHash primitives) "" where
  ne_start := by
    intro prevHash payload empty
    exact digests _ (hexEncode_eq_empty.mp empty)
  injective := by
    intro prevHash other payload content named named' equal
    have parts := joined_inj (zero_notMem_of_nameable named)
      (zero_notMem_of_nameable named') (free.hashed_inj equal)
    exact ⟨parts.1, free.marshal parts.2⟩

/-! ## Sample primitives

A digest and an encoding that are injective, so that the assumptions can be
met.  Texts are written out as the hexadecimal digits of their UTF-8 encoding,
instants in unary, and the parts are separated by dots. -/

namespace Sample

/-- The UTF-8 encoding of a text. -/
def utf8 (text : String) : List UInt8 :=
  text.toUTF8.data.toList

theorem utf8_injective : Function.Injective utf8 := by
  intro left right equal
  apply String.toByteArray_inj.mp
  apply ByteArray.ext
  exact Array.toList_inj.mp equal

def instant : Time → List UInt8
  | .ofNat count => 0 :: List.replicate count 0
  | .negSucc count => 1 :: List.replicate count 0

theorem instant_injective : Function.Injective instant := by
  intro left right equal
  cases left with
  | ofNat count =>
      cases right with
      | ofNat other => simpa [instant] using equal
      | negSucc other => simp [instant] at equal
  | negSucc count =>
      cases right with
      | ofNat other => simp [instant] at equal
      | negSucc other => simpa [instant] using equal

def parts (entries : Entries) : List (List UInt8) :=
  [utf8 entries.txn, utf8 entries.action, utf8 entries.tool,
    utf8 entries.argsHash, utf8 entries.resultHash, utf8 entries.decision,
    instant entries.started, instant entries.completed]

theorem parts_injective : Function.Injective parts := by
  rintro ⟨⟩ ⟨⟩ equal
  simp only [parts, List.cons.injEq, utf8_injective.eq_iff,
    instant_injective.eq_iff, and_true] at equal
  simp only [equal]

/-- Every part in hexadecimal digits, followed by a dot. -/
def dotted : List (List UInt8) → String
  | [] => ""
  | part :: rest => hexEncode part ++ String.singleton '.' ++ dotted rest

theorem dot_notMem_hexEncode (bytes : List UInt8) :
    '.' ∉ (hexEncode bytes).toList := by
  apply notMem_hexEncode
  decide

theorem dotted_injective : Function.Injective dotted := by
  intro left right equal
  induction left generalizing right with
  | nil =>
      cases right with
      | nil => rfl
      | cons part rest =>
          have texts := congrArg String.toList equal
          simp [dotted] at texts
  | cons part rest inductionHypothesis =>
      cases right with
      | nil =>
          have texts := congrArg String.toList equal
          simp [dotted] at texts
      | cons other others =>
          have split := joined_inj (dot_notMem_hexEncode part)
            (dot_notMem_hexEncode other) equal
          rw [hexEncode_injective split.1, inductionHypothesis split.2]

def transparent : Primitives where
  sha256 := fun text => 1 :: utf8 text
  marshal := fun _ => ""
  marshalEntries := fun entries => dotted (parts entries)

theorem collisionFree : transparent.CollisionFree where
  sha256 := by
    intro left right equal
    exact utf8_injective (List.cons.inj equal).2
  marshal := by
    intro left right equal
    exact parts_injective (dotted_injective equal)

end Sample
end Receipts
end SettleAgent
