import SettleAgent.Api.Handlers
import SettleAgent.Receipts.Evidence

/-!
# Signatures of submitted receipts

The endpoint for single receipts checks the submitted signature against the
submitted hash and nothing else.  A receipt that passes was issued with the
submitted contents if its hash is the chain hash of its own previous hash and
contents, which the endpoint does not check.
-/

namespace SettleAgent
namespace Receipts

open HashChain

/-- A signature verifies only for a message that the gateway has signed.
`signReceipt` signs the hash of every receipt that is appended, and nothing
else is signed. -/
def Unforged (config : Config) (receipts : List Receipt) : Prop :=
  ∀ signer, config.signer = some signer →
    ∀ message signature, signer.verify message signature = true →
      ∃ issued ∈ receipts, issued.hash = message

/-- The hash is the chain hash of the receipt's own previous hash and
contents. -/
def SelfHashed (primitives : Primitives) (receipt : Receipt) : Prop :=
  receipt.hash = chainHash primitives receipt.prevHash (contents receipt)

/-- The submitted signature does not verify for the submitted hash. -/
def Unsigned (config : Config) (receipt : Receipt) : Prop :=
  ∀ signer, config.signer = some signer →
    ∀ signature, hexDecode receipt.signature.toList = some signature →
      signer.verify receipt.hash signature = false

section

variable {primitives : Primitives}

/-- What holds of every stored receipt. -/
theorem selfHashed_of_stored {ledger : Ledger}
    (well : ledger.WellChained primitives.hashing) {receipt : Receipt}
    (stored : receipt ∈ ledger.receiptsList) :
    '\x00' ∉ receipt.prevHash.toList ∧ SelfHashed primitives receipt := by
  have chained := verifyChain_eq_neg_one_iff.mp
    (well.verifyChain receipt.orgID)
  have member : linkOf receipt ∈
      (chainOf receipt.orgID ledger.receiptsList).map linkOf := by
    apply List.mem_map_of_mem
    simp [chainOf, stored]
  obtain ⟨named, hashed⟩ := chained.mem .start member
  exact ⟨zero_notMem_of_nameable named, hashed⟩

/-- An encoding without separators makes the previous hash of a hash the only
one, whatever text is given for it. -/
theorem chainHash_inj (free : primitives.CollisionFree)
    (escaped : ∀ payload, '\x00' ∉ (primitives.marshalEntries payload).toList)
    {prevHash other : String} {payload content : Entries}
    (plain : '\x00' ∉ prevHash.toList)
    (equal : chainHash primitives prevHash payload =
      chainHash primitives other content) :
    prevHash = other ∧ payload = content := by
  have texts := free.hashed_inj equal
  have counts := congrArg (fun text => text.toList.count '\x00') texts
  simp only [String.toList_append, String.toList_singleton, List.count_append,
    List.count_eq_zero_of_not_mem plain,
    List.count_eq_zero_of_not_mem (escaped _), List.count_singleton_self]
    at counts
  have plainOther : '\x00' ∉ other.toList := by
    apply List.count_eq_zero.mp
    omega
  obtain ⟨prevs, payloads⟩ := joined_inj plain plainOther texts
  exact ⟨prevs, free.marshal payloads⟩

/-- A receipt passes only with a signature of its hash. -/
theorem verify_of_sigOK {config : Config} {receipt : Receipt}
    (accepted : (Api.sigOK config receipt).1 = true) :
    ∃ signer signature, config.signer = some signer ∧
      hexDecode receipt.signature.toList = some signature ∧
      signer.verify receipt.hash signature = true := by
  unfold Api.sigOK at accepted
  split at accepted
  · simp at accepted
  split at accepted
  · simp at accepted
  rename_i signer given
  split at accepted
  · simp at accepted
  rename_i signature decoded
  split at accepted
  · rename_i verified
    exact ⟨signer, signature, given, decoded, verified⟩
  · simp at accepted

theorem sigOK_of_accepted {config : Config} {body : Api.Decoded Receipt}
    {id hash detail : String}
    (accepted : Api.handleVerifyReceipt config body =
      return { code := 200, body := .signature id hash true detail }) :
    (Api.sigOK config body.value).1 = true := by
  unfold Api.handleVerifyReceipt at accepted
  split at accepted
  · cases accepted
  · simp only [Interaction.Prog.pure_eq, Interaction.Prog.ret.injEq,
      Api.Response.mk.injEq, Api.Payload.signature.injEq] at accepted
    exact accepted.2.2.2.1

/-- In every store, a receipt that the endpoint accepts has the contents of an
issued one, if its hash is that of its own contents or its signature fails.
What is submitted as it was issued meets this condition. -/
theorem accepted_was_issued
    (free : primitives.CollisionFree)
    (escaped : ∀ payload, '\x00' ∉ (primitives.marshalEntries payload).toList)
    (calls : List (StoreCall × Draws)) {config : Config}
    (unforged : Unforged config
      (MemoryStore.new.afterAll primitives.hashing calls).receiptsList)
    (body : Api.Decoded Receipt) :
    let issuedList :=
      (MemoryStore.new.afterAll primitives.hashing calls).receiptsList
    (SelfHashed primitives body.value ∨ Unsigned config body.value →
      ∀ id hash detail, Api.handleVerifyReceipt config body =
          (return { code := 200, body := .signature id hash true detail }) →
        ∃ issued ∈ issuedList, SameContents issued body.value) ∧
    ∀ issued ∈ issuedList, SameContents issued body.value →
      issued.prevHash = body.value.prevHash → issued.hash = body.value.hash →
        SelfHashed primitives body.value := by
  intro issuedList
  have start : MemoryStore.new.toLedger.WellChained primitives.hashing :=
    Ledger.wellChained_empty _
  have well := MemoryStore.wellChained_afterAll start calls
  constructor
  · intro held id hash detail accepted
    obtain ⟨signer, signature, given, decoded, verified⟩ :=
      verify_of_sigOK (sigOK_of_accepted accepted)
    rcases held with own | unsigned
    · obtain ⟨issued, stored, equal⟩ := unforged signer given _ _ verified
      refine ⟨issued, stored, contents_eq_iff.mp ?_⟩
      obtain ⟨plain, hashed⟩ := selfHashed_of_stored well stored
      exact (chainHash_inj free escaped plain
        (hashed.symm.trans (equal.trans own))).2
    · rw [unsigned signer given signature decoded] at verified
      cases verified
  · intro issued stored same prevHash hash
    have hashed := (selfHashed_of_stored well stored).2
    rwa [SelfHashed, prevHash, hash, contents_eq_iff.mpr same] at hashed

end

namespace Sample

theorem escaped (payload : Entries) :
    '\x00' ∉ (transparent.marshalEntries payload).toList := by
  have absent : ∀ parts, '\x00' ∉ (dotted parts).toList := by
    intro parts
    induction parts with
    | nil => simp [dotted]
    | cons part rest inductionHypothesis =>
        have digits : '\x00' ∉ (hexEncode part).toList :=
          notMem_hexEncode (by decide) part
        simp [dotted, digits, inductionHypothesis]
  exact absent _

/-- A key whose one signature is that of the first stored receipt. -/
def signer : KeyProvider where
  keyID := "key"
  sign := fun _ => [1]
  verify := fun message signature =>
    decide (message = issued.hash ∧ signature = [1])
  sealSecret := fun _ _ => none
  openSealed := fun _ => none

def config : Config where
  runtime :=
    { SettleAgent.Sample.runtime with hashing := transparent.hashing }
  signer := some signer
  jevEnabled := false
  jevLimit := none
  jevKey := "key"

theorem unforged : Unforged config store.receiptsList := by
  intro given same message signature verified
  obtain rfl : signer = given := Option.some.inj same
  simp only [signer, decide_eq_true_eq] at verified
  exact ⟨issued, List.mem_of_getElem? issued_stored, verified.1.symm⟩

/-- Whatever bears the hash and the signature of the first receipt is
accepted. -/
theorem accepts {receipt : Receipt} (sameHash : receipt.hash = issued.hash)
    (keyed : receipt.keyID = "key") (signed : receipt.signature = "01") :
    Api.handleVerifyReceipt config ⟨false, receipt⟩ =
      return { code := 200
               body := .signature receipt.id receipt.hash true
                 "valid (key key)" } := by
  have decoded : hexDecode "01".toList = some [1] := by decide
  have verified : signer.verify receipt.hash [1] = true := by
    simp [signer, sameHash]
  simp only [Api.handleVerifyReceipt, Api.sigOK, config, keyed, signed, decoded,
    verified]
  rfl

/-- The first stored receipt as the gateway hands it out. -/
def handedOut : Receipt :=
  { issued with keyID := "key", signature := "01" }

/-- The same receipt, edited to be about another tool. -/
def edited : Receipt :=
  { handedOut with tool := "github" }

end Sample

/-- An edited receipt is accepted, although none was issued for its tool. -/
theorem edited_receipt_accepted :
    Sample.transparent.CollisionFree ∧
      Unforged Sample.config Sample.store.receiptsList ∧
      Api.handleVerifyReceipt Sample.config ⟨false, Sample.edited⟩ =
        (return { code := 200
                  body := .signature "r1" Sample.edited.hash true
                    "valid (key key)" }) ∧
      ¬ ∃ issued ∈ Sample.store.receiptsList,
        SameContents issued Sample.edited := by
  refine ⟨Sample.collisionFree, Sample.unforged, Sample.accepts rfl rfl rfl, ?_⟩
  rintro ⟨issued, stored, same⟩
  have tools : ∀ receipt ∈ Sample.store.receiptsList,
      receipt.tool = "stripe" := by
    simp [Sample.receiptsList_store, Sample.issued, Sample.reissued,
      Sample.refund]
  exact absurd ((tools issued stored).symm.trans same.tool) (by decide)

/-- The receipt that was handed out is accepted, and it was issued. -/
theorem accepted_was_issued_handedOut :
    SelfHashed Sample.transparent Sample.handedOut ∧
      ∃ issued ∈ (MemoryStore.new.afterAll Sample.transparent.hashing
        Sample.calls).receiptsList,
          SameContents issued Sample.handedOut := by
  have own : SelfHashed Sample.transparent Sample.handedOut := rfl
  have accepted := Sample.accepts
    (show Sample.handedOut.hash = Sample.issued.hash from rfl) rfl rfl
  have settled := accepted_was_issued Sample.collisionFree Sample.escaped
    Sample.calls Sample.unforged ⟨false, Sample.handedOut⟩
  exact ⟨own, settled.1 (.inl own) _ _ _ accepted⟩

end Receipts
end SettleAgent
