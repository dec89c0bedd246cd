import SettleAgent.Receipts
import SettleAgent.Store.Chain

/-!
# Receipts as evidence

What `VerifyChain` says about a list of receipts.  The last hash commits to the
hashed fields of the whole list.  An altered receipt is found out unless the
alteration spares all hashed fields, or unless it rewrites the newest receipt
of the organization and gives it the hash of its new contents.
-/

namespace SettleAgent
namespace Receipts

open HashChain

/-- Two receipts have the same hashed contents. -/
structure SameContents (first second : Receipt) : Prop where
  transactionID : first.transactionID = second.transactionID
  actionID : first.actionID = second.actionID
  tool : first.tool = second.tool
  argumentsHash : first.argumentsHash = second.argumentsHash
  resultHash : first.resultHash = second.resultHash
  decision : first.decision.text = second.decision.text
  startedAt : first.startedAt = second.startedAt
  completedAt : first.completedAt = second.completedAt

/-- Two receipts agree in the fields that `VerifyChain` looks at. -/
structure Agrees (first second : Receipt) : Prop
    extends SameContents first second where
  prevHash : first.prevHash = second.prevHash
  hash : first.hash = second.hash

/-- The hashed map of a receipt. -/
def contents (receipt : Receipt) : Entries :=
  entriesOf (Ledger.payload receipt)

theorem contents_eq_iff {first second : Receipt} :
    contents first = contents second ↔ SameContents first second := by
  constructor
  · intro equal
    simp only [contents, entriesOf, Ledger.payload, Entries.mk.injEq] at equal
    obtain ⟨txn, action, tool, args, result, decision, started, completed⟩ :=
      equal
    exact ⟨txn, action, tool, args, result, decision, started, completed⟩
  · intro same
    simp only [contents, entriesOf, Ledger.payload, Entries.mk.injEq]
    exact ⟨same.transactionID, same.actionID, same.tool, same.argumentsHash,
      same.resultHash, same.decision, same.startedAt, same.completedAt⟩

/-- A receipt as a link whose payload is the hashed map. -/
def linkOf (receipt : Receipt) : Link String Entries where
  prev := receipt.prevHash
  hash := receipt.hash
  payload := contents receipt

theorem linkOf_eq_iff {first second : Receipt} :
    linkOf first = linkOf second ↔ Agrees first second := by
  rw [linkOf, linkOf, Link.mk.injEq, contents_eq_iff]
  exact ⟨fun ⟨prevHash, hash, same⟩ => ⟨same, prevHash, hash⟩,
    fun agrees => ⟨agrees.prevHash, agrees.hash, agrees.toSameContents⟩⟩

/-- The receipts of an organization, in the order of the list. -/
def chainOf (orgID : String) (receipts : List Receipt) : List Receipt :=
  receipts.filter fun receipt => receipt.orgID = orgID

theorem map_linkOf_chainOf (orgID : String) (receipts : List Receipt) :
    (chainOf orgID receipts).map linkOf =
      (Ledger.linksOf orgID receipts).map (Link.map entriesOf) := by
  rw [Ledger.linksOf, List.map_map]
  rfl

/-! ## Sample receipts -/

namespace Sample

/-- A refund of five dollars that somebody had to approve. -/
def refund : Receipt where
  orgID := "acme"
  transactionID := "txn"
  actionID := "action"
  tool := "stripe"
  action := "refund"
  argumentsHash := "arguments"
  decision := .requireApproval
  resultHash := "result"
  financialCents := some 500
  compensation := .none
  policyVersion := 1
  startedAt := 0
  completedAt := 1

/-- The refund, twice. -/
def calls : List (StoreCall × Draws) :=
  [(.appendReceipt refund, ⟨"r1", "", 0, 0, ""⟩),
    (.appendReceipt refund, ⟨"r2", "", 0, 0, ""⟩)]

def store : MemoryStore :=
  MemoryStore.new.afterAll transparent.hashing calls

/-- The first of the stored receipts. -/
def issued : Receipt :=
  { refund with
    id := "r1"
    hash := chainHash transparent "" (contents refund) }

/-- The second one. -/
def reissued : Receipt :=
  { refund with
    id := "r2"
    prevHash := issued.hash
    hash := chainHash transparent issued.hash (contents refund) }

theorem receiptsList_store : store.receiptsList = [issued, reissued] := rfl

theorem issued_stored : store.receiptsList[0]? = some issued := rfl

theorem chained : store.toLedger.WellChained transparent.hashing := by
  have start : MemoryStore.new.toLedger.WellChained transparent.hashing :=
    Ledger.wellChained_empty _
  exact MemoryStore.wellChained_afterAll start calls

/-- The store after the first receipt was signed. -/
def signed : Ledger :=
  store.toLedger.updateReceipt "acme" "r1" "key" "signature"

end Sample

section

variable {primitives : Primitives}

/-- `VerifyChain` finds nothing exactly if the receipts are chained. -/
theorem verifyChain_eq_neg_one_iff {ledger : Ledger} {orgID : String} :
    ledger.verifyChain primitives.hashing orgID = -1 ↔
      Chained (chainHash primitives) ""
        ((chainOf orgID ledger.receiptsList).map linkOf) := by
  rw [map_linkOf_chainOf, chained_map]
  exact Ledger.verifyFrom_eq_neg_one_iff _ _ _ "" le_rfl

/-- The hash that a verified chain ends in. -/
theorem head_map_linkOf (receipts : List Receipt) :
    head "" (receipts.map linkOf) =
      (receipts.getLast?.map Receipt.hash).getD "" := by
  rw [head_eq_getLast?, List.getLast?_map, Option.map_map]
  rfl

/-! ## What the last hash commits to -/

/-- Two chains of an organization that verify and end in the same hash have the
same length and agree at every position. -/
theorem last_hash_commits_to_history
    (free : primitives.CollisionFree)
    (digests : ∀ text, primitives.sha256 text ≠ [])
    {first second : Ledger} {orgID : String}
    (verifiesFirst : first.verifyChain primitives.hashing orgID = -1)
    (verifiesSecond : second.verifyChain primitives.hashing orgID = -1)
    (ends : (chainOf orgID first.receiptsList).getLast?.map Receipt.hash =
      (chainOf orgID second.receiptsList).getLast?.map Receipt.hash) :
    List.Forall₂ Agrees (chainOf orgID first.receiptsList)
      (chainOf orgID second.receiptsList) := by
  have heads : head "" ((chainOf orgID first.receiptsList).map linkOf) =
      head "" ((chainOf orgID second.receiptsList).map linkOf) := by
    rw [head_map_linkOf, head_map_linkOf, ends]
  have links := (free.binding digests).eq_of_head_eq
    (verifyChain_eq_neg_one_iff.mp verifiesFirst)
    (verifyChain_eq_neg_one_iff.mp verifiesSecond) heads
  rw [← List.forall₂_eq_eq_eq, List.forall₂_map_left_iff,
    List.forall₂_map_right_iff] at links
  exact links.imp fun _ _ => linkOf_eq_iff.mp

end

/-- Signing a receipt keeps the last hash, and with it all hashed fields. -/
theorem last_hash_commits_to_history_signed :
    List.Forall₂ Agrees (chainOf "acme" Sample.store.receiptsList)
      (chainOf "acme" Sample.signed.receiptsList) := by
  have digests : ∀ text, Sample.transparent.sha256 text ≠ [] := by
    intro text
    exact List.cons_ne_nil _ _
  exact last_hash_commits_to_history Sample.collisionFree digests
    (Sample.chained.verifyChain "acme")
    ((Sample.chained.updateReceipt "acme" "r1" "key" "signature").verifyChain
      "acme") rfl

/-! ## Alterations -/

/-- The ledger with one of its receipts replaced. -/
def alter (ledger : Ledger) (position : Nat) (altered : Receipt) : Ledger :=
  { ledger with receiptsList := ledger.receiptsList.set position altered }

/-- The newest receipt of its organization is rewritten and given the hash of
its new contents. -/
structure Resealed (primitives : Primitives) (ledger : Ledger)
    (position : Nat) (original altered : Receipt) : Prop where
  newest :
    chainOf original.orgID (ledger.receiptsList.drop (position + 1)) = []
  prevHash : altered.prevHash = original.prevHash
  hash : altered.hash =
    chainHash primitives altered.prevHash (contents altered)
  rehashed : altered.hash ≠ original.hash

section

variable {primitives : Primitives} {ledger : Ledger} {position : Nat}
  {original altered : Receipt}

/-- The chain around one of its receipts. -/
theorem chainOf_set (stored : ledger.receiptsList[position]? = some original)
    {receipt : Receipt} (sameOrg : receipt.orgID = original.orgID) :
    chainOf original.orgID (ledger.receiptsList.set position receipt) =
      chainOf original.orgID (ledger.receiptsList.take position) ++
        receipt ::
          chainOf original.orgID (ledger.receiptsList.drop (position + 1)) := by
  obtain ⟨bound, _⟩ := List.getElem?_eq_some_iff.mp stored
  rw [List.set_eq_take_append_cons_drop, if_pos bound]
  simp [chainOf, sameOrg]

/-- What `VerifyChain` does not notice. -/
theorem alteration_unnoticed_iff (free : primitives.CollisionFree)
    (well : ledger.WellChained primitives.hashing)
    (stored : ledger.receiptsList[position]? = some original)
    (sameOrg : altered.orgID = original.orgID) :
    (alter ledger position altered).verifyChain primitives.hashing
        original.orgID = -1 ↔
      Agrees altered original ∨
        Resealed primitives ledger position original altered := by
  have verified := verifyChain_eq_neg_one_iff.mp
    (well.verifyChain original.orgID)
  have unchanged : ledger.receiptsList.set position original =
      ledger.receiptsList := by
    obtain ⟨bound, equal⟩ := List.getElem?_eq_some_iff.mp stored
    rw [← equal]
    exact List.set_getElem_self bound
  rw [← unchanged, chainOf_set stored rfl, List.map_append,
    List.map_cons] at verified
  rw [verifyChain_eq_neg_one_iff, alter, chainOf_set stored sameOrg,
    List.map_append, List.map_cons,
    chained_replace_iff_of_injective free.chainHash_injective verified,
    linkOf_eq_iff, List.map_eq_nil_iff]
  exact or_congr_right
    ⟨fun ⟨newest, prevHash, hash, rehashed⟩ =>
        ⟨newest, prevHash, hash, rehashed⟩,
      fun resealed => ⟨resealed.newest, resealed.prevHash, resealed.hash,
        resealed.rehashed⟩⟩

/-- In every store, an alteration of one receipt is found out exactly if it
changes a hashed field and does not reseal the newest receipt. -/
theorem alteration_noticed_iff
    (free : primitives.CollisionFree)
    (calls : List (StoreCall × Draws))
    (stored : (MemoryStore.new.afterAll primitives.hashing
      calls).receiptsList[position]? = some original)
    (sameOrg : altered.orgID = original.orgID) :
    (alter (MemoryStore.new.afterAll primitives.hashing calls).toLedger
        position altered).verifyChain primitives.hashing original.orgID ≠ -1 ↔
      ¬ Agrees altered original ∧
        ¬ Resealed primitives
          (MemoryStore.new.afterAll primitives.hashing calls).toLedger
          position original altered := by
  have start : MemoryStore.new.toLedger.WellChained primitives.hashing :=
    Ledger.wellChained_empty _
  have well := MemoryStore.wellChained_afterAll start calls
  rw [ne_eq, alteration_unnoticed_iff free well stored sameOrg, not_or]

end

namespace Sample

/-- The stored receipt with another amount. -/
def understated : Receipt :=
  { issued with financialCents := some 5 }

/-- The stored receipt with another decision. -/
def unapproved : Receipt :=
  { issued with decision := .allow }

end Sample

/-- A stored amount is altered, and the chain still verifies. -/
theorem altered_amount_unnoticed :
    Sample.transparent.CollisionFree ∧
      Sample.store.receiptsList[0]? = some Sample.issued ∧
      Sample.understated.financialCents ≠ Sample.issued.financialCents ∧
      (alter Sample.store.toLedger 0 Sample.understated).verifyChain
        Sample.transparent.hashing Sample.issued.orgID = -1 := by
  refine ⟨Sample.collisionFree, Sample.issued_stored, by decide, ?_⟩
  apply (alteration_unnoticed_iff Sample.collisionFree Sample.chained
    Sample.issued_stored rfl).mpr
  exact .inl ⟨⟨rfl, rfl, rfl, rfl, rfl, rfl, rfl, rfl⟩, rfl, rfl⟩

/-- A stored decision is altered, and this is found out. -/
theorem alteration_noticed_iff_decision :
    (alter (MemoryStore.new.afterAll Sample.transparent.hashing
      Sample.calls).toLedger 0 Sample.unapproved).verifyChain
        Sample.transparent.hashing Sample.issued.orgID ≠ -1 := by
  have sameOrg : Sample.unapproved.orgID = Sample.issued.orgID := rfl
  refine (alteration_noticed_iff Sample.collisionFree Sample.calls
    Sample.issued_stored sameOrg).mpr ⟨?_, ?_⟩
  · intro agrees
    exact absurd agrees.decision (by decide)
  · intro resealed
    exact resealed.rehashed rfl

end Receipts
end SettleAgent
