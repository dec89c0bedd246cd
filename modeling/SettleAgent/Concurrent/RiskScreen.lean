import SettleAgent.Concurrent.Linked
import SettleAgent.Data.Rounding
import SettleAgent.Sequential.Simulation

/-!
# What the risk screen adds

The risk screen is asked after the policies, about an action that they let run.
A proposal is compared with itself: the same world, the same answers of the
environment, with the screen on and off.  What is recorded with the screen on
is the same or asks for an approval, without which the action is never
dispatched.

A score that is too large for the conversion to an integer comes out as the
smallest one, and the action is allowed.
-/

namespace SettleAgent

open Interaction Gateway

/-- The effect that is recorded for an action. -/
def World.effectAt (world : World) (id : String) : Option PolicyEffect :=
  (world.ledger.actions.get? id).bind TxnAction.effect?

/-- The approval is about the action and waits for a decision. -/
def Ledger.WaitsFor (ledger : Ledger) (id key : String) : Prop :=
  ∃ approval, ledger.approvals.get? key = some approval ∧
    approval.actionID = some id ∧ approval.status = .pending

/-- The judge's replies during these calls. -/
def repliesOf {Tag : Type} (marks : List (Mark Tag Call Env World)) :
    List Jev.Reply :=
  marks.filterMap fun mark => match mark.request with
    | .screenRisk _ => some mark.env.judge
    | _ => none

theorem judgements_eq {Tag : Type} (config : Config)
    (marks : List (Mark Tag Call Env World)) :
    judgements config marks =
      (repliesOf marks).map (Jev.screenRisk config.jevKey) := by
  rw [judgements, repliesOf, List.map_filterMap]
  refine List.filterMap_congr fun mark _ => ?_
  obtain ⟨tag, before, request, env⟩ := mark
  cases request <;> rfl

/-- The judge answers with confidence, and the scaled score is below the
threshold exactly if it can be converted: the largest number below `2 ^ 63` is
`2 ^ 63 - 1024`, and rounding goes up from the middle. -/
def Passes (threshold : Int) (reply : Jev.Reply) : Prop :=
  ∃ answer, reply = .decoded (some answer) ∧
    answer.confidence.ltHalf = false ∧
    (answer.score.timesBelow 25 threshold = true ↔
      answer.score.timesBelow 25 (2 ^ 63 - 512) = true)

theorem threshold_mem (limit : Option Int) :
    0 ≤ Jev.threshold limit ∧ Jev.threshold limit ≤ 100 := by
  unfold Jev.threshold
  split
  · split <;> omega
  · omega

theorem timesBelow_mono {x : Float64} {factor low high : Int}
    (le : low ≤ high) (below : x.timesBelow factor low = true) :
    x.timesBelow factor high = true := by
  simp only [Float64.timesBelow, decide_eq_true_eq] at below ⊢
  exact below.trans_le (mul_le_mul_of_nonneg_right le (by positivity))

/-- A score that reaches an integer up to 100 is converted to no less, unless it
is out of range. -/
theorem le_score100 {score : Float64} {least : Int} (natural : 0 ≤ least)
    (most : least ≤ 100) (reached : score.timesBelow 25 least = false)
    (inRange : score.timesBelow 25 (2 ^ 63 - 512) = true) :
    least ≤ Jev.score100 score := by
  obtain ⟨least, rfl⟩ := Int.eq_ofNat_of_zero_le natural
  have converted : (least : Int) ≤ score.timesPlusHalf 25 :=
    Float64.le_timesPlusHalf (by decide : 0 < 25) (by omega) reached inRange
  simp only [Jev.score100]
  split_ifs <;> omega

theorem passes_of_verdict {config : Config} {reply : Jev.Reply}
    (passed : riskVerdict config.jevThreshold
      (Jev.screenRisk config.jevKey reply) = none) :
    Passes config.jevThreshold reply := by
  obtain ⟨least, most⟩ := threshold_mem config.jevLimit
  unfold Jev.screenRisk at passed
  split at passed
  · cases passed
  split at passed
  any_goals cases passed
  rename_i answer
  simp only [riskVerdict] at passed
  split_ifs at passed with uncertain risky
  refine ⟨answer, rfl, by simpa using uncertain, timesBelow_mono (by
    unfold Config.jevThreshold
    omega), ?_⟩
  intro inRange
  by_contra reached
  exact risky (le_score100 least most (by simpa using reached) inRange)

theorem permits_iff {effect : PolicyEffect} :
    permits effect = true ↔
      effect = .allow ∨ effect = .allowWithConstraints := by
  cases effect <;> simp [permits]

/-- The gateway with the risk screen on or off. -/
def Config.screening (config : Config) (enabled : Bool) : Config :=
  { config with jevEnabled := enabled }

/-- An action with a legal effect that is allowed past the screen was judged. -/
theorem ScreenedBy.passes {config : Config} {ruling decision : PolicyDecision}
    {replies : List Jev.Reply}
    (screened : ScreenedBy (config.screening true) ruling
      (replies.map (Jev.screenRisk config.jevKey)) decision)
    (legal : ∀ text, ruling.effect ≠ .other text)
    (allowed : initialStatus decision.effect = .allowed) :
    ∃ reply, replies = [reply] ∧ Passes config.jevThreshold reply := by
  unfold ScreenedBy at screened
  split at screened
  · obtain ⟨answer, one, rfl⟩ := screened
    obtain ⟨reply, rfl, rfl⟩ := List.map_eq_singleton_iff.mp one
    cases verdict : riskVerdict (config.screening true).jevThreshold
        (Jev.screenRisk config.jevKey reply) with
    | none => exact ⟨reply, rfl, passes_of_verdict verdict⟩
    | some why =>
        rw [verdict] at allowed
        cases allowed
  · rename_i unasked
    obtain ⟨_, rfl⟩ := screened
    exact absurd ⟨rfl, (permits_iff_allowed legal).mpr allowed⟩ unasked

/-! ## One proposal, with the screen on and off -/

section Comparison

variable {config : Config} {world after : World} {base : Table TxnAction}
  {asked : Table Approval} {stored : TxnAction} {decision : PolicyDecision}

theorem Filed.effectAt (filed : Filed base asked stored decision after)
    (id : String) :
    after.effectAt id = if id = stored.id then some decision.effect
      else (base.get? id).bind TxnAction.effect? := by
  have table : after.ledger.actions =
      base.set stored.id (stored.decidedAs decision) := filed.stores
  rw [World.effectAt, table, Table.get?_set]
  split <;> rfl

/-- A decision that asks for approval leaves exactly one approval waiting. -/
theorem Filed.existsUnique_waitsFor
    (filed : Filed base asked stored decision after)
    (unasked : ∀ key approval, asked.get? key = some approval →
      approval.actionID ≠ some stored.id)
    (needed : decision.effect = .requireApproval) :
    ∃! key, after.ledger.WaitsFor stored.id key := by
  obtain ⟨key, approval, about, pending, approvals⟩ := filed.requested needed
  refine ⟨key, ⟨approval, ?_, about, pending⟩, ?_⟩
  · rw [approvals]
    exact Table.get?_set_self _ _ _
  · rintro other ⟨another, present, aboutOther, _⟩
    by_contra distinct
    rw [approvals, Table.get?_set_of_ne _ _ distinct] at present
    exact unasked other another present aboutOther

/-- A proposal in this world, with the risk screen on or off. -/
def proposing {Tag : Type} (config : Config) (traceID txnID idemKey : String)
    (proposal : Proposal) (caller : Tag) (envs : Nat → Env) (world : World)
    (enabled : Bool) :
    Except String TxnAction × World × List (Mark Tag Call Env World) :=
  (proposeAction (config.screening enabled) traceID proposal.orgID txnID
    proposal.agentID proposal.tool proposal.action proposal.arguments
    idemKey).complete (exec (config.screening enabled)) caller envs world

variable {Tag : Type} {caller : Tag} {envs : Nat → Env}
  {traceID txnID idemKey : String} {proposal : Proposal}

/-- All rules in force for the organization have one of the four effects. -/
def World.Lawful (world : World) (orgID : String) : Prop :=
  ∀ rule ∈ world.store.policiesOf orgID, Api.legalEffect rule = true

variable (config world caller envs traceID txnID idemKey proposal) in
/-- With the screen on and off, a proposal changes no action, or it is decided
from the same ruling. -/
theorem proposing_cases :
    let outcome enabled := proposing config traceID txnID idemKey proposal
      caller envs world enabled
    (∀ enabled, (outcome enabled).2.1.ledger.actions = world.ledger.actions) ∨
      ∃ ruling, (world.Lawful proposal.orgID →
        ∀ text, ruling.effect ≠ .other text) ∧ ∀ enabled, ∃ decision,
        ScreenedBy (config.screening enabled) ruling
          ((repliesOf (outcome enabled).2.2).map
            (Jev.screenRisk config.jevKey)) decision ∧
        Filed world.ledger.actions world.ledger.approvals
          (proposedRecord config (envs 3) txnID idemKey proposal world.tools)
          decision (outcome enabled).2.1 := by
  intro outcome
  by_cases taken : Taken world proposal.orgID txnID proposal.agentID idemKey
  swap
  · exact Or.inl fun enabled => proposeAction_unrecorded taken
  right
  obtain ⟨txn, agent, found, unclosed, known, new⟩ := taken
  refine ⟨rulingOn config.runtime world.store (fun n => envs (n + 4)) agent
    proposal.orgID proposal.agentID
    (proposedRecord config (envs 3) txnID idemKey proposal world.tools), ?_, ?_⟩
  · intro lawful text
    simp only [rulingOn]
    split_ifs
    · exact policyDecision_ne_other _ _ _ lawful text
    · simp [authorityExceeded]
    · exact policyDecision_ne_other _ _ _ lawful text
  intro enabled
  obtain ⟨decision, _, _, _, screened, filed⟩ :=
    @proposeAction_records (config.screening enabled) world traceID txnID txn
      agent Tag caller envs idemKey proposal found unclosed known new
  rw [judgements_eq] at screened
  exact ⟨decision, screened, filed⟩

/-- With the screen on, an action has the same effect recorded as with it off,
or needs an approval where it did not. -/
theorem effectAt_screened (id : String) :
    let effect enabled := (proposing config traceID txnID idemKey proposal
      caller envs world enabled).2.1.effectAt id
    effect true = effect false ∨
      effect true = some .requireApproval ∧
        (effect false = some .allow ∨
          effect false = some .allowWithConstraints) := by
  intro effect
  rcases proposing_cases config world caller envs traceID txnID idemKey
    proposal with unchanged | ⟨ruling, _, files⟩
  · left
    simp only [effect, World.effectAt, unchanged]
  obtain ⟨decided, screened, filed⟩ := files true
  obtain ⟨unscreened, disabled, filedOff⟩ := files false
  obtain rfl := Screened.of_disabled rfl ⟨_, disabled⟩
  simp only [effect, filed.effectAt, filedOff.effectAt]
  split
  · rcases screened.cases with rfl | ⟨_, permitted, why, rfl⟩
    · exact Or.inl rfl
    · exact Or.inr ⟨rfl, (permits_iff.mp permitted).imp (congrArg some)
        (congrArg some)⟩
  · exact Or.inl rfl

/-- With the screen on, the judge passed an action that is newly allowed. -/
theorem allowed_passes {id : String} {action : TxnAction}
    (lawful : world.Lawful proposal.orgID) :
    let outcome := proposing config traceID txnID idemKey proposal caller envs
      world true
    outcome.2.1.ledger.actions.get? id = some action →
    world.ledger.actions.get? id ≠ some action → action.status = .allowed →
    ∃ reply, repliesOf outcome.2.2 = [reply] ∧
      Passes config.jevThreshold reply := by
  intro outcome present changed allowed
  rcases proposing_cases config world caller envs traceID txnID idemKey
    proposal with unchanged | ⟨ruling, legal, files⟩
  · rw [unchanged] at present
    exact absurd present changed
  obtain ⟨decision, screened, filed⟩ := files true
  have table : outcome.2.1.ledger.actions = _ := filed.stores
  rw [table, Table.get?_set] at present
  split at present
  swap
  · exact absurd present changed
  obtain rfl := Option.some.inj present
  exact screened.passes (legal lawful) allowed

/-- An action that the screen escalates has exactly one approval waiting. -/
theorem escalated_waits {id : String}
    (unasked : ∀ key approval, world.ledger.approvals.get? key = some approval →
      approval.actionID ≠ some (envs 3).uid) :
    let after enabled := (proposing config traceID txnID idemKey proposal
      caller envs world enabled).2.1
    (after true).effectAt id ≠ (after false).effectAt id →
      ∃! key, (after true).ledger.WaitsFor id key := by
  intro after escalated
  rcases proposing_cases config world caller envs traceID txnID idemKey
    proposal with unchanged | ⟨ruling, _, files⟩
  · simp only [after, World.effectAt, unchanged] at escalated
    exact absurd rfl escalated
  obtain ⟨decided, screened, filed⟩ := files true
  obtain ⟨unscreened, disabled, filedOff⟩ := files false
  obtain rfl := Screened.of_disabled rfl ⟨_, disabled⟩
  simp only [after, filed.effectAt, filedOff.effectAt] at escalated
  split at escalated
  swap
  · exact absurd rfl escalated
  rename_i named
  subst named
  apply filed.existsUnique_waitsFor unasked
  rcases screened.cases with rfl | ⟨_, _, why, rfl⟩
  · exact absurd rfl escalated
  · rfl

end Comparison

/-- In every interleaving, an action that needs an approval is dispatched only
after its one approval was granted. -/
theorem dispatched_was_approved
    {config : Config} {world : World} {operations : Nat → Operation}
    {schedule : List (Nat × Env)} {thread : Nat} {action : TxnAction}
    (forward : ∀ thread, (operations thread).intent.Forward)
    (unproposed : world.Unproposed)
    (fresh : FreshSchedule config world operations schedule)
    (dispatches : ((interleaved config world operations schedule).threads
      thread).request? = some (.execute action))
    (needed : action.effect? = some .requireApproval) :
    let history := (interleaved config world operations schedule).history
    Granted config history.marks action.id ∧
      (∃! key, ∃ approval,
        history.state.ledger.approvals.get? key = some approval ∧
          approval.actionID = some action.id) ∧
      ∀ key, ¬ history.state.ledger.WaitsFor action.id key := by
  intro history
  have linked := (linked_interleaved forward unproposed fresh).1
  obtain ⟨held, holding, rfl, runnable⟩ :=
    runnable_of_dispatch forward unproposed fresh dispatches
  obtain ⟨⟨decision, decided, effect⟩, stored, present, same⟩ :=
    linked.runnable holding runnable
  have asks : decision.effect = .requireApproval := by
    simpa [TxnAction.effect?, decided] using needed
  have granted : Granted config history.marks held.record.id := by
    simp only [asks, reduceCtorEq, false_or, true_and] at effect
    exact effect
  obtain ⟨key, approval, approvalAt, about, _⟩ := linked.granted _ granted
  refine ⟨granted, ⟨key, ⟨approval, approvalAt, about⟩, ?_⟩, ?_⟩
  · rintro other ⟨another, anotherAt, aboutAnother⟩
    exact linked.once other another key approval anotherAt approvalAt
      (aboutAnother.trans about.symm)
  · rintro other ⟨another, anotherAt, aboutAnother, pending⟩
    have approved := linked.approvals_approved present (same.trans decided)
      (fun _ => granted) anotherAt aboutAnother
    rw [approved] at pending
    cases pending

/-- For every state and every answer of the judge: with the risk screen on, a
proposal has the same effect recorded as with it off, or needs an approval
where the policies let it run.  Under rules with legal effects, the judge was
asked once about an action that becomes allowed, and answered with confidence;
its score is below the threshold exactly if it is in range.  An action that is
escalated has exactly one approval waiting, and whatever is decided to need an
approval is dispatched only after its one approval was granted. -/
theorem risk_screen_adds_scrutiny
    {Tag : Type} (config : Config) (traceID txnID idemKey : String)
    (proposal : Proposal) (caller : Tag) (envs : Nat → Env) (world : World)
    (unasked : ∀ key approval, world.ledger.approvals.get? key = some approval →
      approval.actionID ≠ some (envs 3).uid) :
    let outcome := proposing config traceID txnID idemKey proposal caller envs
      world
    (∀ id, (outcome true).2.1.effectAt id = (outcome false).2.1.effectAt id ∨
      (outcome true).2.1.effectAt id = some .requireApproval ∧
        ((outcome false).2.1.effectAt id = some .allow ∨
          (outcome false).2.1.effectAt id = some .allowWithConstraints)) ∧
    (∀ id action, (outcome true).2.1.ledger.actions.get? id = some action →
      world.ledger.actions.get? id ≠ some action → action.status = .allowed →
      world.Lawful proposal.orgID →
      ∃ reply, repliesOf (outcome true).2.2 = [reply] ∧
        Passes config.jevThreshold reply) ∧
    (∀ id, (outcome true).2.1.effectAt id ≠ (outcome false).2.1.effectAt id →
      ∃! key, (outcome true).2.1.ledger.WaitsFor id key) ∧
    ∀ (start : World) (operations : Nat → Operation)
      (schedule : List (Nat × Env)) (thread : Nat) (action : TxnAction),
      (∀ thread, (operations thread).intent.Forward) → start.Unproposed →
      FreshSchedule (config.screening true) start operations schedule →
      let pool :=
        interleaved (config.screening true) start operations schedule
      (pool.threads thread).request? = some (.execute action) →
      action.effect? = some .requireApproval →
      Granted (config.screening true) pool.history.marks action.id ∧
        (∃! key, ∃ approval,
          pool.history.state.ledger.approvals.get? key = some approval ∧
            approval.actionID = some action.id) ∧
        ∀ key, ¬ pool.history.state.ledger.WaitsFor action.id key := by
  refine ⟨effectAt_screened, ?_, ?_, ?_⟩
  · intro id action present changed allowed lawful
    exact allowed_passes lawful present changed allowed
  · intro id
    exact escalated_waits unasked
  · intro start operations schedule thread action forward unproposed fresh pool
      dispatches needed
    exact dispatched_was_approved forward unproposed fresh dispatches needed

namespace Sample

/-- A world with an open transaction. -/
def begun : World :=
  (sequential config world (inTurn [create])).state

/-- What the agent proposes there. -/
def offer (tool action : String) : Proposal where
  orgID := "acme"
  agentID := "bot"
  tool := tool
  action := action
  arguments := none

theorem fits_quintillion : Int.natAbs 3814697265625 < 2 ^ 53 := by
  decide

/-- The judge is sure of a score of 10 ^ 18. -/
def alarmed (number call : Nat) : Env :=
  { envs number call with judge := .decoded (some
      { score := ⟨3814697265625, 18, fits_quintillion⟩
        confidence := ⟨1, 0, by decide⟩ }) }

end Sample

/-- The judge does not answer, and a lookup that was to be allowed waits for
its one approval. -/
theorem risk_screen_adds_scrutiny_lookup :
    let outcome := proposing Sample.config "" "id1" "k"
      (Sample.offer "crm" "lookup_customer") () (Sample.envs 1) Sample.begun
    (outcome true).2.1.effectAt "id103" = some .requireApproval ∧
      (outcome false).2.1.effectAt "id103" = some .allow ∧
      ∃! key, (outcome true).2.1.ledger.WaitsFor "id103" key := by
  intro outcome
  have on : (outcome true).2.1.effectAt "id103" = some .requireApproval := by
    decide +kernel
  have off : (outcome false).2.1.effectAt "id103" = some .allow := by
    decide +kernel
  have none : Sample.begun.ledger.approvals = ∅ := rfl
  refine ⟨on, off, (risk_screen_adds_scrutiny Sample.config "" "id1" "k" _ ()
    (Sample.envs 1) Sample.begun ?_).2.2.1 "id103" ?_⟩
  · intro key approval present
    rw [none] at present
    cases present
  · change (outcome true).2.1.effectAt "id103" ≠
      (outcome false).2.1.effectAt "id103"
    rw [on, off]
    decide

/-- The judge is sure of a score far beyond the threshold of 70, and a lookup is
allowed. -/
theorem huge_score_passes :
    let outcome := proposing Sample.config "" "id1" "k"
      (Sample.offer "crm" "lookup_customer") () (Sample.alarmed 1) Sample.begun
      true
    (outcome.2.1.ledger.actions.get? "id103").map TxnAction.status =
        some .allowed ∧
      Sample.config.jevThreshold = 70 ∧
      ∃ answer, repliesOf outcome.2.2 = [.decoded (some answer)] ∧
        answer.score.timesBelow 25 70 = false ∧
        Jev.score100 answer.score = 0 := by
  refine ⟨by decide +kernel, by decide +kernel, _, rfl, ?_⟩
  decide +kernel

end SettleAgent
