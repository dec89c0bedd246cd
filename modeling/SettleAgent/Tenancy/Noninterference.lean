import SettleAgent.Concurrent.Scenes
import SettleAgent.Tenancy.Reachable
import SettleAgent.Tenancy.Registrants
import SettleAgent.Tenancy.Share

/-!
# What other organizations cannot influence

Two interleaved runs are compared in which one organization makes the same
calls, and the others do whatever they want.  As long as every tool that the
organization looks up was last registered for itself, its share of the store is
the same at the end of both runs, and its dispatches go to its own servers.
-/

namespace SettleAgent

open Interaction Integrations

variable {config : Config} {world : World}

/-! ## Conditions on a run -/

/-- The key identifiers that were issued by the calls. -/
def issuedKeys (config : Config) (marks : List (Mark Nat Call Env World)) :
    List String :=
  marks.foldl (fun drawn mark =>
    mark.request.issues (mark.reply (exec config)) ++ drawn) []

/-- Everything that is generated for the call is new, a key that has been
issued but not stored yet included. -/
def Distinct (config : Config) (history : History Call Env World) (_ : Nat)
    (request : Call) (env : Env) : Prop :=
  Generates history.state env ∧
    ∀ keyID ∈ request.issues (exec config request env history.state).1,
      keyID ∉ issuedKeys config history.marks

instance (history : History Call Env World) (thread : Nat) (request : Call)
    (env : Env) : Decidable (Distinct config history thread request env) :=
  inferInstanceAs (Decidable (_ ∧ _))

/-- If the call looks up a tool to propose or dispatch an action of the
organization, the tool was last registered for the organization itself. -/
def Heeded (operations : Nat → Operation) (orgID : String)
    (history : History Call Env World) (thread : Nat) (request : Call)
    (_ : Env) : Prop :=
  (operations thread).orgID = orgID → (operations thread).simulates = false →
    ∀ key ∈ request.consults,
      ∀ owner ∈ registrant operations history.marks key, owner = orgID

instance (operations : Nat → Operation) (orgID : String)
    (history : History Call Env World) (thread : Nat) (request : Call)
    (env : Env) :
    Decidable (Heeded operations orgID history thread request env) :=
  inferInstanceAs (Decidable (_ → _ → _))

/-- Everything that is generated in the run is new. -/
def DistinctSchedule (config : Config) (world : World)
    (operations : Nat → Operation) (schedule : List (Nat × Env)) : Prop :=
  (Pool.start world fun thread => (operations thread).program config).Valid
    (exec config) (Distinct config) schedule

instance (operations : Nat → Operation) (schedule : List (Nat × Env)) :
    Decidable (DistinctSchedule config world operations schedule) :=
  inferInstanceAs (Decidable (Pool.Valid _ _ _ _))

/-- Every tool that the organization looks up in the run, to propose or dispatch
an action, was last registered for the organization itself. -/
def HeededSchedule (config : Config) (world : World)
    (operations : Nat → Operation) (orgID : String)
    (schedule : List (Nat × Env)) : Prop :=
  (Pool.start world fun thread => (operations thread).program config).Valid
    (exec config) (Heeded operations orgID) schedule

instance (operations : Nat → Operation) (orgID : String)
    (schedule : List (Nat × Env)) :
    Decidable (HeededSchedule config world operations orgID schedule) :=
  inferInstanceAs (Decidable (Pool.Valid _ _ _ _))

/-- A gateway that has been set up but has no servers yet. -/
structure World.Provisioned (config : Config) (world : World) : Prop where
  sound : world.store.Sound
  chained : world.ledger.WellChained config.runtime.hashing
  unserved : world.store.mcpServers = ∅
  bare : ∀ name tool,
    world.tools.handlers.get? (Registry.key (toolName name) tool) = none
  restores : ∀ provider, world.store.keyProvider = some provider →
    provider.Restores

/-! ## One run -/

/-- The site that a pool shows. -/
def siteOf (config : Config) (operations : Nat → Operation)
    (pool : Pool Call Call.Resp Env World Outcome) : Site where
  world := pool.history.state
  running := fun thread =>
    some ((operations thread).orgID, pool.threads thread)
  drawn := issuedKeys config pool.history.marks

theorem siteOf_call {operations : Nat → Operation}
    {pool : Pool Call Call.Resp Env World Outcome} {thread : Nat}
    {request : Call} {following : request.Resp → Gate Outcome}
    (calls : pool.threads thread = .call request following) (env : Env) :
    siteOf config operations (pool.step (exec config) thread env) =
      (siteOf config operations pool).advanced config thread
        (operations thread).orgID request following env := by
  rw [Pool.step_of_call (exec config) calls]
  have running : (fun other => some ((operations other).orgID,
      Function.update pool.threads thread
        (following (exec config request env pool.history.state).1) other)) =
      Function.update
        (fun other => some ((operations other).orgID, pool.threads other))
        thread (some ((operations thread).orgID,
          following (exec config request env pool.history.state).1)) := by
    funext other
    by_cases same : other = thread
    · subst same
      simp
    · simp [Function.update_of_ne same]
  simp only [siteOf, Site.advanced, History.next, running, issuedKeys,
    List.foldl_append, List.foldl_cons, List.foldl_nil, Mark.reply]

/-- What a dispatch sends goes to a server that the organization has filed. -/
def Served (config : Config) (operations : Nat → Operation) (orgID : String)
    (earlier : List (Mark Nat Call Env World)) (mark : Mark Nat Call Env World) :
    Prop :=
  (operations mark.caller).orgID = orgID →
    ∀ action name, mark.request = .execute action →
      action.tool = toolName name → Api.mcpName name = true →
        ∀ sent ∈ sentBy config mark,
          OnFile operations earlier orgID ⟨name, sent.url, sent.token⟩

/-- What holds of one run in which the tools of the organization are its
own. -/
structure Regular (config : Config) (world : World)
    (operations : Nat → Operation) (orgID : String)
    (pool : Pool Call Call.Resp Env World Outcome) : Prop where
  chained : pool.history.state.ledger.WellChained config.runtime.hashing
  known : ∃ known, (siteOf config operations pool).Sound known
  upright : pool.Sound (exec config)
    (fun thread => Standing.role (operations thread)) {} (fun _ _ _ => True)
    (Recorded config world operations)
  served : Throughout (Served config operations orgID) pool.history.marks

namespace Regular

variable {operations : Nat → Operation} {orgID : String}
  {pool : Pool Call Call.Resp Env World Outcome}

theorem start (provisioned : world.Provisioned config)
    (plain : ∀ thread, Plain (operations thread).orgID) :
    Regular config world operations orgID
      (Pool.start world fun thread => (operations thread).program config) where
  chained := provisioned.chained
  known := by
    refine ⟨fun _ => {}, provisioned.sound, ?_, by simp, by simp⟩
    intro thread owner program running
    simp only [siteOf, Pool.start, Option.some.injEq, Prod.mk.injEq] at running
    obtain ⟨rfl, rfl⟩ := running
    exact ⟨plain thread, (operations thread).within config, Holds.nothing _ _⟩
  upright := Pool.sound_start (exec config) (.start provisioned.unserved)
    fun thread => (operations thread).upright config
  served := throughout_nil

variable (regular : Regular config world operations orgID pool)

include regular

/-- The store is sound at any time. -/
theorem sound : pool.history.state.store.Sound := by
  obtain ⟨known, sound⟩ := regular.known
  exact sound.store

/-- A thread writes in the territory of its organization. -/
theorem confined {thread : Nat} {request : Call}
    {following : request.Resp → Gate Outcome} {env : Env}
    (calls : pool.threads thread = .call request following)
    (generates : Generates pool.history.state env) :
    Confined (.whole (operations thread).orgID) pool.history.state.store
      (exec config request env pool.history.state).2.store := by
  obtain ⟨known, sound⟩ := regular.known
  obtain ⟨plain, within, holds⟩ := sound.thread thread _ _ rfl
  rw [calls] at within
  exact confined_exec plain sound.store holds generates.1 within.1

/-- A turn of any thread. -/
theorem step (provisioned : world.Provisioned config)
    (plain : ∀ thread, Plain (operations thread).orgID) {turn : Nat × Env}
    (distinct : pool.Admits (Distinct config) turn)
    (heeded : pool.Admits (Heeded operations orgID) turn) :
    Regular config world operations orgID
      (pool.step (exec config) turn.1 turn.2) := by
  obtain ⟨thread, env⟩ := turn
  have upright := regular.upright.step (exec config)
    (fun _ _ _ _ _ _ => trivial)
    (fun _ _ _ _ recorded _ _ may =>
      recorded.next plain provisioned.restores may.2)
    (fun _ _ _ recorded _ _ =>
      ⟨recorded.keyProvider, recorded.servers, recorded.unclaimed,
        recorded.claimed, recorded.files⟩) thread env distinct
  cases program : pool.threads thread with
  | ret value =>
      have state : (pool.step (exec config) thread env).history.state =
            pool.history.state ∧
          (pool.step (exec config) thread env).history.marks =
            pool.history.marks ∧
          (pool.step (exec config) thread env).threads = pool.threads := by
        rw [Pool.step_of_ret (exec config) program]
        split <;> exact ⟨rfl, rfl, rfl⟩
      obtain ⟨sameState, sameMarks, sameThreads⟩ := state
      refine ⟨sameState ▸ regular.chained, ?_, upright,
        sameMarks ▸ regular.served⟩
      have same : siteOf config operations
          (pool.step (exec config) thread env) =
            siteOf config operations pool := by
        simp only [siteOf, sameState, sameMarks, sameThreads]
      exact same ▸ regular.known
  | call request following =>
      obtain ⟨generates, undrawn⟩ := distinct request following program
      obtain ⟨known, sound⟩ := regular.known
      have running : (siteOf config operations pool).running thread =
          some ((operations thread).orgID, .call request following) := by
        simp only [siteOf, program]
      have next := sound.advanced running generates undrawn
      rw [← siteOf_call program env] at next
      refine ⟨?_, ⟨_, next⟩, upright, ?_⟩
      · rw [Pool.step_of_call (exec config) program]
        exact wellChained_exec regular.chained request env
      · rw [Pool.step_of_call (exec config) program]
        refine throughout_concat.mpr ⟨regular.served, ?_⟩
        rintro own action name rfl tool valid sent member
        cases asks : (operations thread).simulates with
        | true =>
            -- a simulation does not dispatch anything
            have silent := (regular.upright.permitted (exec config)
              program).2.1 (.inr asks)
            simp only [sentBy, Mark.after, silent config env, List.drop_length]
              at member
            cases member
        | false =>
            rw [sentBy_execute] at member
            exact regular.upright.1.dispatch provisioned.bare env.outside tool
              valid (heeded _ following program own asks _ rfl) sent member

end Regular

/-! ## The registry in two runs -/

/-- The last registration under the key was made for somebody else. -/
def Overrun (operations : Nat → Operation) (orgID : String)
    (marks : List (Mark Nat Call Env World)) (key : String) : Prop :=
  ∃ owner ∈ registrant operations marks key, owner ≠ orgID

section Registry

variable {operations : Nat → Operation} {orgID : String} {thread : Nat}
  {request : Call}

/-- A call that registers nothing for the organization: whatever it changes is
overrun afterwards, and what was overrun still is. -/
theorem overrun_next (config : Config) (history : History Call Env World)
    (env : Env)
    (foreign : ∀ key, request.registers = some key →
      (operations thread).orgID ≠ orgID) :
    let after := history.next (exec config) thread request env
    SameTools (Overrun operations orgID after.marks) history.state.tools
        after.state.tools ∧
      ∀ key, Overrun operations orgID history.marks key →
        Overrun operations orgID after.marks key := by
  intro after
  have overrun : ∀ key, request.registers = some key →
      Overrun operations orgID after.marks key := by
    intro key registers
    refine ⟨(operations thread).orgID, ?_, foreign key registers⟩
    simp [after, History.next, registrant_concat, registers]
  constructor
  · refine ⟨fun key kept => ?_, fun key kept => ?_, ?_, ?_⟩
    · exact (handlers_exec fun registers => kept (overrun key registers)).symm
    · exact (classMeta_exec fun registers => kept (overrun key registers)).symm
    · cases request <;> rfl
    · cases request <;> rfl
  · rintro key ⟨owner, last, different⟩
    by_cases registers : request.registers = some key
    · exact overrun key registers
    · refine ⟨owner, ?_, different⟩
      simpa [after, History.next, registrant_concat, registers] using last

/-- What a registration for the organization leaves overrun. -/
theorem overrun_next_own {history : History Call Env World} {env : Env}
    (own : (operations thread).orgID = orgID) {key : String} :
    Overrun operations orgID
        (history.next (exec config) thread request env).marks key ↔
      Overrun operations orgID history.marks key ∧
        request.registers ≠ some key := by
  by_cases registers : request.registers = some key
  · simp [Overrun, History.next, registrant_concat, registers, own]
  · simp [Overrun, History.next, registrant_concat, registers]

end Registry

/-! ## Two runs -/

/-- The thread changes nothing any more. -/
def Idle (config : Config) (operations : Nat → Operation)
    (pool : Pool Call Call.Resp Env World Outcome) (thread : Nat) : Prop :=
  (pool.history.view (exec config) (Standing.role (operations thread)) {}
      thread).dismissed = true ∨ (operations thread).simulates = true

/-- Two runs that one organization cannot tell apart. -/
structure Twins (config : Config) (world : World)
    (operations others : Nat → Operation) (orgID : String)
    (first second : Pool Call Call.Resp Env World Outcome) : Prop where
  left : Regular config world operations orgID first
  right : Regular config world others orgID second
  share : SameShare orgID first.history.state.store second.history.state.store
  tools : SameTools
    (fun key => Overrun operations orgID first.history.marks key ∨
      Overrun others orgID second.history.marks key)
    first.history.state.tools second.history.state.tools
  threads : ∀ thread, (operations thread).orgID = orgID →
    (first.threads thread = second.threads thread ∧
      (operations thread).simulates = false) ∨
    (Idle config operations first thread ∧ Idle config others second thread)

theorem idle_next {operations : Nat → Operation}
    {pool : Pool Call Call.Resp Env World Outcome} {thread other : Nat}
    {request : Call} {env : Env} {threads : Nat → Gate Outcome}
    (idle : Idle config operations pool other) :
    Idle config operations
      ⟨pool.history.next (exec config) thread request env, threads⟩ other := by
  rcases idle with dismissed | simulates
  swap
  · exact .inr simulates
  left
  by_cases same : other = thread
  · subst same
    rw [History.view_next_self]
    exact Standing.dismissed_learn dismissed request _
  · rw [History.view_next_of_ne _ _ _ _ _ same]
    exact dismissed

theorem idle_step {operations : Nat → Operation}
    {pool : Pool Call Call.Resp Env World Outcome} {thread other : Nat}
    {env : Env} (idle : Idle config operations pool other) :
    Idle config operations (pool.step (exec config) thread env) other := by
  cases program : pool.threads thread with
  | ret value =>
      rw [Pool.step_of_ret (exec config) program]
      split <;> exact idle
  | call request following =>
      rw [Pool.step_of_call (exec config) program]
      exact idle_next idle

/-- The organization's own call in both runs. -/
theorem sameTools_exec {astray : String → Prop} {first second : World}
    (tools : SameTools astray first.tools second.tools) (request : Call)
    (env : Env) :
    SameTools (fun key => astray key ∧ request.registers ≠ some key)
      (exec config request env first).2.tools
      (exec config request env second).2.tools := by
  cases request with
  | register tool action classes handler =>
      refine (tools.register tool action classes handler).mono ?_
      rintro key ⟨gone, different⟩
      refine ⟨gone, fun equal => different ?_⟩
      exact (Option.some.inj equal).symm
  | _ => exact tools.mono fun key gone => ⟨gone, nofun⟩

/-- A credential that is looked up is found in both stores, or it is not one of
the organization in either. -/
theorem SameShare.getCredential_cases {orgID : String}
    {first second : MemoryStore} (share : SameShare orgID first second)
    (keyID : String) :
    first.getCredential keyID = second.getCredential keyID ∨
      ((first.getCredential keyID).any (fun ref => ref.orgID = orgID) = false ∧
        (second.getCredential keyID).any (fun ref => ref.orgID = orgID) =
          false) := by
  by_cases own : (first.getCredential keyID).any fun ref => ref.orgID = orgID
  · obtain ⟨ref, found, owned⟩ := (Option.any_eq_true _ _).mp own
    left
    rw [found, (share.getCredential (of_decide_eq_true owned)).mp found]
  by_cases ownToo : (second.getCredential keyID).any fun ref =>
      ref.orgID = orgID
  · obtain ⟨ref, found, owned⟩ := (Option.any_eq_true _ _).mp ownToo
    left
    rw [found, (share.getCredential (of_decide_eq_true owned)).mpr found]
  · exact .inr ⟨Bool.eq_false_iff.mpr own, Bool.eq_false_iff.mpr ownToo⟩

namespace Twins

variable {operations others : Nat → Operation} {orgID : String}
  {first second : Pool Call Call.Resp Env World Outcome}
  (same : ∀ thread, (operations thread).orgID = orgID ∨
    (others thread).orgID = orgID → operations thread = others thread)
  (twins : Twins config world operations others orgID first second)

include same twins

theorem symm :
    Twins config world others operations orgID second first where
  left := twins.right
  right := twins.left
  share := twins.share.symm
  tools := twins.tools.symm.mono fun _ => Or.symm
  threads := by
    intro thread own
    have equal := same thread (.inr own)
    rcases twins.threads thread (equal ▸ own) with ⟨program, acts⟩ | idle
    · exact .inl ⟨program.symm, equal ▸ acts⟩
    · exact .inr idle.symm

omit same in
/-- A turn of a thread that has returned. -/
theorem step_ret {thread : Nat} {env : Env} {value : Outcome}
    (after : Regular config world operations orgID
      (first.step (exec config) thread env))
    (returned : first.threads thread = .ret value) :
    Twins config world operations others orgID
      (first.step (exec config) thread env) second := by
  rw [Pool.step_of_ret (exec config) returned] at after ⊢
  split
  · exact twins
  · rename_i active
    rw [if_neg active] at after
    exact ⟨after, twins.right, twins.share, twins.tools, twins.threads⟩

omit same in
/-- A call that neither writes to the organization's share nor registers a tool
for it. -/
theorem step_aside {thread : Nat} {env : Env} {request : Call}
    {following : request.Resp → Gate Outcome}
    (after : Regular config world operations orgID
      (first.step (exec config) thread env))
    (calls : first.threads thread = .call request following)
    (aside : (operations thread).orgID = orgID →
      Idle config operations first thread ∧ Idle config others second thread)
    (share : SameShare orgID first.history.state.store
      (exec config request env first.history.state).2.store)
    (foreign : ∀ key, request.registers = some key →
      (operations thread).orgID ≠ orgID) :
    Twins config world operations others orgID
      (first.step (exec config) thread env) second := by
  obtain ⟨kept, still⟩ := overrun_next config first.history env foreign
  rw [Pool.step_of_call (exec config) calls] at after ⊢
  refine ⟨after, twins.right, share.symm.trans twins.share, ?_, ?_⟩
  · refine (kept.symm.mono fun key gone => .inl gone).trans
      (twins.tools.mono fun key gone => ?_)
    exact gone.imp_left (still key)
  · intro other own
    rcases twins.threads other own with ⟨program, acts⟩ | ⟨idle, idleToo⟩
    · by_cases self : other = thread
      · subst self
        obtain ⟨idle, idleToo⟩ := aside own
        exact .inr ⟨idle_next idle, idleToo⟩
      · refine .inl ⟨?_, acts⟩
        exact (Function.update_of_ne self _ _).trans program
    · exact .inr ⟨idle_next idle, idleToo⟩

variable (provisioned : world.Provisioned config)
  (plain : ∀ thread, Plain (operations thread).orgID)
  {turn : Nat × Env}

omit same in
include provisioned plain in
/-- A turn of another organization, on one side. -/
theorem step_other (plainOrg : Plain orgID)
    (other : (operations turn.1).orgID ≠ orgID)
    (distinct : first.Admits (Distinct config) turn)
    (heeded : first.Admits (Heeded operations orgID) turn) :
    Twins config world operations others orgID
      (first.step (exec config) turn.1 turn.2) second := by
  have after := twins.left.step provisioned plain distinct heeded
  cases program : first.threads turn.1 with
  | ret value => exact twins.step_ret after program
  | call request following =>
      have confined := twins.left.confined program
        (distinct request following program).1
      exact twins.step_aside after program (fun own => absurd own other)
        (confined.sameShare other.symm plainOrg) fun _ _ => other

omit same in
include provisioned plain in
/-- A turn of an idle thread, on one side. -/
theorem step_idle (idle : Idle config operations first turn.1)
    (idleToo : Idle config others second turn.1)
    (distinct : first.Admits (Distinct config) turn)
    (heeded : first.Admits (Heeded operations orgID) turn) :
    Twins config world operations others orgID
      (first.step (exec config) turn.1 turn.2) second := by
  have after := twins.left.step provisioned plain distinct heeded
  cases program : first.threads turn.1 with
  | ret value => exact twins.step_ret after program
  | call request following =>
      have silent := (twins.left.upright.permitted (exec config) program).2.1 idle
      have unregistered := silent.registers config turn.2
        first.history.state.store
      refine twins.step_aside after program (fun _ => ⟨idle, idleToo⟩) ?_ ?_
      · rw [silent config turn.2]
        exact .refl orgID _
      · intro key registers
        rw [unregistered] at registers
        cases registers

/-- The organization's own call in both runs: the replies are equal, or both
threads are idle from then on. -/
theorem share_next {thread : Nat} (env : Env) {request : Call}
    {following : request.Resp → Gate Outcome}
    (own : (operations thread).orgID = orgID)
    (calls : first.threads thread = .call request following)
    (heeds : ∀ key ∈ request.consults,
      ¬ (Overrun operations orgID first.history.marks key ∨
        Overrun others orgID second.history.marks key)) :
    let reply := (exec config request env first.history.state).1
    let replyToo := (exec config request env second.history.state).1
    (reply = replyToo ∨
      (((Standing.role (operations thread)).learn
          (first.history.view (exec config)
            (Standing.role (operations thread)) {} thread)
          request reply).dismissed = true ∧
        ((Standing.role (others thread)).learn
          (second.history.view (exec config)
            (Standing.role (others thread)) {} thread)
          request replyToo).dismissed = true)) ∧
      SameShare orgID (exec config request env first.history.state).2.store
        (exec config request env second.history.state).2.store := by
  by_cases asks : ∃ keyID, request = .getCredential keyID
  · obtain ⟨keyID, rfl⟩ := asks
    refine ⟨?_, twins.share⟩
    have ownToo : (others thread).orgID = orgID := same thread (.inl own) ▸ own
    rcases twins.share.getCredential_cases keyID with equal | ⟨none, noneToo⟩
    · exact .inl equal
    · right
      simp only [Standing.role, Standing.learn, own, ownToo]
      constructor
      · simp only [exec, none, Bool.not_false, Bool.or_true]
      · simp only [exec, noneToo, Bool.not_false, Bool.or_true]
  · obtain ⟨known, sound⟩ := twins.left.known
    obtain ⟨_, within, holds⟩ := sound.thread thread _ _ rfl
    rw [calls, own] at within
    rw [own] at holds
    obtain ⟨equal, share⟩ := share_exec config env twins.share twins.tools
      twins.left.sound twins.right.sound twins.left.chained
      twins.right.chained holds within.1 heeds
      fun keyID equal => asks ⟨keyID, equal⟩
    exact ⟨.inl equal, share⟩

variable (plainToo : ∀ thread, Plain (others thread).orgID)

include provisioned plain plainToo in
/-- A turn of the organization itself, on both sides. -/
theorem step_own (own : (operations turn.1).orgID = orgID)
    (distinct : first.Admits (Distinct config) turn)
    (heeded : first.Admits (Heeded operations orgID) turn)
    (distinctToo : second.Admits (Distinct config) turn)
    (heededToo : second.Admits (Heeded others orgID) turn) :
    Twins config world operations others orgID
      (first.step (exec config) turn.1 turn.2)
      (second.step (exec config) turn.1 turn.2) := by
  have back : ∀ thread, (others thread).orgID = orgID ∨
      (operations thread).orgID = orgID → others thread = operations thread :=
    fun thread owns => (same thread owns.symm).symm
  have after := twins.left.step provisioned plain distinct heeded
  have afterToo := twins.right.step provisioned plainToo distinctToo heededToo
  rcases twins.threads turn.1 own with ⟨equal, acts⟩ | ⟨idle, idleToo⟩
  swap
  · have one := (twins.step_idle provisioned plain idle idleToo distinct
      heeded).symm same
    exact (one.step_idle provisioned plainToo idleToo (idle_step idle)
      distinctToo heededToo).symm back
  cases program : first.threads turn.1 with
  | ret value =>
      have one := (twins.step_ret after program).symm same
      exact (one.step_ret afterToo (equal ▸ program)).symm back
  | call request following =>
      have programToo : second.threads turn.1 = .call request following :=
        equal ▸ program
      have ownToo : (others turn.1).orgID = orgID :=
        same turn.1 (.inl own) ▸ own
      have actsToo : (others turn.1).simulates = false :=
        same turn.1 (.inl own) ▸ acts
      have heeds : ∀ key ∈ request.consults,
          ¬ (Overrun operations orgID first.history.marks key ∨
            Overrun others orgID second.history.marks key) := by
        rintro key consulted (⟨owner, last, other⟩ | ⟨owner, last, other⟩)
        · exact other (heeded _ _ program own acts key consulted owner last)
        · exact other
            (heededToo _ _ programToo ownToo actsToo key consulted owner last)
      obtain ⟨answers, share⟩ := twins.share_next same turn.2 own program
        heeds
      rw [Pool.step_of_call (exec config) program] at after ⊢
      rw [Pool.step_of_call (exec config) programToo] at afterToo ⊢
      refine ⟨after, afterToo, share, ?_, ?_⟩
      · refine (sameTools_exec twins.tools request turn.2).mono ?_
        rintro key ⟨gone | gone, kept⟩
        · exact .inl ((overrun_next_own own).mpr ⟨gone, kept⟩)
        · exact .inr ((overrun_next_own ownToo).mpr ⟨gone, kept⟩)
      · intro other owns
        by_cases self : other = turn.1
        · subst self
          simp only [Function.update_self]
          rcases answers with reply | ⟨dismissed, dismissedToo⟩
          · exact .inl ⟨congrArg following reply, acts⟩
          · refine .inr ⟨.inl ?_, .inl ?_⟩
            · rw [History.view_next_self]
              exact dismissed
            · rw [History.view_next_self]
              exact dismissedToo
        · simp only [Function.update_of_ne self]
          exact (twins.threads other owns).imp_right fun idle =>
            ⟨idle_next idle.1, idle_next idle.2⟩

end Twins

/-- In two runs with the same calls of one organization, in which every tool
that it looks up was last registered for itself, its actions have the same
classes and decisions, and its dispatches go to the servers that it has
registered, with the tokens that it has registered. -/
theorem organization_unaffected (provisioned : world.Provisioned config)
    {operations others : Nat → Operation} {orgID : String}
    (plainOrg : Plain orgID)
    (plain : ∀ thread, Plain (operations thread).orgID)
    (plainToo : ∀ thread, Plain (others thread).orgID)
    (same : ∀ thread, (operations thread).orgID = orgID ∨
      (others thread).orgID = orgID → operations thread = others thread)
    {schedule otherSchedule : List (Nat × Env)}
    (order :
      (schedule.filter fun turn => (operations turn.1).orgID = orgID) =
        otherSchedule.filter fun turn => (others turn.1).orgID = orgID)
    (distinct : DistinctSchedule config world operations schedule)
    (distinctToo : DistinctSchedule config world others otherSchedule)
    (heeded : HeededSchedule config world operations orgID schedule)
    (heededToo : HeededSchedule config world others orgID otherSchedule) :
    (∀ id,
      (interleaved config world operations
          schedule).history.state.ledger.getAction orgID id =
        (interleaved config world others
          otherSchedule).history.state.ledger.getAction orgID id) ∧
      Throughout (Served config operations orgID)
        (interleaved config world operations schedule).history.marks := by
  have back : ∀ thread, (others thread).orgID = orgID ∨
      (operations thread).orgID = orgID → others thread = operations thread :=
    fun thread owns => (same thread owns.symm).symm
  have watched : ∀ thread, decide ((others thread).orgID = orgID) =
      decide ((operations thread).orgID = orgID) := by
    intro thread
    rw [decide_eq_decide]
    constructor
    · exact fun own => same thread (.inr own) ▸ own
    · exact fun own => same thread (.inl own) ▸ own
  simp only [watched] at order
  have start : Twins config world operations others orgID
      (Pool.start world fun thread => (operations thread).program config)
      (Pool.start world fun thread => (others thread).program config) := by
    refine ⟨.start provisioned plain, .start provisioned plainToo, .refl _ _,
      ⟨fun _ _ => rfl, fun _ _ => rfl, rfl, rfl⟩, ?_⟩
    intro thread own
    have equal := same thread (.inl own)
    cases asks : (operations thread).simulates with
    | true => exact .inr ⟨.inr asks, .inr (equal ▸ asks)⟩
    | false =>
        refine .inl ⟨?_, rfl⟩
        simp only [Pool.start, equal]
  have twins := Pool.run_unwinding (exec config)
    (fun thread => decide ((operations thread).orgID = orgID))
    (fun first second turn twins other admits =>
      twins.step_other provisioned plain plainOrg (of_decide_eq_false other)
        (fun request following calls => (admits request following calls).1)
        (fun request following calls => (admits request following calls).2))
    (fun first second turn twins other admits => by
      rw [← watched] at other
      exact ((twins.symm same).step_other provisioned plainToo plainOrg
        (of_decide_eq_false other)
        (fun request following calls => (admits request following calls).1)
        (fun request following calls =>
          (admits request following calls).2)).symm back)
    (fun first second turn twins own admits admitsToo =>
      twins.step_own same provisioned plain plainToo (of_decide_eq_true own)
        (fun request following calls => (admits request following calls).1)
        (fun request following calls => (admits request following calls).2)
        (fun request following calls => (admitsToo request following calls).1)
        (fun request following calls => (admitsToo request following calls).2))
    order (distinct.and (exec config) heeded)
    (distinctToo.and (exec config) heededToo) start
  exact ⟨twins.share.getAction, twins.left.served⟩

/-- The tools of a registry are none of a server's if no key starts like
one. -/
theorem bare_of_keys {registry : Registry}
    (keys : ∀ key ∈ registry.handlers.keys,
      "mcp:".toList.isPrefixOf key.toList = false) (name tool : String) :
    registry.handlers.get? (Registry.key (toolName name) tool) = none := by
  apply Table.get?_eq_none_of_notMem
  intro member
  have starts : "mcp:".toList.isPrefixOf
      (Registry.key (toolName name) tool).toList = true := by
    simp [Registry.key, toolName]
  rw [keys _ member] at starts
  cases starts

/-- The registry that a gateway starts with has no tools of servers. -/
theorem bare_registerReal (demoMocks : Bool) (name tool : String) :
    (Registry.registerReal demoMocks Registry.default).handlers.get?
      (Registry.key (toolName name) tool) = none := by
  apply bare_of_keys
  cases demoMocks <;> decide +kernel

namespace Sample

theorem provisioned : Sample.world.Provisioned Sample.config where
  sound :=
    { keyed := Ledger.wellKeyed_empty
      indexed := by simp [Ledger.Indexed, Sample.world, MemoryStore.new,
        Ledger.empty]
      tidy :=
        ⟨Ledger.keyed_set (by simp) rfl, by simp [Sample.world, MemoryStore.new]⟩ }
  chained := Ledger.wellChained_empty _
  unserved := rfl
  bare := bare_registerReal true
  restores := by simp [Sample.world, MemoryStore.new]

/-- The environment of a call when every server lists one tool. -/
def listing (number : Nat) : Env :=
  { env number with
    catalog := .ok [{ name := "lookup", description := "" }]
    outside := { (env number).outside with
      upstream := .response 200 "" (.ok ⟨none, some ("", none)⟩) } }

def listings (first : Nat) (threads : List Nat) : List (Nat × Env) :=
  (threads.zipIdx first).map fun entry => (entry.1, listing entry.2)

/-- The operator of an organization registers the server `crm`. -/
def registerCRM (orgID url token cls : String) : Operation :=
  .http
    { caller := some
        { orgID := orgID, agentID := "", operator := true, name := "ops" }
      traceID := ""
      route := .registerMCPServer
        { failed := false
          value :=
            { name := "crm", url := url, authToken := token
              classes := [("lookup", [cls])] } } }

/-- One organization registers a server, opens a transaction, proposes a call
of the server's tool and executes it; another one registers a server of that
name. -/
def tenants : Nat → Operation :=
  threads
    [registerCRM "acme" "https://acme.example" "a" "READ_ONLY", create,
      propose "id5" "mcp:crm" "lookup" none "k1", execute "id9",
      registerCRM "globex" "https://globex.example" "g" "DESTRUCTIVE"]

theorem plain_tenants : ∀ thread, Plain (tenants thread).orgID
  | 0 | 1 | 2 | 3 | 4 => by decide
  | _ + 5 => show Plain "acme" by decide

/-- The first organization registers its server. -/
def registerTurns : List (Nat × Env) := listings 0 [0, 0, 0, 0]

/-- It opens the transaction and proposes the call. -/
def proposeTurns : List (Nat × Env) :=
  listings 4 ([1, 1] ++ List.replicate 12 2)

/-- It executes the call. -/
def executeTurns : List (Nat × Env) := listings 18 (List.replicate 12 3)

/-- The other organization registers its server. -/
def otherTurns : List (Nat × Env) := listings 100 [4, 4, 4, 4]

/-- The turns of the first organization alone. -/
def ownTurns : List (Nat × Env) := registerTurns ++ proposeTurns ++ executeTurns

/-- The run of the two organizations under a schedule. -/
def shared (schedule : List (Nat × Env)) :
    Pool Call Call.Resp Env World Outcome :=
  interleaved Sample.config Sample.world tenants schedule

/-- The classes of the proposed action and the effect decided for it. -/
def judged (schedule : List (Nat × Env)) :
    Option (List ActionClass × Option PolicyEffect) :=
  ((shared schedule).history.state.ledger.getAction "acme" "id9").map
    fun action => (action.classes, action.decision.map (·.effect))

end Sample

theorem organization_unaffected_tenants :
    (∀ id,
      (Sample.shared Sample.ownTurns).history.state.ledger.getAction "acme" id =
        (Sample.shared (Sample.otherTurns ++
          Sample.ownTurns)).history.state.ledger.getAction "acme" id) ∧
      Throughout (Served Sample.config Sample.tenants "acme")
        (Sample.shared Sample.ownTurns).history.marks :=
  organization_unaffected Sample.provisioned (by decide) Sample.plain_tenants
    Sample.plain_tenants (fun _ _ => rfl) rfl (by decide +kernel)
    (by decide +kernel) (by decide +kernel) (by decide +kernel)

/-- A server of the same name that another organization registers takes the
place of the first one: the classes and the decision change, and a call that
was allowed before is sent to the other organization's server. -/
theorem other_server_takes_over :
    Sample.world.Provisioned Sample.config ∧
      (Sample.registerTurns ++ Sample.proposeTurns =
        (Sample.registerTurns ++ Sample.otherTurns ++
          Sample.proposeTurns).filter fun turn =>
            (Sample.tenants turn.1).orgID = "acme") ∧
      DistinctSchedule Sample.config Sample.world Sample.tenants
        (Sample.registerTurns ++ Sample.proposeTurns) ∧
      DistinctSchedule Sample.config Sample.world Sample.tenants
        (Sample.registerTurns ++ Sample.otherTurns ++ Sample.proposeTurns) ∧
      Sample.judged (Sample.registerTurns ++ Sample.proposeTurns) =
        some ([.readOnly], some .allow) ∧
      Sample.judged (Sample.registerTurns ++ Sample.otherTurns ++
        Sample.proposeTurns) =
          some ([.destructive], some .requireApproval) ∧
      DistinctSchedule Sample.config Sample.world Sample.tenants
        (Sample.registerTurns ++ Sample.proposeTurns ++ Sample.otherTurns ++
          Sample.executeTurns) ∧
      (((Sample.shared (Sample.registerTurns ++ Sample.proposeTurns ++
        Sample.otherTurns ++ Sample.executeTurns)).history.marks.filter
          fun mark => mark.caller = 3).flatMap
            (sentBy Sample.config)).map (fun sent => (sent.url, sent.token)) =
        [("https://globex.example", "g")] :=
  ⟨Sample.provisioned, rfl, by decide +kernel, by decide +kernel,
    by decide +kernel, by decide +kernel, by decide +kernel, by decide +kernel⟩

end SettleAgent
