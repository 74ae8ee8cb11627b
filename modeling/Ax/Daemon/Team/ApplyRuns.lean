import Ax.Foundation.Execution
import Ax.Daemon.Team.Controller

/-!
# Interleaved team applies

Any number of `begin_apply` and `finish_apply` calls run against one controller,
each cut at its accesses to shared data.  A call that holds the lock of the
lease table keeps others from taking it, but neither the planning of a
`begin_apply` nor the load and the put of a `finish_apply` takes that lock.

For the specification, `Traced` adds to a run what the code does not keep: the
change lists that were put for each team, and how many of them were there when
a call read the stored state.

Main results:

- Theorem `Traced.lift`: the instrumentation restricts no run.
- Theorem `Traced.Step.effect`: what a step can do, in five cases.
-/

namespace Ax.Daemon
namespace Team

/-- How far a call has come. -/
inductive Phase
  | idle
  | planned (apply : PlannedApply)
  | admitted (apply : PlannedApply) (now : Timestamp)
  | persisted (apply : PlannedApply) (now : Timestamp) (state : TeamReconfigureState)
  | issued (answer : Except TeamError TeamApplyTicket)
  | released (feature : Bool) (lease : TeamApplyLease) (report : TeamApplyReport)
  | loaded (feature : Bool) (report : TeamApplyReport) (state : TeamReconfigureState)
  | reported (answer : Except TeamError TeamReconfigureState)

/-- A controller with the calls that run against it.  `holder` is the call that
holds the lock of the lease table between two of its steps. -/
structure System where
  stateDir : String
  store : TeamStateStore
  leases : LeaseMap
  holder : Option Nat
  calls : Nat → Phase

/-- The steps of the calls.  A call is known by a number; a step that reads
something from outside carries its readings. -/
inductive Label
  | plan (c : Nat) (env : TeamEnv) (request : ApplyRequest)
  | check (c : Nat) (env : TeamEnv)
  | persist (c : Nat) (env : TeamEnv)
  | issue (c : Nat) (env : TeamEnv)
  | release (c : Nat) (env : TeamEnv) (request : FinishRequest)
  | load (c : Nat)
  | report (c : Nat) (env : TeamEnv)

namespace System

/-- The system with call `c` in another phase. -/
def setCall (s : System) (c : Nat) (phase : Phase) : System :=
  { s with calls := Function.update s.calls c phase }

/-- What `finish_apply` puts: the loaded state with a new report. -/
def withReport (feature : Bool) (report : TeamApplyReport) (state : TeamReconfigureState) :
    TeamReconfigureState :=
  { state with featureEnabled := feature, lastApply := some report }

@[simp]
lemma withReport_teamId (feature : Bool) (report : TeamApplyReport)
    (state : TeamReconfigureState) :
    (withReport feature report state).teamId = state.teamId :=
  rfl

/-- One step of one call; `none` if the call is not at that step or has to wait
for the lock. -/
def step (s : System) : Label → Option System
  | .plan c env request =>
    match s.calls c with
    | .idle =>
      match planApply env s.stateDir s.store.inner request with
      | .error e => some (s.setCall c (.issued (.error e)))
      | .ok apply => some (s.setCall c (.planned apply))
    | _ => none
  | .check c env =>
    match s.calls c, s.holder with
    | .planned apply, none =>
      match checkLease s.leases apply.plan.state.teamId env.now with
      | .error e => some (s.setCall c (.issued (.error e)))
      | .ok () => some ({ s with holder := some c }.setCall c (.admitted apply env.now))
    | _, _ => none
  | .persist c env =>
    match s.calls c with
    | .admitted apply now =>
      match persistedState env s.stateDir apply with
      | .error e => some ({ s with holder := none }.setCall c (.issued (.error e)))
      | .ok state =>
        let (answer, store) := s.store.put env.write state
        match answer with
        | .error e =>
          some ({ s with store := store, holder := none }.setCall c
            (.issued (.error (.persist e))))
        | .ok () => some ({ s with store := store }.setCall c (.persisted apply now state))
    | _ => none
  | .issue c env =>
    match s.calls c with
    | .persisted apply now state =>
      let (lease, ticket) := issueTicket env apply state now
      some ({ s with leases := s.leases.put lease, holder := none }.setCall c
        (.issued (.ok ticket)))
    | _ => none
  | .release c env request =>
    match s.calls c, s.holder with
    | .idle, none =>
      match releaseLease s.leases request.token with
      | .error e => some (s.setCall c (.reported (.error e)))
      | .ok (lease, leases) =>
        some ({ s with leases := leases }.setCall c
          (.released (featureEnabled env) lease (applyReport lease request env.now)))
    | _, _ => none
  | .load c =>
    match s.calls c with
    | .released feature lease report =>
      match s.store.get lease.teamId with
      | none => some (s.setCall c (.reported (.error (.stateNotFound lease.teamId))))
      | some state => some (s.setCall c (.loaded feature report state))
    | _ => none
  | .report c env =>
    match s.calls c with
    | .loaded feature report state =>
      let next := withReport feature report state
      let (answer, store) := s.store.put env.write next
      some ({ s with store := store }.setCall c
        (.reported ((answer.mapError TeamError.persist).map fun _ => next)))
    | _ => none

def Step (s : System) (a : Label) (s' : System) : Prop :=
  s.step a = some s'

structure Idle (s : System) : Prop where
  holder : s.holder = none
  calls : ∀ c, s.calls c = .idle

def putOf (s : System) : Label → Option TeamReconfigureState
  | .persist c env =>
    match s.calls c with
    | .admitted apply _ => (persistedState env s.stateDir apply).toOption
    | _ => none
  | .report c _ =>
    match s.calls c with
    | .loaded feature report state => some (withReport feature report state)
    | _ => none
  | _ => none

end System

/-! ## Instrumented runs -/

structure Planning where
  env : TeamEnv
  request : ApplyRequest
  expectedRevision : Int
  seen : Nat

/-- A system with the history of its puts: the change lists put by
`begin_apply`, by team and in order, how each running `begin_apply` planned, and
how many change lists were there when each running `finish_apply` loaded. -/
structure Traced where
  sys : System
  log : String → List Planning
  plans : Nat → Option Planning
  loads : Nat → Nat

namespace Traced

def start (s : System) : Traced where
  sys := s
  log := fun _ => []
  plans := fun _ => none
  loads := fun _ => 0

/-- The change lists after a step: a put of `begin_apply` adds its own. -/
def logAfter (t : Traced) (a : Label) : String → List Planning :=
  match a, t.sys.putOf a with
  | .persist c _, some state =>
    Function.update t.log state.teamId (t.log state.teamId ++ (t.plans c).toList)
  | _, _ => t.log

def plansAfter (t : Traced) : Label → Nat → Option Planning
  | .plan c env request =>
    match planApply env t.sys.stateDir t.sys.store.inner request with
    | .ok apply =>
      Function.update t.plans c (some
        ⟨env, request, apply.plan.expectedRevision,
          (t.log apply.plan.state.teamId).length⟩)
    | .error _ => t.plans
  | _ => t.plans

def loadsAfter (t : Traced) : Label → Nat → Nat
  | .load c =>
    match t.sys.calls c with
    | .released _ lease _ => Function.update t.loads c (t.log lease.teamId).length
    | _ => t.loads
  | _ => t.loads

def step (t : Traced) (a : Label) : Option Traced :=
  (t.sys.step a).map fun sys => ⟨sys, t.logAfter a, t.plansAfter a, t.loadsAfter a⟩

def Step (t : Traced) (a : Label) (t' : Traced) : Prop :=
  t.step a = some t'

lemma Step.deterministic (t : Traced) (a : Label) (t₁ t₂ : Traced)
    (h₁ : Step t a t₁) (h₂ : Step t a t₂) : t₁ = t₂ :=
  Option.some.inj (h₁.symm.trans h₂)

/-- The instrumentation restricts no run. -/
theorem lift {s s' : System} {as : List Label} (hrun : Exec System.Step s as s')
    (t : Traced) (ht : t.sys = s) : ∃ t', Exec Step t as t' ∧ t'.sys = s' := by
  induction hrun generalizing t with
  | nil s => exact ⟨t, Exec.nil t, ht⟩
  | cons hstep _ ih =>
    subst ht
    obtain ⟨t', hrest, hend⟩ := ih ⟨_, t.logAfter _, t.plansAfter _, t.loadsAfter _⟩ rfl
    refine ⟨t', Exec.cons ?_ hrest, hend⟩
    rw [Step, step, hstep]
    rfl

end Traced

def Phase.plan? : Phase → Option TeamReconfigurePlan
  | .planned apply | .admitted apply _ => some apply.plan
  | _ => none

def Phase.read? : Phase → Option TeamReconfigureState
  | .loaded _ _ state => some state
  | _ => none

structure Phase.Spent (phase : Phase) : Prop where
  plan : phase.plan? = none
  read : phase.read? = none

namespace Traced

inductive Effect (t : Traced) : Label → Traced → Prop
  /-- A call moves on without reading or putting a stored state. -/
  | quiet {a : Label} {t' : Traced} (c : Nat) (phase : Phase)
      (hput : t.sys.putOf a = none)
      (hcalls : t'.sys.calls = Function.update t.sys.calls c phase)
      (hplan : phase.plan? = none ∨ phase.plan? = (t.sys.calls c).plan?)
      (hread : phase.read? = none)
      (hinner : t'.sys.store.inner = t.sys.store.inner)
      (hlog : t'.log = t.log) (hplans : t'.plans = t.plans)
      (hloads : ∀ d, d ≠ c → t'.loads d = t.loads d) : Effect t a t'
  /-- A `begin_apply` plans. -/
  | planned {t' : Traced} (c : Nat) (env : TeamEnv) (request : ApplyRequest)
      (apply : PlannedApply)
      (happly : planApply env t.sys.stateDir t.sys.store.inner request = .ok apply)
      (hcalls : t'.sys.calls = Function.update t.sys.calls c (.planned apply))
      (hinner : t'.sys.store.inner = t.sys.store.inner)
      (hlog : t'.log = t.log)
      (hplans : t'.plans = Function.update t.plans c (some
        ⟨env, request, apply.plan.expectedRevision, (t.log apply.plan.state.teamId).length⟩))
      (hloads : t'.loads = t.loads) : Effect t (.plan c env request) t'
  /-- A `begin_apply` puts the state of its plan. -/
  | stored {t' : Traced} (c : Nat) (env : TeamEnv) (apply : PlannedApply) (now : Timestamp)
      (state : TeamReconfigureState) (phase : Phase)
      (hcall : t.sys.calls c = .admitted apply now)
      (hstate : persistedState env t.sys.stateDir apply = .ok state)
      (hcalls : t'.sys.calls = Function.update t.sys.calls c phase) (hspent : phase.Spent)
      (hinner : t'.sys.store.inner = t.sys.store.inner.put state)
      (hlog : t'.log =
        Function.update t.log state.teamId (t.log state.teamId ++ (t.plans c).toList))
      (hplans : t'.plans = t.plans) (hloads : t'.loads = t.loads) :
      Effect t (.persist c env) t'
  /-- A `finish_apply` loads the stored state. -/
  | loaded {t' : Traced} (c : Nat) (feature : Bool) (report : TeamApplyReport)
      (state : TeamReconfigureState)
      (hget : t.sys.store.inner.get state.teamId = some state)
      (hcalls : t'.sys.calls = Function.update t.sys.calls c (.loaded feature report state))
      (hinner : t'.sys.store.inner = t.sys.store.inner)
      (hlog : t'.log = t.log) (hplans : t'.plans = t.plans)
      (hloads : t'.loads = Function.update t.loads c (t.log state.teamId).length) :
      Effect t (.load c) t'
  /-- A `finish_apply` puts the state back with its report. -/
  | reported {t' : Traced} (c : Nat) (env : TeamEnv) (feature : Bool)
      (report : TeamApplyReport) (state : TeamReconfigureState) (phase : Phase)
      (hcall : t.sys.calls c = .loaded feature report state)
      (hcalls : t'.sys.calls = Function.update t.sys.calls c phase) (hspent : phase.Spent)
      (hinner : t'.sys.store.inner =
        t.sys.store.inner.put (System.withReport feature report state))
      (hlog : t'.log = t.log) (hplans : t'.plans = t.plans) (hloads : t'.loads = t.loads) :
      Effect t (.report c env) t'

/-- Every step has one of the five effects. -/
theorem Step.effect {t t' : Traced} {a : Label} (h : Step t a t') : Effect t a t' := by
  obtain ⟨sys, hsys, rfl⟩ := Option.map_eq_some_iff.mp h
  cases a with
  | plan c env request =>
    simp only [System.step] at hsys
    split at hsys
    · split at hsys
      · rename_i e he
        obtain rfl := Option.some.inj hsys
        refine .quiet c (.issued (.error e)) rfl rfl (.inl rfl) rfl rfl rfl ?_ (fun _ _ => rfl)
        simp only [plansAfter, he]
      · rename_i apply happly
        obtain rfl := Option.some.inj hsys
        refine .planned c env request apply happly rfl rfl rfl ?_ rfl
        simp only [plansAfter, happly]
    · cases hsys
  | check c env =>
    simp only [System.step] at hsys
    split at hsys
    · rename_i apply hcall _
      split at hsys
      · rename_i e _
        obtain rfl := Option.some.inj hsys
        exact .quiet c (.issued (.error e)) rfl rfl (.inl rfl) rfl rfl rfl rfl (fun _ _ => rfl)
      · obtain rfl := Option.some.inj hsys
        refine .quiet c (.admitted apply env.now) rfl rfl (.inr ?_) rfl rfl rfl rfl (fun _ _ => rfl)
        rw [hcall]
        rfl
    · cases hsys
  | persist c env =>
    simp only [System.step] at hsys
    split at hsys
    · rename_i apply now hcall
      split at hsys
      · rename_i e he
        obtain rfl := Option.some.inj hsys
        have hput : t.sys.putOf (.persist c env) = none := by
          simp only [System.putOf, hcall, he]
          rfl
        refine .quiet c (.issued (.error e)) hput rfl (.inl rfl) rfl rfl ?_ rfl (fun _ _ => rfl)
        simp only [logAfter, hput]
      · rename_i state hstate
        have hput : t.sys.putOf (.persist c env) = some state := by
          simp only [System.putOf, hcall, hstate]
          rfl
        have hlog : t.logAfter (.persist c env) = Function.update t.log state.teamId
              (t.log state.teamId ++ (t.plans c).toList) := by
          simp only [logAfter, hput]
        have hinner := TeamStateStore.put_inner t.sys.store env.write state
        split at hsys
        · obtain rfl := Option.some.inj hsys
          exact .stored c env apply now state _ hcall hstate rfl ⟨rfl, rfl⟩ hinner hlog rfl rfl
        · obtain rfl := Option.some.inj hsys
          exact .stored c env apply now state _ hcall hstate rfl ⟨rfl, rfl⟩ hinner hlog rfl rfl
    · cases hsys
  | issue c env =>
    simp only [System.step] at hsys
    split at hsys
    · obtain rfl := Option.some.inj hsys
      exact .quiet c _ rfl rfl (.inl rfl) rfl rfl rfl rfl (fun _ _ => rfl)
    · cases hsys
  | release c env request =>
    simp only [System.step] at hsys
    split at hsys
    · split at hsys
      · obtain rfl := Option.some.inj hsys
        exact .quiet c _ rfl rfl (.inl rfl) rfl rfl rfl rfl (fun _ _ => rfl)
      · obtain rfl := Option.some.inj hsys
        exact .quiet c _ rfl rfl (.inl rfl) rfl rfl rfl rfl (fun _ _ => rfl)
    · cases hsys
  | load c =>
    simp only [System.step] at hsys
    split at hsys
    · rename_i feature lease report hcall
      have hloads : t.loadsAfter (.load c) =
          Function.update t.loads c (t.log lease.teamId).length := by
        simp only [loadsAfter, hcall]
      split at hsys
      · obtain rfl := Option.some.inj hsys
        refine .quiet c _ rfl rfl (.inl rfl) rfl rfl rfl rfl ?_
        intro d hne
        exact (congrFun hloads d).trans (Function.update_of_ne hne _ _)
      · rename_i state hget
        obtain rfl := Option.some.inj hsys
        have hteam : state.teamId = lease.teamId := KeyedMap.key_of_get hget
        rw [← hteam] at hget hloads
        exact .loaded c feature report state hget rfl rfl rfl rfl hloads
    · cases hsys
  | report c env =>
    simp only [System.step] at hsys
    split at hsys
    · rename_i feature report state hcall
      obtain rfl := Option.some.inj hsys
      exact .reported c env feature report state _ hcall rfl ⟨rfl, rfl⟩
        (TeamStateStore.put_inner _ _ _) rfl rfl rfl
    · cases hsys

structure Known (t : Traced) (Plan : Option Planning → TeamReconfigurePlan → Prop)
    (Load : Nat → TeamReconfigureState → Prop) : Prop where
  plans : ∀ c plan, (t.sys.calls c).plan? = some plan → Plan (t.plans c) plan
  loads : ∀ c state, (t.sys.calls c).read? = some state → Load (t.loads c) state

section Known

variable {t t' : Traced} {a : Label} {Plan Plan' : Option Planning → TeamReconfigurePlan → Prop}
  {Load Load' : Nat → TeamReconfigureState → Prop}

lemma Known.frame (h : t.Known Plan Load) {c : Nat} {phase : Phase}
    (hcalls : t'.sys.calls = Function.update t.sys.calls c phase)
    (hplans : ∀ d, d ≠ c → t'.plans d = t.plans d) (hloads : ∀ d, d ≠ c → t'.loads d = t.loads d)
    (hPlan : ∀ p plan, Plan p plan → Plan' p plan) (hLoad : ∀ n state, Load n state → Load' n state)
    (hplan : ∀ plan, phase.plan? = some plan → Plan' (t'.plans c) plan)
    (hread : ∀ state, phase.read? = some state → Load' (t'.loads c) state) :
    t'.Known Plan' Load' := by
  constructor
  · intro d plan hd
    rw [hcalls] at hd
    by_cases hdc : d = c
    · subst hdc
      rw [Function.update_self] at hd
      exact hplan plan hd
    · rw [Function.update_of_ne hdc] at hd
      rw [hplans d hdc]
      exact hPlan _ _ (h.plans d plan hd)
  · intro d state hd
    rw [hcalls] at hd
    by_cases hdc : d = c
    · subst hdc
      rw [Function.update_self] at hd
      exact hread state hd
    · rw [Function.update_of_ne hdc] at hd
      rw [hloads d hdc]
      exact hLoad _ _ (h.loads d state hd)

lemma Effect.known (heffect : t.Effect a t') (h : t.Known Plan Load)
    (hPlan : ∀ p plan, Plan p plan → Plan' p plan) (hLoad : ∀ n state, Load n state → Load' n state)
    (hplanned : ∀ env request apply, t'.log = t.log →
      planApply env t.sys.stateDir t.sys.store.inner request = .ok apply →
      Plan' (some ⟨env, request, apply.plan.expectedRevision,
        (t.log apply.plan.state.teamId).length⟩) apply.plan)
    (hloaded : ∀ state, t'.log = t.log → t'.sys.store.inner = t.sys.store.inner →
      t.sys.store.inner.get state.teamId = some state →
      Load' (t.log state.teamId).length state) :
    t'.Known Plan' Load' := by
  cases heffect with
  | quiet c phase _ hcalls hplan hread _ _ hplans hloads =>
    refine h.frame hcalls (fun d _ => by rw [hplans]) hloads hPlan hLoad ?_ (by simp [hread])
    intro plan hp
    rw [hplans]
    rcases hplan with hnone | hsame
    · rw [hnone] at hp
      cases hp
    · rw [hsame] at hp
      exact hPlan _ _ (h.plans c plan hp)
  | planned c env request apply happly hcalls _ hlog hplans hloads =>
    refine h.frame hcalls (fun d hd => by rw [hplans, Function.update_of_ne hd])
      (fun d _ => by rw [hloads]) hPlan hLoad ?_ (by simp [Phase.read?])
    intro plan hp
    obtain rfl := Option.some.inj hp
    rw [hplans, Function.update_self]
    exact hplanned env request apply hlog happly
  | stored c _ _ _ _ _ _ _ hcalls hspent _ _ hplans hloads =>
    exact h.frame hcalls (fun d _ => by rw [hplans]) (fun d _ => by rw [hloads]) hPlan hLoad
      (by simp [hspent.plan]) (by simp [hspent.read])
  | loaded c feature report state hget hcalls hinner hlog hplans hloads =>
    refine h.frame hcalls (fun d _ => by rw [hplans])
      (fun d hd => by rw [hloads, Function.update_of_ne hd]) hPlan hLoad (by simp [Phase.plan?]) ?_
    intro loaded hs
    obtain rfl := Option.some.inj hs
    rw [hloads, Function.update_self]
    exact hloaded state hlog hinner hget
  | reported c _ _ _ _ _ _ hcalls hspent _ _ hplans hloads =>
    exact h.frame hcalls (fun d _ => by rw [hplans]) (fun d _ => by rw [hloads]) hPlan hLoad
      (by simp [hspent.plan]) (by simp [hspent.read])

end Known

end Traced
end Team
end Ax.Daemon
