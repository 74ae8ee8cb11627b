import Mathlib.Algebra.Group.Int.Defs
import Ax.Foundation.KeyedMap
import Ax.Foundation.Result
import Ax.Daemon.Team.Overlay

/-!
# The team controller

The stored team states, the apply leases, and the pieces of `begin_apply` and
`finish_apply` between two accesses to shared data.  Planning reads the stored
state once and takes no lease; the lease table is locked from the lease check
of `begin_apply` to the issue of its ticket, and in `finish_apply` only while
the lease is looked up and removed.

Main results:

- Theorem `planInner_spec`: a plan continues the state stored when it was made.
- Theorem `persistedState_spec`: what is stored for a plan has the team, the
  revision and the overlay of the plan.
-/

namespace Ax.Daemon

abbrev TeamStateMap : Type :=
  KeyedMap String TeamReconfigureState TeamReconfigureState.teamId

structure TeamStateStore where
  filePath : Option String
  inner : TeamStateMap
  file : FileContent (List TeamReconfigureState)

namespace TeamStateStore

def inMemory : TeamStateStore where
  filePath := none
  inner := KeyedMap.empty
  file := .absent

def get (s : TeamStateStore) (teamId : String) : Option TeamReconfigureState :=
  s.inner.get teamId

def persistLocked (s : TeamStateStore) (write : WriteOutcome) :
    Except TeamStateError Unit × TeamStateStore :=
  match s.filePath with
  | none => (.ok (), s)
  | some _ =>
    let written := { s with file := s.file.replace write s.inner.values }
    match write with
    | .done => (.ok (), written)
    | .encodeFailed source => (.error (.encode source), written)
    | .writeFailed reason => (.error (.persist reason), written)

@[simp]
lemma persistLocked_inner (s : TeamStateStore) (write : WriteOutcome) :
    (s.persistLocked write).2.inner = s.inner := by
  unfold persistLocked
  split
  · rfl
  · dsimp only
    split <;> rfl

def put (s : TeamStateStore) (write : WriteOutcome) (state : TeamReconfigureState) :
    Except TeamStateError Unit × TeamStateStore :=
  persistLocked { s with inner := s.inner.put state } write

@[simp]
lemma put_inner (s : TeamStateStore) (write : WriteOutcome) (state : TeamReconfigureState) :
    (s.put write state).2.inner = s.inner.put state := by
  rw [put, persistLocked_inner]

end TeamStateStore

structure TeamApplyLease where
  teamId : String
  token : String
  startedAt : Timestamp
  expiry : Timestamp
  reconcileMode : TeamReconcileMode
deriving DecidableEq, Repr

abbrev LeaseMap : Type :=
  KeyedMap String TeamApplyLease TeamApplyLease.teamId

/-- `TEAM_APPLY_LEASE_TTL`. -/
def teamApplyLeaseTtl : Int :=
  seconds 120

/-- `MANAGED_TEAMS_DIR`. -/
def managedTeamsDir : String :=
  "managed-teams"

/-- `DateTime::timestamp_nanos_opt` with the default 0. -/
def Timestamp.nanosOrZero (t : Timestamp) : Int :=
  if -2 ^ 63 ≤ t ∧ t < 2 ^ 63 then t else 0

namespace Team

/-- `parse_bool_flag`. -/
def parseBoolFlag (value : String) : Bool :=
  Text.toAsciiLowercase (Text.trim value) ∈ ["1", "true", "yes", "on", "enabled"]

/-- `feature_enabled`. -/
def featureEnabled (env : TeamEnv) : Bool :=
  env.flag.any parseBoolFlag

/-- `ticket_token`. -/
def ticketToken (env : TeamEnv) (teamId : String) (now : Timestamp) : String :=
  s!"{env.shortTeamHash teamId}-{Timestamp.nanosOrZero now}"

/-! ## Planning -/

/-- `current_state`: the stored state of a team, or the state of a team that was
never reconfigured. -/
def currentState (env : TeamEnv) (inner : TeamStateMap) (base : String) (feature : Bool) :
    Except TeamError TeamReconfigureState :=
  match inner.get base with
  | some state =>
    .ok { state with
      featureEnabled := feature
      baseConfigPath :=
        if Text.trim state.baseConfigPath = "" then base else state.baseConfigPath
      effectiveConfigPath :=
        if Text.trim state.effectiveConfigPath = "" then base else state.effectiveConfigPath }
  | none =>
    (summarizeCurrentDesired env base).map fun desired =>
      { teamId := base
        baseConfigPath := base
        effectiveConfigPath := base
        featureEnabled := feature
        revision := 0
        overlay := TeamOverlay.default
        desired := desired
        lastApply := none }

/-- `effective_config_path`: where the effective configuration of a team is
saved; a plan gets a file of its own. -/
def effectiveConfigPath (env : TeamEnv) (stateDir base : String) (persist : Bool) :
    Except TeamError String := do
  let dir := Path.join stateDir managedTeamsDir
  (env.files.createDirAll dir).mapError (.mkState dir)
  let hash := env.shortTeamHash base
  if persist then .ok (Path.join dir s!"{hash}.yaml")
  else .ok (Path.join dir s!"{hash}-plan-{Timestamp.nanosOrZero env.now}.yaml")

/-- What `materialize_state` gives: the path of the effective configuration, the
summary, and the two loaded forms. -/
structure Materialized where
  path : String
  desired : TeamConfiguredState
  cfg : Config
  tree : Config.ProjectNode

/-- `materialize_state`. -/
def materializeState (env : TeamEnv) (stateDir base : String) (overlay : TeamOverlay)
    (persist : Bool) : Except TeamError Materialized :=
  if overlayHasChanges overlay then do
    let rawCfg ← materializeRawConfig env base overlay
    let path ← effectiveConfigPath env stateDir base persist
    (env.files.save path rawCfg).mapError (.save path)
    let cfg ← loadConfig env path
    let tree ← loadTree env path
    .ok ⟨path, buildDesiredSummary env rawCfg cfg tree, cfg, tree⟩
  else do
    let cfg ← loadConfig env base
    let tree ← loadTree env base
    let raw ← loadRawConfig env base
    .ok ⟨base, buildDesiredSummary env raw cfg tree, cfg, tree⟩

/-- The arguments of `begin_apply`. -/
structure ApplyRequest where
  configPath : String
  expectedRevision : Option Int
  changes : List TeamReconfigureChange
  mode : Option TeamReconcileMode

def checkRevision (expectedRevision : Option Int) (revision : Int) : Except TeamError Unit :=
  match expectedRevision with
  | none => .ok ()
  | some want => if revision = want then .ok () else .error (.revisionMismatch want revision)

/-- `plan_inner`. -/
def planInner (env : TeamEnv) (stateDir : String) (inner : TeamStateMap)
    (request : ApplyRequest) (feature : Bool) : Except TeamError TeamReconfigurePlan := do
  let base ← canonicalConfigPath env request.configPath
  let current ← currentState env inner base feature
  checkRevision request.expectedRevision current.revision
  let currentCfgPath :=
    if Text.trim current.effectiveConfigPath = "" then current.baseConfigPath
    else current.effectiveConfigPath
  let currentCfg ← loadConfig env currentCfgPath
  let currentTree ← loadTree env currentCfgPath
  let (nextOverlay, warnings) ← applyChanges env base current.overlay request.changes
  let next ← materializeState env stateDir base nextOverlay false
  .ok
    { state :=
        { current with
          revision := current.revision + 1
          overlay := nextOverlay
          effectiveConfigPath := next.path
          desired := next.desired
          featureEnabled := feature }
      expectedRevision := current.revision
      changes := request.changes
      actions := diffTeamActions env currentCfg currentTree next.cfg next.tree
      warnings := warnings }

def storedRevision (inner : TeamStateMap) (team : String) : Int :=
  ((inner.get team).map TeamReconfigureState.revision).getD 0

def storedOverlay (inner : TeamStateMap) (team : String) : TeamOverlay :=
  ((inner.get team).map TeamReconfigureState.overlay).getD TeamOverlay.default

lemma storedRevision_put (inner : TeamStateMap) (state : TeamReconfigureState) (team : String) :
    storedRevision (inner.put state) team =
      if team = state.teamId then state.revision else storedRevision inner team := by
  unfold storedRevision
  rw [KeyedMap.get_put]
  split <;> rfl

lemma storedOverlay_put (inner : TeamStateMap) (state : TeamReconfigureState) (team : String) :
    storedOverlay (inner.put state) team =
      if team = state.teamId then state.overlay else storedOverlay inner team := by
  unfold storedOverlay
  rw [KeyedMap.get_put]
  split <;> rfl

variable {env : TeamEnv} {inner : TeamStateMap} {stateDir : String}

lemma currentState_spec {base : String} {feature : Bool} {state : TeamReconfigureState}
    (h : currentState env inner base feature = .ok state) :
    state.teamId = base ∧ state.revision = storedRevision inner base ∧
      state.overlay = storedOverlay inner base := by
  unfold currentState at h
  unfold storedRevision storedOverlay
  split at h
  · rename_i stored hget
    obtain rfl := Except.ok.inj h
    simp [hget, KeyedMap.key_of_get hget]
  · rename_i hget
    obtain ⟨desired, _, rfl⟩ := Result.map_eq_ok.mp h
    simp [hget]

lemma eq_of_checkRevision {expected : Option Int} {revision want : Int}
    (h : checkRevision expected revision = .ok ()) (hwant : expected = some want) :
    revision = want := by
  subst hwant
  simp only [checkRevision] at h
  split at h
  · assumption
  · cases h

structure Continues (env : TeamEnv) (request : ApplyRequest) (revision : Int)
    (overlay : TeamOverlay) (plan : TeamReconfigurePlan) : Prop where
  expected : plan.expectedRevision = revision
  asked : ∀ want, request.expectedRevision = some want → revision = want
  next : plan.state.revision = revision + 1
  changes : ∃ warnings, applyChanges env plan.state.teamId overlay request.changes =
    .ok (plan.state.overlay, warnings)

/-- A plan continues the state stored when it was made. -/
theorem planInner_spec {request : ApplyRequest} {feature : Bool} {plan : TeamReconfigurePlan}
    (h : planInner env stateDir inner request feature = .ok plan) :
    Continues env request (storedRevision inner plan.state.teamId)
      (storedOverlay inner plan.state.teamId) plan := by
  obtain ⟨base, _, h⟩ := Result.bind_eq_ok.mp h
  obtain ⟨current, hcurrent, h⟩ := Result.bind_eq_ok.mp h
  obtain ⟨⟨⟩, hcheck, h⟩ := Result.bind_eq_ok.mp h
  obtain ⟨currentCfg, _, h⟩ := Result.bind_eq_ok.mp h
  obtain ⟨currentTree, _, h⟩ := Result.bind_eq_ok.mp h
  obtain ⟨⟨nextOverlay, warnings⟩, happly, h⟩ := Result.bind_eq_ok.mp h
  obtain ⟨next, _, h⟩ := Result.bind_eq_ok.mp h
  obtain rfl := Except.ok.inj h
  obtain ⟨hteam, hrevision, hoverlay⟩ := currentState_spec hcurrent
  dsimp only at happly ⊢
  rw [hteam, ← hrevision, ← hoverlay]
  exact ⟨rfl, fun want hwant => eq_of_checkRevision hcheck hwant, rfl, warnings, happly⟩

/-! ## The pieces of `begin_apply` -/

/-- What `begin_apply` keeps from its planning. -/
structure PlannedApply where
  feature : Bool
  mode : TeamReconcileMode
  plan : TeamReconfigurePlan

/-- The start of `begin_apply`: the feature check and the plan. -/
def planApply (env : TeamEnv) (stateDir : String) (inner : TeamStateMap)
    (request : ApplyRequest) : Except TeamError PlannedApply :=
  let feature := featureEnabled env
  if feature then
    (planInner env stateDir inner request feature).map fun plan =>
      ⟨feature, request.mode.getD .artifactsOnly, plan⟩
  else .error (.featureDisabled experimentalMcpTeamReconfigureFlagKey)

/-- The lease check of `begin_apply`, made under the lock. -/
def checkLease (leases : LeaseMap) (teamId : String) (now : Timestamp) :
    Except TeamError Unit :=
  match leases.get teamId with
  | none => .ok ()
  | some active => if active.expiry > now then .error (.applyInProgress teamId) else .ok ()

/-- The state that `begin_apply` stores for a plan. -/
def persistedState (env : TeamEnv) (stateDir : String) (apply : PlannedApply) :
    Except TeamError TeamReconfigureState :=
  let state := apply.plan.state
  (materializeState env stateDir state.baseConfigPath state.overlay true).map fun m =>
    { state with
      effectiveConfigPath := m.path
      desired := m.desired
      featureEnabled := apply.feature }

def issueTicket (env : TeamEnv) (apply : PlannedApply) (state : TeamReconfigureState)
    (now : Timestamp) : TeamApplyLease × TeamApplyTicket :=
  let token := ticketToken env state.teamId now
  ({ teamId := state.teamId
     token := token
     startedAt := now
     expiry := now + teamApplyLeaseTtl
     reconcileMode := apply.mode },
   { token := token
     plan := { apply.plan with state := state }
     reconcileMode := apply.mode })

lemma planApply_spec {request : ApplyRequest} {apply : PlannedApply}
    (h : planApply env stateDir inner request = .ok apply) :
    Continues env request (storedRevision inner apply.plan.state.teamId)
      (storedOverlay inner apply.plan.state.teamId) apply.plan := by
  unfold planApply at h
  dsimp only at h
  split at h
  · obtain ⟨plan, hplan, rfl⟩ := Result.map_eq_ok.mp h
    exact planInner_spec hplan
  · cases h

/-- What is stored for a plan has the team, the revision and the overlay of the
plan. -/
theorem persistedState_spec {apply : PlannedApply} {state : TeamReconfigureState}
    (h : persistedState env stateDir apply = .ok state) :
    state.teamId = apply.plan.state.teamId ∧ state.revision = apply.plan.state.revision ∧
      state.overlay = apply.plan.state.overlay := by
  obtain ⟨m, _, rfl⟩ := Result.map_eq_ok.mp h
  exact ⟨rfl, rfl, rfl⟩

/-! ## The pieces of `finish_apply` -/

/-- The arguments of `finish_apply`. -/
structure FinishRequest where
  token : String
  success : Bool
  errText : String
  actions : List TeamReconfigureAction

def releaseLease (leases : LeaseMap) (token : String) :
    Except TeamError (TeamApplyLease × LeaseMap) :=
  match leases.values.find? fun active => active.token = token with
  | none => .error (.tokenNotFound token)
  | some lease => .ok (lease, leases.remove lease.teamId)

/-- The report that `finish_apply` records. -/
def applyReport (lease : TeamApplyLease) (request : FinishRequest) (now : Timestamp) :
    TeamApplyReport where
  startedAt := lease.startedAt
  finishedAt := some now
  success := request.success
  error := Text.trim request.errText
  reconcileMode := some lease.reconcileMode
  actions := request.actions

end Team
end Ax.Daemon
