import Ax.Daemon.Team.ApplyRuns

/-!
# Team applies as compare-and-set

A `begin_apply` checks the revision and computes the next overlay when it
plans, and puts the result later, after it got the lease.  This file says when
the put nevertheless acts as a compare-and-set on the stored state: exactly in
the runs in which no other change list was put for the team between the read
and the put of any call.

Main results:

- Theorem `applies_serial_iff`: a run of applies is serial exactly if all its puts are.
- Theorem `applies_not_serial`: two applies that both replace revision 0.
-/

namespace Ax.Daemon
namespace Team

def replay (team : String) (log : List Planning) (overlay : TeamOverlay) :
    Except TeamError TeamOverlay :=
  log.foldlM (fun overlay p =>
    (applyChanges p.env team overlay p.request.changes).map Prod.fst) overlay

variable {log : List Planning} {p : Planning} {s₀ : System} {state : TeamReconfigureState} {c : Nat}
  {t t' : Traced} {a : Label}

lemma replay_snoc {team : String} {overlay₀ overlay next : TeamOverlay} {warnings : List String}
    (hlog : replay team log overlay₀ = .ok overlay)
    (hnext : applyChanges p.env team overlay p.request.changes = .ok (next, warnings)) :
    replay team (log ++ [p]) overlay₀ = .ok next := by
  unfold replay at hlog ⊢
  rw [List.foldlM_append, hlog]
  apply Result.bind_eq_ok.mpr
  refine ⟨overlay, rfl, ?_⟩
  apply Result.bind_eq_ok.mpr
  exact ⟨next, Result.map_eq_ok.mpr ⟨_, hnext, rfl⟩, rfl⟩

/-! ## Serial histories -/

/-- The puts for one team since `s₀` came one after the other: each change list
was accepted for a revision of its own, counting up from the first, the stored
revision counts them, and the stored overlay is the result of all of them. -/
structure SerialFor (s₀ : System) (t : Traced) (team : String) : Prop where
  expected : ∀ (i : Nat) (p : Planning), (t.log team)[i]? = some p →
    p.expectedRevision = storedRevision s₀.store.inner team + i
  revision : storedRevision t.sys.store.inner team =
    storedRevision s₀.store.inner team + (t.log team).length
  overlay : replay team (t.log team) (storedOverlay s₀.store.inner team) =
    .ok (storedOverlay t.sys.store.inner team)

def Serial (s₀ : System) (t : Traced) : Prop :=
  ∀ team, SerialFor s₀ t team

/-- The put of a `begin_apply` replaces a stored state of the revision that the
plan, and the client if it named one, expects, by a state of the next revision,
whose overlay is the stored one with the requested changes. -/
def CompareAndSet (t : Traced) (a : Label) : Prop :=
  ∀ c env apply now state, a = .persist c env → t.sys.calls c = .admitted apply now →
    persistedState env t.sys.stateDir apply = .ok state →
    ∃ p, t.plans c = some p ∧
      Continues p.env p.request (storedRevision t.sys.store.inner state.teamId)
        (storedOverlay t.sys.store.inner state.teamId) { apply.plan with state := state }

def Traced.basis (t : Traced) (a : Label) : Option (String × Nat) :=
  match a, t.sys.putOf a with
  | .persist c _, some state => (t.plans c).map fun p => (state.teamId, p.seen)
  | .report c _, some state => some (state.teamId, t.loads c)
  | _, _ => none

def Undisturbed (t : Traced) (a : Label) : Prop :=
  ∀ team seen, t.basis a = some (team, seen) → seen = (t.log team).length

def isUndisturbed (t : Traced) (a : Label) : Bool :=
  (t.basis a).all fun (team, seen) => seen == (t.log team).length

lemma undisturbed_of_isUndisturbed (t : Traced) (a : Label) (h : isUndisturbed t a = true) :
    Undisturbed t a := by
  intro team seen hbasis
  simpa [isUndisturbed, hbasis] using h

/-! ## What calls in progress know -/

structure PlanBasis (s₀ : System) (log : List Planning) (p : Planning)
    (plan : TeamReconfigurePlan) : Prop where
  seen_le : p.seen ≤ log.length
  expected : p.expectedRevision = plan.expectedRevision
  continues : ∃ overlay,
    replay plan.state.teamId (log.take p.seen)
      (storedOverlay s₀.store.inner plan.state.teamId) = .ok overlay ∧
    Continues p.env p.request (storedRevision s₀.store.inner plan.state.teamId + p.seen)
      overlay plan

structure LoadBasis (s₀ : System) (log : List Planning) (seen : Nat)
    (state : TeamReconfigureState) : Prop where
  seen_le : seen ≤ log.length
  revision : state.revision = storedRevision s₀.store.inner state.teamId + seen
  overlay : replay state.teamId (log.take seen)
    (storedOverlay s₀.store.inner state.teamId) = .ok state.overlay

lemma PlanBasis.append {plan : TeamReconfigurePlan} (h : PlanBasis s₀ log p plan)
    (more : List Planning) : PlanBasis s₀ (log ++ more) p plan := by
  refine ⟨?_, h.expected, ?_⟩
  · rw [List.length_append]
    exact le_trans h.seen_le (Nat.le_add_right _ _)
  · rw [List.take_append_of_le_length h.seen_le]
    exact h.continues

lemma LoadBasis.append {seen : Nat} (h : LoadBasis s₀ log seen state) (more : List Planning) :
    LoadBasis s₀ (log ++ more) seen state := by
  refine ⟨?_, h.revision, ?_⟩
  · rw [List.length_append]
    exact le_trans h.seen_le (Nat.le_add_right _ _)
  · rw [List.take_append_of_le_length h.seen_le]
    exact h.overlay

structure Grounded (s₀ : System) (t : Traced) : Prop where
  plans : ∀ c plan, (t.sys.calls c).plan? = some plan →
    ∃ p, t.plans c = some p ∧ PlanBasis s₀ (t.log plan.state.teamId) p plan
  loads : ∀ c state, (t.sys.calls c).read? = some state →
    LoadBasis s₀ (t.log state.teamId) (t.loads c) state

/-- What a call in progress knows about the stored states stays true. -/
theorem Grounded.effect (heffect : t.Effect a t') (hserial : Serial s₀ t) (h : Grounded s₀ t) :
    Grounded s₀ t' := by
  have hgrows : ∀ team, ∃ more, t'.log team = t.log team ++ more := by
    intro team
    cases heffect with
    | stored c _ _ _ state _ _ _ _ _ _ hlog =>
      rw [hlog]
      by_cases hteam : team = state.teamId
      · subst hteam
        exact ⟨(t.plans c).toList, Function.update_self _ _ _⟩
      · exact ⟨[], by rw [Function.update_of_ne hteam, List.append_nil]⟩
    | quiet _ _ _ _ _ _ _ hlog => exact ⟨[], by rw [hlog, List.append_nil]⟩
    | planned _ _ _ _ _ _ _ hlog => exact ⟨[], by rw [hlog, List.append_nil]⟩
    | loaded _ _ _ _ _ _ _ hlog => exact ⟨[], by rw [hlog, List.append_nil]⟩
    | reported _ _ _ _ _ _ _ _ _ _ hlog => exact ⟨[], by rw [hlog, List.append_nil]⟩
  have hknown : t.Known
      (fun p plan => ∃ q, p = some q ∧ PlanBasis s₀ (t.log plan.state.teamId) q plan)
      fun seen state => LoadBasis s₀ (t.log state.teamId) seen state := ⟨h.plans, h.loads⟩
  suffices hafter : t'.Known
      (fun p plan => ∃ q, p = some q ∧ PlanBasis s₀ (t'.log plan.state.teamId) q plan)
      fun seen state => LoadBasis s₀ (t'.log state.teamId) seen state from
    ⟨hafter.plans, hafter.loads⟩
  refine heffect.known hknown ?_ ?_ ?_ ?_
  · rintro _ plan ⟨p, rfl, hbasis⟩
    obtain ⟨more, hmore⟩ := hgrows plan.state.teamId
    exact ⟨p, rfl, hmore ▸ hbasis.append more⟩
  · intro seen state hbasis
    obtain ⟨more, hmore⟩ := hgrows state.teamId
    exact hmore ▸ hbasis.append more
  · intro env request apply hlog happly
    have hteam := hserial apply.plan.state.teamId
    rw [hlog]
    refine ⟨_, rfl, le_rfl, rfl, storedOverlay t.sys.store.inner apply.plan.state.teamId, ?_, ?_⟩
    · rw [List.take_length]
      exact hteam.overlay
    · rw [← hteam.revision]
      exact planApply_spec happly
  · intro state hlog _ hget
    have hteam := hserial state.teamId
    have hrevision : storedRevision t.sys.store.inner state.teamId = state.revision := by
      simp [storedRevision, hget]
    have hoverlay : storedOverlay t.sys.store.inner state.teamId = state.overlay := by
      simp [storedOverlay, hget]
    rw [hlog]
    refine ⟨le_rfl, ?_, ?_⟩
    · rw [← hrevision, hteam.revision]
    · rw [List.take_length, ← hoverlay]
      exact hteam.overlay

/-! ## One step -/

lemma SerialFor.congr {team : String} (h : SerialFor s₀ t team)
    (hrevision : storedRevision t'.sys.store.inner team = storedRevision t.sys.store.inner team)
    (hoverlay : storedOverlay t'.sys.store.inner team = storedOverlay t.sys.store.inner team)
    (hlog : t'.log team = t.log team) : SerialFor s₀ t' team := by
  refine ⟨?_, ?_, ?_⟩
  · rw [hlog]
    exact h.expected
  · rw [hlog, hrevision]
    exact h.revision
  · rw [hlog, hoverlay]
    exact h.overlay

lemma Serial.congr (h : Serial s₀ t) (hinner : t'.sys.store.inner = t.sys.store.inner)
    (hlog : t'.log = t.log) : Serial s₀ t' :=
  fun team => (h team).congr (by rw [hinner]) (by rw [hinner]) (by rw [hlog])

lemma Traced.basis_persist {env : TeamEnv} {apply : PlannedApply} {now : Timestamp}
    (hcall : t.sys.calls c = .admitted apply now)
    (hstate : persistedState env t.sys.stateDir apply = .ok state) (hp : t.plans c = some p) :
    t.basis (.persist c env) = some (state.teamId, p.seen) := by
  have hput : t.sys.putOf (.persist c env) = some state := by
    simp only [System.putOf, hcall, hstate]
    rfl
  simp only [basis, hput, hp, Option.map_some]

lemma Traced.basis_report {env : TeamEnv} {feature : Bool} {report : TeamApplyReport}
    (hcall : t.sys.calls c = .loaded feature report state) :
    t.basis (.report c env) = some (state.teamId, t.loads c) := by
  simp only [basis, System.putOf, hcall]
  rfl

lemma undisturbed_of_putOf_eq_none (h : t.sys.putOf a = none) : Undisturbed t a := by
  intro team seen hbasis
  simp only [Traced.basis, h] at hbasis
  cases hbasis

lemma serialFor_put_iff {apply : PlannedApply} (hserial : SerialFor s₀ t state.teamId)
    (hteam : state.teamId = apply.plan.state.teamId)
    (hrevision : state.revision = apply.plan.state.revision)
    (hoverlay : state.overlay = apply.plan.state.overlay)
    (hbasis : PlanBasis s₀ (t.log state.teamId) p apply.plan)
    (hinner : t'.sys.store.inner = t.sys.store.inner.put state)
    (hlog : t'.log state.teamId = t.log state.teamId ++ [p]) :
    SerialFor s₀ t' state.teamId ↔ p.seen = (t.log state.teamId).length := by
  obtain ⟨overlay, hreplay, hcontinues⟩ := hbasis.continues
  rw [← hteam] at hreplay hcontinues
  have hnext := hcontinues.next
  have hput : storedRevision t'.sys.store.inner state.teamId =
      storedRevision s₀.store.inner state.teamId + p.seen + 1 := by
    rw [hinner, storedRevision_put, if_pos rfl, hrevision, hnext]
  constructor
  · intro h
    have hcount := h.revision
    rw [hput, hlog, List.length_append, List.length_singleton] at hcount
    omega
  · intro hseen
    refine ⟨?_, ?_, ?_⟩
    · intro i q hq
      rw [hlog, List.getElem?_append] at hq
      split at hq
      · exact hserial.expected i q hq
      · rename_i hi
        obtain ⟨hlast, rfl⟩ := List.getElem?_eq_some_iff.mp hq
        rw [List.length_singleton] at hlast
        have hi' : i = p.seen := by omega
        simp only [hi', hseen, Nat.sub_self, List.getElem_cons_zero]
        rw [hbasis.expected, hcontinues.expected, hseen]
    · rw [hput, hlog, List.length_append, List.length_singleton, hseen]
      omega
    · rw [hlog, hinner, storedOverlay_put, if_pos rfl, hoverlay]
      rw [hseen, List.take_length] at hreplay
      obtain ⟨warnings, happly⟩ := hcontinues.changes
      rw [← hteam] at happly
      exact replay_snoc hreplay happly

lemma serialFor_report_iff {seen : Nat} {feature : Bool} {report : TeamApplyReport}
    (hserial : SerialFor s₀ t state.teamId) (hbasis : LoadBasis s₀ (t.log state.teamId) seen state)
    (hinner : t'.sys.store.inner = t.sys.store.inner.put (System.withReport feature report state))
    (hlog : t'.log = t.log) :
    SerialFor s₀ t' state.teamId ↔ seen = (t.log state.teamId).length := by
  have hput : storedRevision t'.sys.store.inner state.teamId =
      storedRevision s₀.store.inner state.teamId + seen := by
    rw [hinner, storedRevision_put, System.withReport_teamId, if_pos rfl]
    exact hbasis.revision
  constructor
  · intro h
    have hcount := h.revision
    rw [hput, hlog] at hcount
    omega
  · intro hseen
    refine ⟨?_, ?_, ?_⟩
    · rw [hlog]
      exact hserial.expected
    · rw [hput, hlog, hseen]
    · have hreplay := hbasis.overlay
      rw [hseen, List.take_length] at hreplay
      rw [hlog, hinner, storedOverlay_put, System.withReport_teamId, if_pos rfl]
      exact hreplay

lemma serial_iff_serialFor (hserial : Serial s₀ t) {put : TeamReconfigureState}
    (hinner : t'.sys.store.inner = t.sys.store.inner.put put)
    (hlog : ∀ team, team ≠ put.teamId → t'.log team = t.log team) :
    Serial s₀ t' ↔ SerialFor s₀ t' put.teamId := by
  constructor
  · intro h
    exact h put.teamId
  · intro h team
    by_cases hteam : team = put.teamId
    · rw [hteam]
      exact h
    · refine (hserial team).congr ?_ ?_ (hlog team hteam)
      · rw [hinner, storedRevision_put, if_neg hteam]
      · rw [hinner, storedOverlay_put, if_neg hteam]

lemma serial_iff_undisturbed (heffect : t.Effect a t') (hserial : Serial s₀ t)
    (hgrounded : Grounded s₀ t) : Serial s₀ t' ↔ Undisturbed t a := by
  cases heffect with
  | quiet c phase hput _ _ _ hinner hlog =>
    exact iff_of_true (hserial.congr hinner hlog) (undisturbed_of_putOf_eq_none hput)
  | planned c env request apply _ _ hinner hlog =>
    exact iff_of_true (hserial.congr hinner hlog) (undisturbed_of_putOf_eq_none rfl)
  | loaded c feature report state _ _ hinner hlog =>
    exact iff_of_true (hserial.congr hinner hlog) (undisturbed_of_putOf_eq_none rfl)
  | stored c env apply now state phase hcall hstate _ _ hinner hlog =>
    obtain ⟨hteam, hrevision, hoverlay⟩ := persistedState_spec hstate
    obtain ⟨p, hp, hbasis⟩ := hgrounded.plans c apply.plan (by rw [hcall]; rfl)
    rw [← hteam] at hbasis
    rw [hp, Option.toList_some] at hlog
    rw [serial_iff_serialFor hserial hinner
      (fun team hne => by rw [hlog, Function.update_of_ne hne])]
    rw [serialFor_put_iff (hserial state.teamId) hteam hrevision hoverlay hbasis hinner
      (by rw [hlog, Function.update_self])]
    have heq := Traced.basis_persist hcall hstate hp
    constructor
    · intro hseen team seen hsome
      obtain ⟨rfl, rfl⟩ := Prod.mk.inj (Option.some.inj (heq.symm.trans hsome))
      exact hseen
    · intro h
      exact h _ _ heq
  | reported c env feature report state phase hcall _ _ hinner hlog =>
    have hbasis := hgrounded.loads c state (by rw [hcall]; rfl)
    rw [serial_iff_serialFor hserial hinner (fun team _ => by rw [hlog])]
    refine (serialFor_report_iff (hserial state.teamId) hbasis hinner hlog).trans ?_
    have heq : t.basis (.report c env) = some (state.teamId, t.loads c) :=
      Traced.basis_report hcall
    constructor
    · intro hseen team seen hsome
      obtain ⟨rfl, rfl⟩ := Prod.mk.inj (Option.some.inj (heq.symm.trans hsome))
      exact hseen
    · intro h
      exact h _ _ heq

lemma compareAndSet_of_undisturbed (hserial : Serial s₀ t) (hgrounded : Grounded s₀ t)
    (h : Undisturbed t a) : CompareAndSet t a := by
  rintro c env apply now state rfl hcall hstate
  obtain ⟨hteam, hrevision, hoverlay⟩ := persistedState_spec hstate
  obtain ⟨p, hp, hbasis⟩ := hgrounded.plans c apply.plan (by rw [hcall]; rfl)
  obtain ⟨overlay, hreplay, hcontinues⟩ := hbasis.continues
  have hseen := h _ _ (Traced.basis_persist hcall hstate hp)
  rw [← hteam] at hreplay hcontinues
  rw [hseen, List.take_length, (hserial state.teamId).overlay] at hreplay
  obtain rfl := Except.ok.inj hreplay
  rw [hseen, ← (hserial state.teamId).revision] at hcontinues
  refine ⟨p, hp, hcontinues.expected, hcontinues.asked, ?_, ?_⟩
  · exact hrevision.trans hcontinues.next
  · obtain ⟨warnings, happly⟩ := hcontinues.changes
    refine ⟨warnings, ?_⟩
    rw [← hteam] at happly
    rw [hoverlay]
    exact happly

/-! ## Whole runs -/

lemma serial_start (s : System) : Serial s (.start s) :=
  fun _ => ⟨fun _ _ h => by simp [Traced.start] at h, by simp [Traced.start], rfl⟩

lemma grounded_start {s : System} (h : s.Idle) : Grounded s (.start s) := by
  constructor
  · intro c plan hplan
    rw [Traced.start, h.calls c] at hplan
    cases hplan
  · intro c state hread
    rw [Traced.start, h.calls c] at hread
    cases hread

lemma eachState_grounded {s : System} (h : s.Idle) {as : List Label}
    (hserial : Exec.EachState Traced.Step (Serial s) (.start s) as) :
    Exec.EachState Traced.Step (fun t => Serial s t ∧ Grounded s t) (.start s) as := by
  intro pre post t has hexec
  refine Exec.rightInduction
    (motive := fun pre t => ∀ post, as = pre ++ post → Serial s t ∧ Grounded s t)
    (fun post _ => ⟨serial_start s, grounded_start h⟩) ?_ hexec post has
  intro pre t a u hpre ih hstep post has
  refine ⟨hserial _ post u has (hpre.append (Exec.single hstep)), ?_⟩
  rw [List.append_assoc] at has
  obtain ⟨hs, hg⟩ := ih _ has
  exact hg.effect hstep.effect hs

/-- The applies of a run are serial, and every put of a `begin_apply` is a
compare-and-set on the stored state, exactly if nobody puts a change list for
the team between the read and the put of a `begin_apply` or a `finish_apply`. -/
theorem applies_serial_iff {s s' : System} {as : List Label} (hidle : s.Idle)
    (hrun : Exec System.Step s as s') :
    (Exec.EachStep Traced.Step CompareAndSet (.start s) as ∧
      Exec.EachState Traced.Step (Serial s) (.start s) as) ↔
    Exec.EachStep Traced.Step Undisturbed (.start s) as := by
  obtain ⟨t, htraced, _⟩ := Traced.lift hrun (.start s) rfl
  have hiff : Exec.EachState Traced.Step (fun t => Serial s t ∧ Grounded s t) (.start s) as ↔
      Exec.EachStep Traced.Step Undisturbed (.start s) as := by
    refine Exec.eachState_iff_eachStep Traced.Step.deterministic ?_ htraced
      ⟨serial_start s, grounded_start hidle⟩
    rintro t a t' hstep ⟨hserial, hgrounded⟩
    rw [← serial_iff_undisturbed hstep.effect hserial hgrounded]
    exact and_iff_left (hgrounded.effect hstep.effect hserial)
  constructor
  · rintro ⟨_, hserial⟩
    exact hiff.mp (eachState_grounded hidle hserial)
  · intro h
    have hstates := hiff.mpr h
    constructor
    · intro pre a post t has hpre
      obtain ⟨hserial, hgrounded⟩ := hstates pre (a :: post) t has hpre
      exact compareAndSet_of_undisturbed hserial hgrounded (h pre a post t has hpre)
    · intro pre post t has hpre
      exact (hstates pre post t has hpre).1

/-! ## A lost change list -/

def Phase.ticketRevision : Phase → Option Int
  | .issued (.ok ticket) => some ticket.plan.expectedRevision
  | _ => none

def plainWorkspace (dir : String) : Config.Workspace where
  dir := dir
  description := ""
  shell := ""
  runtime := ""
  agentProvider := ""
  codexModelReasoningEffort := ""
  agent := ""
  instructions := ""
  env := ∅

def twoWorkspaces : Config :=
  { Config.default with
    workspaces := ((∅ : BTreeMap String Config.Workspace).insert "api"
      (plainWorkspace "api")).insert "web" (plainWorkspace "web") }

def readingsAt (now : Timestamp) : TeamEnv where
  unicode := Unicode.ascii
  home := some "/home/me"
  flag := some "true"
  absolute := fun path => .ok path
  shortTeamHash := fun _ => "0a1b2c"
  now := now
  files :=
    { readLocal := fun _ => .ok twoWorkspaces
      load := fun _ => .ok twoWorkspaces
      loadTree := fun _ => .ok ⟨"", "", "", "/p", "", false, [], []⟩
      save := fun _ _ => .ok ()
      createDirAll := fun _ => .ok () }
  write := .done

def freshSystem : System where
  stateDir := "/state"
  store := TeamStateStore.inMemory
  leases := KeyedMap.empty
  holder := none
  calls := fun _ => .idle

/-- The request to disable one workspace of the team `/p/ax.yaml`. -/
def disableRequest (expectedRevision : Option Int) (name : String) : ApplyRequest where
  configPath := "/p/ax.yaml"
  expectedRevision := expectedRevision
  changes := [⟨.disable, .workspace, name, none, none⟩]
  mode := none

def successReport (token : String) : FinishRequest where
  token := token
  success := true
  errText := ""
  actions := []

def racingApplies : List Label :=
  [.plan 0 (readingsAt 1) (disableRequest (some 0) "api"),
   .plan 1 (readingsAt 2) (disableRequest (some 0) "web"),
   .check 1 (readingsAt 3), .persist 1 (readingsAt 4), .issue 1 (readingsAt 5),
   .release 2 (readingsAt 6) (successReport "0a1b2c-3"), .load 2, .report 2 (readingsAt 7),
   .check 0 (readingsAt 8), .persist 0 (readingsAt 9), .issue 0 (readingsAt 10)]

lemma racingApplies_isSome :
    (runSteps Traced.step (.start freshSystem) racingApplies).isSome := by
  decide

/-- Both applies are accepted for revision 0; the stored state has revision 1 and
lacks the change of the second. -/
theorem applies_not_serial :
    ∃ t, Exec Traced.Step (.start freshSystem) racingApplies t ∧
      (t.sys.calls 0).ticketRevision = some 0 ∧ (t.sys.calls 1).ticketRevision = some 0 ∧
      storedRevision t.sys.store.inner "/p/ax.yaml" = 1 ∧
      (storedOverlay t.sys.store.inner "/p/ax.yaml").disabledWorkspaces.contains "web" = false ∧
      ¬ Serial freshSystem t := by
  refine ⟨_, exec_of_runSteps (fun _ _ _ h => h) (Option.some_get racingApplies_isSome).symm, ?_⟩
  refine ⟨by decide, by decide, by decide, by decide, ?_⟩
  intro h
  exact absurd (h "/p/ax.yaml").revision (by decide)

def successiveApplies : List Label :=
  [.plan 0 (readingsAt 1) (disableRequest (some 0) "api"),
   .check 0 (readingsAt 2), .persist 0 (readingsAt 3), .issue 0 (readingsAt 4),
   .release 1 (readingsAt 5) (successReport "0a1b2c-2"), .load 1, .report 1 (readingsAt 6),
   .plan 2 (readingsAt 7) (disableRequest (some 1) "web"),
   .check 2 (readingsAt 8), .persist 2 (readingsAt 9), .issue 2 (readingsAt 10)]

/-- Successive applies are serial. -/
theorem successiveApplies_serial :
    Exec.EachStep Traced.Step CompareAndSet (.start freshSystem) successiveApplies ∧
      Exec.EachState Traced.Step (Serial freshSystem) (.start freshSystem) successiveApplies := by
  have hrun : (runSteps System.step freshSystem successiveApplies).isSome := by decide
  refine (applies_serial_iff ⟨rfl, fun _ => rfl⟩
    (exec_of_runSteps (fun _ _ _ h => h) (Option.some_get hrun).symm)).mpr ?_
  exact eachStep_of_checkSteps (fun _ _ _ h => h) undisturbed_of_isUndisturbed (by decide)

end Team
end Ax.Daemon
