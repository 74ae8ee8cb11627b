import Ax.Daemon.Team.ApplySerial

/-!
# The put of `finish_apply`

A `finish_apply` gives up its lease, loads the stored state, adds its report and
puts the state back.  It no longer holds the lease then, so that a `begin_apply`
may put a new state between its load and its put.  This file shows that nothing
else can come between: if no change list is put there, the put changes only the
flag and the report of the stored state.

Main results:

- Theorem `reports_only_report`: undisturbed puts of `finish_apply` only record their report.
- Theorem `report_restores_older_state`: a disturbed one takes back an apply.
-/

namespace Ax.Daemon
namespace Team

/-- A team state without the parts that `finish_apply` writes. -/
def bare (state : TeamReconfigureState) : TeamReconfigureState :=
  { state with featureEnabled := false, lastApply := none }

variable {state : TeamReconfigureState} {t t' : Traced} {seen : Nat}

lemma eq_of_bare_eq {state' : TeamReconfigureState} (h : bare state = bare state') :
    state' =
      { state with featureEnabled := state'.featureEnabled, lastApply := state'.lastApply } := by
  cases state
  cases state'
  simp only [bare, TeamReconfigureState.mk.injEq] at h ⊢
  grind

@[simp]
lemma bare_withReport (feature : Bool) (report : TeamApplyReport) (state : TeamReconfigureState) :
    bare (System.withReport feature report state) = bare state :=
  rfl

/-- The put of a `finish_apply` changes only the flag and the report of the
state stored before it. -/
def ReportOnly (t : Traced) (a : Label) : Prop :=
  ∀ c env put, a = .report c env → t.sys.putOf a = some put →
    ∃ stored, t.sys.store.inner.get put.teamId = some stored ∧
      put = { stored with featureEnabled := put.featureEnabled, lastApply := put.lastApply }

/-- If the step is the put of a `finish_apply`, nobody put a change list for the
team since its load. -/
def ReportUndisturbed (t : Traced) (a : Label) : Prop :=
  ∀ c env, a = .report c env → Undisturbed t a

structure CurrentLoad (t : Traced) (seen : Nat) (state : TeamReconfigureState) : Prop where
  seen_le : seen ≤ (t.log state.teamId).length
  agrees : seen = (t.log state.teamId).length →
    ∃ stored, t.sys.store.inner.get state.teamId = some stored ∧ bare stored = bare state

structure LoadsCurrent (t : Traced) : Prop where
  plans : ∀ c plan, (t.sys.calls c).plan? = some plan → ∃ p, t.plans c = some p
  loads : ∀ c state, (t.sys.calls c).read? = some state → CurrentLoad t (t.loads c) state

lemma CurrentLoad.congr (h : CurrentLoad t seen state)
    (hinner : t'.sys.store.inner = t.sys.store.inner) (hlog : t'.log = t.log) :
    CurrentLoad t' seen state := by
  constructor
  · rw [hlog]
    exact h.seen_le
  · rw [hlog, hinner]
    exact h.agrees

lemma CurrentLoad.stored {put : TeamReconfigureState} {p : Planning}
    (h : CurrentLoad t seen state) (hinner : t'.sys.store.inner = t.sys.store.inner.put put)
    (hlog : t'.log = Function.update t.log put.teamId (t.log put.teamId ++ [p])) :
    CurrentLoad t' seen state := by
  by_cases hteam : state.teamId = put.teamId
  · have hlen : (t'.log state.teamId).length = (t.log state.teamId).length + 1 := by
      rw [hlog, hteam, Function.update_self, List.length_append, List.length_singleton]
    have hle := h.seen_le
    constructor
    · omega
    · intro heq
      omega
  · have hsame : t'.log state.teamId = t.log state.teamId := by
      rw [hlog, Function.update_of_ne hteam]
    constructor
    · rw [hsame]
      exact h.seen_le
    · rw [hsame, hinner, KeyedMap.get_put_of_ne _ hteam]
      exact h.agrees

lemma CurrentLoad.reported {put : TeamReconfigureState} (h : CurrentLoad t seen state)
    (hput : ∃ stored, t.sys.store.inner.get put.teamId = some stored ∧ bare stored = bare put)
    (hinner : t'.sys.store.inner = t.sys.store.inner.put put) (hlog : t'.log = t.log) :
    CurrentLoad t' seen state := by
  constructor
  · rw [hlog]
    exact h.seen_le
  · intro heq
    rw [hlog] at heq
    obtain ⟨stored, hget, hbare⟩ := h.agrees heq
    rw [hinner]
    by_cases hteam : state.teamId = put.teamId
    · obtain ⟨stored', hget', hbare'⟩ := hput
      rw [hteam, hget'] at hget
      obtain rfl := Option.some.inj hget
      rw [hteam]
      exact ⟨put, KeyedMap.get_put_self _ _, hbare'.symm.trans hbare⟩
    · rw [KeyedMap.get_put_of_ne _ hteam]
      exact ⟨stored, hget, hbare⟩

lemma LoadsCurrent.agrees {c : Nat} {env : TeamEnv} {feature : Bool} {report : TeamApplyReport}
    (h : LoadsCurrent t) (hcall : t.sys.calls c = .loaded feature report state)
    (hundisturbed : Undisturbed t (.report c env)) :
    ∃ stored,
      t.sys.store.inner.get (System.withReport feature report state).teamId = some stored ∧
      bare stored = bare (System.withReport feature report state) := by
  rw [System.withReport_teamId, bare_withReport]
  apply (h.loads c state (by rw [hcall]; rfl)).agrees
  exact hundisturbed _ _ (Traced.basis_report hcall)

lemma LoadsCurrent.effect {a : Label} (heffect : t.Effect a t') (h : LoadsCurrent t)
    (hundisturbed : ReportUndisturbed t a) : LoadsCurrent t' := by
  have hkept : ∀ seen state, CurrentLoad t seen state → CurrentLoad t' seen state := by
    intro seen state hcur
    cases heffect with
    | quiet _ _ _ _ _ _ hinner hlog => exact hcur.congr hinner hlog
    | planned _ _ _ _ _ _ hinner hlog => exact hcur.congr hinner hlog
    | stored c _ apply _ _ _ hcall _ _ _ hinner hlog =>
      obtain ⟨p, hp⟩ := h.plans c apply.plan (by rw [hcall]; rfl)
      rw [hp, Option.toList_some] at hlog
      exact hcur.stored hinner hlog
    | loaded _ _ _ _ _ _ hinner hlog => exact hcur.congr hinner hlog
    | reported c env _ _ _ _ hcall _ _ hinner hlog =>
      exact hcur.reported (h.agrees hcall (hundisturbed c env rfl)) hinner hlog
  have hknown : t.Known (fun p _ => ∃ q, p = some q) (CurrentLoad t) := ⟨h.plans, h.loads⟩
  obtain ⟨hplans, hloads⟩ := heffect.known hknown (fun _ _ hp => hp) hkept
    (fun _ _ _ _ _ => ⟨_, rfl⟩) fun state hlog hinner hget =>
      ⟨by rw [hlog], fun _ => ⟨state, by rw [hinner]; exact hget, rfl⟩⟩
  exact ⟨hplans, hloads⟩

/-- In every run in which no change list is put for a team between the load and
the put of a `finish_apply`, these puts change only the flag and the report of
the stored state. -/
theorem reports_only_report {s : System} {as : List Label} (hidle : s.Idle)
    (hundisturbed : Exec.EachStep Traced.Step ReportUndisturbed (.start s) as) :
    Exec.EachStep Traced.Step ReportOnly (.start s) as := by
  have hstart : LoadsCurrent (.start s) := by
    constructor
    · intro c plan hplan
      rw [Traced.start, hidle.calls c] at hplan
      cases hplan
    · intro c state hread
      rw [Traced.start, hidle.calls c] at hread
      cases hread
  have hstates := Exec.eachState_of_eachStep
    (fun t a t' (hstep : Traced.Step t a t') h hcond => LoadsCurrent.effect hstep.effect h hcond)
    hstart hundisturbed
  rintro pre a post t has hpre c env put rfl hput
  have hcurrent := hstates pre (_ :: post) t has hpre
  simp only [System.putOf] at hput
  split at hput
  · rename_i feature report state hcall
    obtain rfl := Option.some.inj hput
    obtain ⟨stored, hget, hbare⟩ :=
      hcurrent.agrees hcall (hundisturbed pre _ post t has hpre c env rfl)
    exact ⟨stored, hget, eq_of_bare_eq hbare⟩
  · cases hput

/-! ## A report that takes back an apply -/

def disturbedReport : List Label :=
  [.plan 0 (readingsAt 1) (disableRequest (some 0) "api"),
   .check 0 (readingsAt 2), .persist 0 (readingsAt 3), .issue 0 (readingsAt 4),
   .release 1 (readingsAt 5) (successReport "0a1b2c-2"), .load 1,
   .plan 2 (readingsAt 6) (disableRequest (some 1) "web"),
   .check 2 (readingsAt 7), .persist 2 (readingsAt 8), .issue 2 (readingsAt 9)]

lemma disturbedReport_isSome :
    (runSteps Traced.step (.start freshSystem) disturbedReport).isSome := by
  decide

def beforeReport : Traced :=
  (runSteps Traced.step (.start freshSystem) disturbedReport).get disturbedReport_isSome

/-- The report lowers the stored revision from 2 to 1 and restores the overlay
without the second change. -/
theorem report_restores_older_state :
    Exec Traced.Step (.start freshSystem) disturbedReport beforeReport ∧
      storedRevision beforeReport.sys.store.inner "/p/ax.yaml" = 2 ∧
      (storedOverlay beforeReport.sys.store.inner
        "/p/ax.yaml").disabledWorkspaces.contains "web" = true ∧
      ∃ t, Traced.Step beforeReport (.report 1 (readingsAt 10)) t ∧
        storedRevision t.sys.store.inner "/p/ax.yaml" = 1 ∧
        (storedOverlay t.sys.store.inner
          "/p/ax.yaml").disabledWorkspaces.contains "web" = false := by
  refine ⟨exec_of_runSteps (fun _ _ _ h => h) (Option.some_get disturbedReport_isSome).symm,
    by decide, by decide, ?_⟩
  exact ⟨_, (Option.some_get (by decide)).symm, by decide, by decide⟩

/-- In a run of successive applies the report changes nothing else. -/
theorem successiveApplies_reports_only :
    Exec.EachStep Traced.Step ReportOnly (.start freshSystem) successiveApplies := by
  refine reports_only_report ⟨rfl, fun _ => rfl⟩ ?_
  exact eachStep_of_checkSteps (fun _ _ _ h => h)
    (fun t a h _ _ _ => undisturbed_of_isUndisturbed t a h) (by decide)

end Team
end Ax.Daemon
