import Ax.Foundation.Sha1
import Ax.Foundation.Words
import Ax.Daemon.Team.ApplySerial

/-!
# Apply leases

A ticket's token is the short hash of its team and the time of its lease check.  A `finish_apply`
looks a lease up by its token.  To say what a token was good for, `Booked` adds to a run the leases
that were issued, those that a token took away, and those that a later ticket of the team replaced.
Every issued lease is in exactly one of these places or in the table, so tokens are accepted once as
long as no two tickets have the same token. The short hash has 48 bits, so two teams can share it,
and then they share a token if their clocks read the same.

Main results:

- Theorem `lease_exclusion`: leases exclude each other and tokens are good once.
-/

namespace Ax.Daemon
namespace Team

/-! ## Tokens -/

/-- `short_team_hash`. -/
def shortTeamHash (value : String) : String :=
  Hex.encode ((Sha1.digest value.toUTF8.toList).take 6)

lemma length_shortTeamHash (value : String) : (shortTeamHash value).length = 12 := by
  simp [shortTeamHash]

lemma repr_ne_minus (m : Nat) (text : String) : Nat.repr m ≠ "-" ++ text := by
  intro h
  have hmem : '-' ∈ Nat.toDigits 10 m := by
    rw [← Nat.toList_repr, h, String.toList_append]
    exact List.mem_cons_self
  exact absurd (Nat.isDigit_of_mem_toDigits (by decide) (by decide) hmem) (by decide)

lemma eq_of_toString_eq {m n : Int} (h : toString m = toString n) : m = n := by
  have hrepr : Int.repr m = Int.repr n := h
  cases m with
  | ofNat m =>
    cases n with
    | ofNat n => rw [Text.eq_of_repr_eq hrepr]
    | negSucc n => exact absurd hrepr (repr_ne_minus m _)
  | negSucc m =>
    cases n with
    | ofNat n => exact absurd hrepr.symm (repr_ne_minus n _)
    | negSucc n =>
      have hsucc := Text.eq_of_repr_eq ((String.append_right_inj "-").mp hrepr)
      rw [Nat.succ_inj.mp hsucc]

lemma eq_of_token_eq {hash other : String} {n m : Int} (hlength : hash.length = other.length)
    (h : s!"{hash}-{n}" = s!"{other}-{m}") : hash = other ∧ n = m := by
  have hlist := congrArg String.toList h
  simp only [toString, String.toList_append, List.append_assoc] at hlist
  obtain ⟨hhash, hrest⟩ := List.append_inj hlist
    (by rw [String.length_toList, String.length_toList, hlength])
  refine ⟨String.toList_inj.mp hhash, eq_of_toString_eq (String.toList_inj.mp ?_)⟩
  simpa using hrest

/-! ## The books of a run -/

namespace System

def issuedBy (s : System) : Label → Option TeamApplyLease
  | .issue c env =>
    match s.calls c with
    | .persisted apply now state => some (issueTicket env apply state now).1
    | _ => none
  | _ => none

def acceptedBy (s : System) : Label → Option TeamApplyLease
  | .release _ _ request => (releaseLease s.leases request.token).toOption.map Prod.fst
  | _ => none

def replacedBy (s : System) (a : Label) : Option (TeamApplyLease × TeamApplyLease) :=
  (s.issuedBy a).bind fun lease => (s.leases.get lease.teamId).map fun old => (old, lease)

end System

/-- A system with the leases issued so far, those accepted by a `finish_apply`, and those
replaced together with their successors. -/
structure Booked where
  sys : System
  issued : List TeamApplyLease
  accepted : List TeamApplyLease
  replaced : List (TeamApplyLease × TeamApplyLease)

namespace Booked

def start (s : System) : Booked where
  sys := s
  issued := []
  accepted := []
  replaced := []

def step (b : Booked) (a : Label) : Option Booked :=
  (b.sys.step a).map fun sys =>
    { sys := sys
      issued := b.issued ++ (b.sys.issuedBy a).toList
      accepted := b.accepted ++ (b.sys.acceptedBy a).toList
      replaced := b.replaced ++ (b.sys.replacedBy a).toList }

def Step (b : Booked) (a : Label) (b' : Booked) : Prop :=
  b.step a = some b'

end Booked

/-! ## What a step does to the leases -/

def Phase.admission : Phase → Option (String × Timestamp)
  | .admitted apply now => some (apply.plan.state.teamId, now)
  | .persisted _ now state => some (state.teamId, now)
  | _ => none

inductive LeaseEffect (s : System) (a : Label) (s' : System) : Prop
  /-- A call moves on and keeps the lock if it has it. -/
  | keep (c : Nat) (phase : Phase) (hissued : s.issuedBy a = none)
      (haccepted : s.acceptedBy a = none) (hleases : s'.leases = s.leases)
      (hholder : s'.holder = s.holder) (hcalls : s'.calls = Function.update s.calls c phase)
      (hphase : phase.admission = (s.calls c).admission)
  /-- A call takes the lock and finds no lease that counts. -/
  | grant (c : Nat) (phase : Phase) (team : String) (now : Timestamp)
      (hissued : s.issuedBy a = none) (haccepted : s.acceptedBy a = none)
      (hfree : s.holder = none) (hleases : s'.leases = s.leases)
      (hholder : s'.holder = some c) (hcalls : s'.calls = Function.update s.calls c phase)
      (hphase : phase.admission = some (team, now))
      (hexpired : ∀ lease, s.leases.get team = some lease → lease.expiry ≤ now)
  /-- A call gives the lock back without a ticket. -/
  | abandon (c : Nat) (phase : Phase) (hissued : s.issuedBy a = none)
      (haccepted : s.acceptedBy a = none) (hadmitted : (s.calls c).admission.isSome = true)
      (hleases : s'.leases = s.leases) (hholder : s'.holder = none)
      (hcalls : s'.calls = Function.update s.calls c phase) (hphase : phase.admission = none)
  /-- A call issues its ticket and gives the lock back. -/
  | issue (c : Nat) (phase : Phase) (lease : TeamApplyLease) (hissued : s.issuedBy a = some lease)
      (haccepted : s.acceptedBy a = none)
      (hadmitted : (s.calls c).admission = some (lease.teamId, lease.startedAt))
      (hleases : s'.leases = s.leases.put lease) (hholder : s'.holder = none)
      (hcalls : s'.calls = Function.update s.calls c phase) (hphase : phase.admission = none)
  /-- A token takes a lease away. -/
  | accept (c : Nat) (phase : Phase) (lease : TeamApplyLease) (hissued : s.issuedBy a = none)
      (haccepted : s.acceptedBy a = some lease) (hfree : s.holder = none)
      (hget : s.leases.get lease.teamId = some lease)
      (hleases : s'.leases = s.leases.remove lease.teamId) (hholder : s'.holder = none)
      (hcalls : s'.calls = Function.update s.calls c phase) (hphase : phase.admission = none)

variable {lease : TeamApplyLease} {leases : LeaseMap} {a : Label} {s : System}
  {issued : List TeamApplyLease} {b : Booked}

lemma expiry_le_of_checkLease {team : String} {now : Timestamp}
    (h : checkLease leases team now = .ok ()) (hget : leases.get team = some lease) :
    lease.expiry ≤ now := by
  simp only [checkLease, hget] at h
  split at h
  · cases h
  · rename_i hexpired
    exact Int.not_lt.mp hexpired

lemma releaseLease_eq_ok {leases' : LeaseMap} {token : String}
    (h : releaseLease leases token = .ok (lease, leases')) :
    leases.get lease.teamId = some lease ∧ lease.token = token ∧
      leases' = leases.remove lease.teamId := by
  unfold releaseLease at h
  split at h
  · cases h
  · rename_i hfind
    cases h
    refine ⟨KeyedMap.mem_values_iff.mp (List.mem_of_find?_eq_some hfind), ?_, rfl⟩
    simpa using List.find?_some hfind

lemma releaseLease_of_forall_ne {token : String}
    (h : ∀ lease ∈ leases.values, lease.token ≠ token) :
    releaseLease leases token = .error (.tokenNotFound token) := by
  have hfind : (leases.values.find? fun active => active.token = token) = none :=
    List.find?_eq_none.mpr fun lease hlease => by simpa using h lease hlease
  rw [releaseLease, hfind]

lemma System.Step.leaseEffect {s' : System} (h : System.Step s a s') : LeaseEffect s a s' := by
  unfold System.Step at h
  cases a with
  | plan c env request =>
    simp only [System.step] at h
    split at h
    · rename_i hcall
      split at h
      all_goals
        cases h
        exact .keep c _ rfl rfl rfl rfl rfl (by rw [hcall]; rfl)
    · cases h
  | check c env =>
    simp only [System.step] at h
    split at h
    · rename_i apply hcall hfree
      split at h
      · cases h
        exact .keep c _ rfl rfl rfl rfl rfl (by rw [hcall]; rfl)
      · rename_i hcheck
        cases h
        exact .grant c _ _ _ rfl rfl hfree rfl rfl rfl rfl
          fun lease hget => expiry_le_of_checkLease hcheck hget
    · cases h
  | persist c env =>
    simp only [System.step] at h
    split at h
    · rename_i apply now hcall
      split at h
      · cases h
        exact .abandon c _ rfl rfl (by rw [hcall]; rfl) rfl rfl rfl rfl
      · rename_i state hstate
        split at h
        · cases h
          exact .abandon c _ rfl rfl (by rw [hcall]; rfl) rfl rfl rfl rfl
        · cases h
          refine .keep c _ rfl rfl rfl rfl rfl ?_
          rw [hcall, Phase.admission, Phase.admission, (persistedState_spec hstate).1]
    · cases h
  | issue c env =>
    simp only [System.step] at h
    split at h
    · rename_i apply now state hcall
      cases h
      exact .issue c _ (issueTicket env apply state now).1 (by simp only [System.issuedBy, hcall])
        rfl (by rw [hcall]; rfl) rfl rfl rfl rfl
    · cases h
  | release c env request =>
    simp only [System.step] at h
    split at h
    · rename_i hcall hfree
      split at h
      · rename_i e hrelease
        cases h
        exact .keep c _ rfl (by simp [System.acceptedBy, hrelease, Except.toOption]) rfl rfl rfl
          (by rw [hcall]; rfl)
      · rename_i lease leases hrelease
        cases h
        obtain ⟨hget, _, hleases⟩ := releaseLease_eq_ok hrelease
        exact .accept c _ lease rfl (by simp [System.acceptedBy, hrelease, Except.toOption]) hfree
          hget hleases hfree rfl rfl
    · cases h
  | load c =>
    simp only [System.step] at h
    split at h
    · rename_i hcall
      split at h
      all_goals
        cases h
        exact .keep c _ rfl rfl rfl rfl rfl (by rw [hcall]; rfl)
    · cases h
  | report c env =>
    simp only [System.step] at h
    split at h
    · rename_i hcall
      cases h
      exact .keep c _ rfl rfl rfl rfl rfl (by rw [hcall]; rfl)
    · cases h

/-! ## Every lease is accounted for -/

def Admitted (s : System) : Prop :=
  ∀ c team now, (s.calls c).admission = some (team, now) →
    s.holder = some c ∧ ∀ lease, s.leases.get team = some lease → lease.expiry ≤ now

lemma Admitted.step {s' : System} (h : Admitted s) (hstep : System.Step s a s') :
    Admitted s' := by
  intro c' team' now' hadmission
  -- Nobody else is admitted when the lock is free or was held by the call that moved.
  have hothers : ∀ c phase, s'.calls = Function.update s.calls c phase →
      (s.holder = none ∨ (s.calls c).admission.isSome = true) → phase.admission = none → False := by
    intro c phase hcalls hlock hphase
    rw [hcalls] at hadmission
    by_cases hc : c' = c
    · subst hc
      rw [Function.update_self, hphase] at hadmission
      cases hadmission
    · rw [Function.update_of_ne hc] at hadmission
      have hholder := (h c' team' now' hadmission).1
      rcases hlock with hfree | hsome
      · rw [hfree] at hholder
        cases hholder
      · obtain ⟨⟨team, now⟩, hown⟩ := Option.isSome_iff_exists.mp hsome
        exact hc (Option.some.inj (hholder.symm.trans (h c team now hown).1))
  cases hstep.leaseEffect with
  | keep c phase _ _ hleases hholder hcalls hphase =>
    have hbefore : (s.calls c').admission = some (team', now') := by
      rw [hcalls] at hadmission
      by_cases hc : c' = c
      · subst hc
        rwa [Function.update_self, hphase] at hadmission
      · rwa [Function.update_of_ne hc] at hadmission
    rw [hholder, hleases]
    exact h c' team' now' hbefore
  | grant c phase team now _ _ hfree hleases hholder hcalls hphase hexpired =>
    rw [hcalls] at hadmission
    by_cases hc : c' = c
    · subst hc
      rw [Function.update_self, hphase] at hadmission
      cases hadmission
      rw [hleases]
      exact ⟨hholder, hexpired⟩
    · rw [Function.update_of_ne hc] at hadmission
      have hheld := (h c' team' now' hadmission).1
      rw [hfree] at hheld
      cases hheld
  | abandon c phase _ _ hadmitted _ _ hcalls hphase =>
    exact (hothers c phase hcalls (.inr hadmitted) hphase).elim
  | issue c phase lease _ _ hadmitted _ _ hcalls hphase =>
    exact (hothers c phase hcalls (.inr (by rw [hadmitted]; rfl)) hphase).elim
  | accept c phase lease _ _ hfree _ _ _ hcalls hphase =>
    exact (hothers c phase hcalls (.inl hfree) hphase).elim

structure Books (b : Booked) : Prop where
  admitted : Admitted b.sys
  accounts : b.issued.Perm (b.sys.leases.values ++ (b.accepted ++ b.replaced.map Prod.fst))
  expired : ∀ entry ∈ b.replaced, entry.1.expiry ≤ entry.2.startedAt

lemma perm_put (leases : LeaseMap) (lease : TeamApplyLease)
    {accepted replaced : List TeamApplyLease}
    (h : issued.Perm (leases.values ++ (accepted ++ replaced))) :
    (issued ++ [lease]).Perm ((leases.put lease).values ++
      (accepted ++ (replaced ++ (leases.get lease.teamId).toList))) := by
  have hput := leases.values_put_perm lease
  have hold := leases.values_perm lease.teamId
  simp only [List.perm_iff_count, List.count_append, List.count_cons] at h hput hold ⊢
  intro other
  have hissued := h other
  have hnew := hput other
  have hremoved := hold other
  simp only [List.count_nil] at *
  omega

lemma perm_remove (hget : leases.get lease.teamId = some lease)
    {accepted replaced : List TeamApplyLease}
    (h : issued.Perm (leases.values ++ (accepted ++ replaced))) :
    issued.Perm ((leases.remove lease.teamId).values ++ ((accepted ++ [lease]) ++ replaced)) := by
  have hold := leases.values_perm lease.teamId
  rw [hget] at hold
  simp only [List.perm_iff_count, List.count_append] at h hold ⊢
  intro other
  have hissued := h other
  have hremoved := hold other
  simp only [Option.toList_some] at *
  omega

lemma Books.step {b' : Booked} (h : Books b) (hstep : Booked.Step b a b') : Books b' := by
  obtain ⟨sys, hsys, rfl⟩ := Option.map_eq_some_iff.mp hstep
  have hadmitted := h.admitted.step hsys
  have hquiet : b.sys.issuedBy a = none → b.sys.acceptedBy a = none →
      sys.leases = b.sys.leases → Books ⟨sys, b.issued ++ (b.sys.issuedBy a).toList,
        b.accepted ++ (b.sys.acceptedBy a).toList, b.replaced ++ (b.sys.replacedBy a).toList⟩ := by
    intro hissued haccepted hleases
    simp only [System.replacedBy, hissued, haccepted, Option.bind_none, Option.toList_none,
      List.append_nil]
    exact ⟨hadmitted, hleases ▸ h.accounts, h.expired⟩
  cases System.Step.leaseEffect hsys with
  | keep c phase hissued haccepted hleases => exact hquiet hissued haccepted hleases
  | grant c phase team now hissued haccepted _ hleases => exact hquiet hissued haccepted hleases
  | abandon c phase hissued haccepted _ hleases => exact hquiet hissued haccepted hleases
  | issue c phase lease hissued haccepted hcall hleases =>
    refine ⟨hadmitted, ?_, ?_⟩
    · have hreplaced : (b.replaced ++ (b.sys.replacedBy a).toList).map Prod.fst =
          b.replaced.map Prod.fst ++ (b.sys.leases.get lease.teamId).toList := by
        rw [System.replacedBy, hissued]
        cases hget : b.sys.leases.get lease.teamId <;> simp [hget]
      dsimp only
      rw [hreplaced, hissued, haccepted, hleases, Option.toList_none, List.append_nil]
      exact perm_put b.sys.leases lease h.accounts
    · intro entry hentry
      rcases List.mem_append.mp hentry with hentry | hentry
      · exact h.expired entry hentry
      · simp only [System.replacedBy, hissued, Option.bind_some, Option.mem_toList,
          Option.map_eq_some_iff] at hentry
        obtain ⟨old, hold, rfl⟩ := hentry
        exact (h.admitted c _ _ hcall).2 old hold
  | accept c phase lease hissued haccepted _ hget hleases =>
    refine ⟨hadmitted, ?_, ?_⟩
    · have hperm := perm_remove hget h.accounts
      rw [← hleases] at hperm
      simpa [System.replacedBy, hissued, haccepted] using hperm
    · simpa [System.replacedBy, hissued] using h.expired

lemma books_of_exec {labels : List Label} (hidle : s.Idle) (hleases : s.leases = KeyedMap.empty)
    (hrun : Exec Booked.Step (.start s) labels b) : Books b := by
  refine hrun.invariant (fun hstep hbooks => hbooks.step hstep) ⟨?_, ?_, ?_⟩
  · intro c team now hadmission
    have hcall : ((Booked.start s).sys.calls c) = .idle := hidle.calls c
    rw [hcall] at hadmission
    cases hadmission
  · have hempty : (Booked.start s).sys.leases.values = [] := by
      rw [Booked.start, hleases, KeyedMap.values_empty]
    rw [hempty]
    exact List.Perm.refl _
  · exact nofun

/-! ## Tokens are good once -/

def Hashing (labels : List Label) : Prop :=
  ∀ c env, .issue c env ∈ labels → env.shortTeamHash = shortTeamHash

lemma token_of_issued {labels : List Label} (hrun : Exec Booked.Step (.start s) labels b)
    (hhash : Hashing labels) :
    ∀ lease ∈ b.issued,
      lease.token = s!"{shortTeamHash lease.teamId}-{Timestamp.nanosOrZero lease.startedAt}" := by
  refine Exec.rightInduction (motive := fun labels b => Hashing labels → ∀ lease ∈ b.issued,
    lease.token = s!"{shortTeamHash lease.teamId}-{Timestamp.nanosOrZero lease.startedAt}")
    ?_ ?_ hrun hhash
  · exact fun _ => nofun
  · intro labels b a b' _ ih hstep hhash lease hlease
    obtain ⟨sys, _, rfl⟩ := Option.map_eq_some_iff.mp hstep
    rcases List.mem_append.mp hlease with hlease | hlease
    · exact ih (fun c env hmem => hhash c env (List.mem_append_left _ hmem)) lease hlease
    · cases a with
      | issue c env =>
        have henv := hhash c env (List.mem_append_right _ List.mem_cons_self)
        rw [Option.mem_toList, System.issuedBy] at hlease
        split at hlease
        · obtain rfl := Option.some.inj hlease
          simp only [issueTicket, ticketToken, henv]
        · cases hlease
      | plan | check | persist | release | load | report => cases hlease

structure Distinguished (issued : List TeamApplyLease) : Prop where
  inRange : ∀ lease ∈ issued, -2 ^ 63 ≤ lease.startedAt ∧ lease.startedAt < 2 ^ 63
  hashes : ∀ lease ∈ issued, ∀ other ∈ issued, lease.startedAt = other.startedAt →
    shortTeamHash lease.teamId = shortTeamHash other.teamId → lease.teamId = other.teamId

def DistinctTimes (issued : List TeamApplyLease) : Prop :=
  issued.Pairwise fun lease other => lease.teamId = other.teamId → lease.startedAt ≠ other.startedAt

lemma nodup_tokens (htoken : ∀ lease ∈ issued,
      lease.token = s!"{shortTeamHash lease.teamId}-{Timestamp.nanosOrZero lease.startedAt}")
    (htimes : DistinctTimes issued) (hdist : Distinguished issued) :
    (issued.map TeamApplyLease.token).Nodup := by
  rw [List.Nodup, List.pairwise_map]
  refine htimes.imp_of_mem fun {lease other} hlease hother hne heq => ?_
  rw [htoken lease hlease, htoken other hother] at heq
  obtain ⟨hhash, hnanos⟩ := eq_of_token_eq (by rw [length_shortTeamHash, length_shortTeamHash]) heq
  rw [Timestamp.nanosOrZero, Timestamp.nanosOrZero, if_pos (hdist.inRange lease hlease),
    if_pos (hdist.inRange other hother)] at hnanos
  exact hne (hdist.hashes lease hlease other hother hnanos hhash) hnanos

structure LeaseExclusion (b : Booked) : Prop where
  single : ∀ lease ∈ b.sys.leases.values, ∀ other ∈ b.sys.leases.values,
    lease.teamId = other.teamId → lease = other
  exclusive : ∀ entry ∈ b.replaced, entry.1.expiry ≤ entry.2.startedAt
  acceptedOnce : (b.accepted.map TeamApplyLease.token).Nodup
  rejected : ∀ entry ∈ b.replaced,
    releaseLease b.sys.leases entry.1.token = .error (.tokenNotFound entry.1.token)

/-- Apply leases exclude each other in every run whose tickets of one team have different
times, if teams with the same short hash take their tickets at different times, too. -/
theorem lease_exclusion {s : System} {labels : List Label} {b : Booked} (hidle : s.Idle)
    (hleases : s.leases = KeyedMap.empty) (hrun : Exec Booked.Step (.start s) labels b)
    (hhash : Hashing labels) (htimes : DistinctTimes b.issued)
    (hdist : Distinguished b.issued) : LeaseExclusion b := by
  have hbooks := books_of_exec hidle hleases hrun
  have htokens := nodup_tokens (token_of_issued hrun hhash) htimes hdist
  rw [(hbooks.accounts.map TeamApplyLease.token).nodup_iff, List.map_append, List.map_append,
    List.nodup_append', List.nodup_append'] at htokens
  obtain ⟨_, ⟨haccepted, _, _⟩, hdisjoint⟩ := htokens
  refine ⟨?_, hbooks.expired, haccepted, ?_⟩
  · intro lease hlease other hother hteam
    have hget := KeyedMap.mem_values_iff.mp hlease
    rw [hteam, KeyedMap.mem_values_iff.mp hother] at hget
    exact (Option.some.inj hget).symm
  · intro entry hentry
    refine releaseLease_of_forall_ne fun lease hlease heq => ?_
    refine hdisjoint (List.mem_map_of_mem hlease) ?_
    rw [heq, List.map_map]
    exact List.mem_append_right _ (List.mem_map_of_mem hentry)

def hashingAt (now : Timestamp) : TeamEnv :=
  { readingsAt now with shortTeamHash := shortTeamHash }

/-- A call that applies a change to a team and gets a ticket for a lease check at `now`. -/
def applyAt (c : Nat) (now : Timestamp) (configPath : String) : List Label :=
  [.plan c (hashingAt now) { disableRequest none "api" with configPath := configPath },
   .check c (hashingAt now), .persist c (hashingAt now), .issue c (hashingAt now)]

def finishAt (c : Nat) (now : Timestamp) (token : String) : Label :=
  .release c (hashingAt now) (successReport token)

def lateFinish : List Label :=
  applyAt 0 1 "/p/ax.yaml" ++ applyAt 1 (1 + seconds 120) "/p/ax.yaml" ++
    [finishAt 2 (seconds 121) (ticketToken (hashingAt 1) "/p/ax.yaml" 1),
     finishAt 3 (seconds 122) (ticketToken (hashingAt 1) "/p/ax.yaml" (1 + seconds 120))]

lemma lateFinish_isSome : (runSteps Booked.step (.start freshSystem) lateFinish).isSome := by
  decide +kernel

/-- Leases exclude each other when a team's first token is reported late. -/
theorem lease_exclusion_lateFinish :
    ∃ b, Exec Booked.Step (.start freshSystem) lateFinish b ∧ LeaseExclusion b := by
  have hexec := exec_of_runSteps (fun _ _ _ h => h) (Option.some_get lateFinish_isSome).symm
  refine ⟨_, hexec, lease_exclusion ⟨rfl, fun _ => rfl⟩ rfl hexec ?_ ?_ ⟨?_, ?_⟩⟩
  · intro c env hmem
    simp [lateFinish, applyAt, finishAt] at hmem
    rcases hmem with ⟨_, rfl⟩ | ⟨_, rfl⟩ <;> rfl
  · unfold DistinctTimes
    decide +kernel
  · decide +kernel
  · decide +kernel

/-- Two teams whose paths have the same short hash get tickets at the same time, and the
token of both is reported twice. -/
def sharedToken : List Label :=
  applyAt 0 5 "/w/11433185/ax.yaml" ++ applyAt 1 5 "/w/16146583/ax.yaml" ++
    [finishAt 2 6 "e3eb6661d9ae-5", finishAt 3 7 "e3eb6661d9ae-5"]

lemma sharedToken_isSome : (runSteps Booked.step (.start freshSystem) sharedToken).isSome := by
  decide +kernel

/-- One token is accepted by two calls, although no team has two tickets. -/
theorem token_accepted_twice :
    ∃ b, Exec Booked.Step (.start freshSystem) sharedToken b ∧ Hashing sharedToken ∧
      DistinctTimes b.issued ∧
      b.accepted.map (fun lease => (lease.teamId, lease.token)) =
        [("/w/11433185/ax.yaml", "e3eb6661d9ae-5"), ("/w/16146583/ax.yaml", "e3eb6661d9ae-5")] := by
  refine ⟨_, exec_of_runSteps (fun _ _ _ h => h) (Option.some_get sharedToken_isSome).symm,
    ?_, ?_, ?_⟩
  · intro c env hmem
    simp [sharedToken, applyAt, finishAt] at hmem
    rcases hmem with ⟨_, rfl⟩ | ⟨_, rfl⟩ <;> rfl
  · unfold DistinctTimes
    decide +kernel
  · decide +kernel

end Team
end Ax.Daemon
