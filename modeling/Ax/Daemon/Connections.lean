import Ax.Daemon.Threads
import Ax.Daemon.StoreCommands

/-!
# Connections and registrations

A connection remembers the workspace that it registered and the id of the entry.
When it closes, it removes the entry only if the entry still has that id.  An
explicit `unregister` has no such test: it removes whatever entry the workspace has,
also one that another connection has registered since.

The envelopes of a connection are handled one after the other; connections and
background passes interleave critical section by critical section.

Main results:

- Theorem `registration_kept_iff`: a registration stands exactly until another
  connection unregisters the same workspace.
-/

namespace Ax.Daemon

/-! ## The envelopes of a connection -/

/-- What `handle_connection` remembers: the registered workspace and its entry. -/
structure Connection where
  workspace : String
  connectionId : Option Nat
deriving DecidableEq, Repr

def Connection.new : Connection where
  workspace := ""
  connectionId := none

inductive Envelope
  | register (payload : RegisterPayload)
  | unregister
  | request (req : String → Request) (hreq : ∀ w, (req w).isRegistration = false)
  | elsewhere

/-- `handle_envelope`: what the connection remembers afterwards.  The response goes to
the socket. -/
def handleEnvelope (u : Unicode) (conn : Connection) : Envelope → Program Connection
  | .register payload => do
      let entry ← perform (.register payload.workspace payload.dir payload.description
        payload.configPath (seconds (max 0 payload.idleTimeoutSeconds)))
      return ⟨entry.name, some entry.id⟩
  | .unregister => do
      let _ ← handleUnregister conn.workspace
      return ⟨"", none⟩
  | .request req _ => do
      let _ ← handle u (req conn.workspace)
      return conn
  | .elsewhere => do
      touchNow conn.workspace
      return conn

/-- The end of `handle_connection`. -/
def closeConnection (conn : Connection) : Program Unit :=
  match conn.connectionId with
  | none => return ()
  | some id => do
      let _ ← handleDisconnect conn.workspace id
      return ()

/-- `handle_connection`: the envelopes that arrive until the connection is closed. -/
def handleConnection (u : Unicode) : Connection → List Envelope → Program Unit
  | conn, [] => closeConnection conn
  | conn, envelope :: rest => do
      let conn ← handleEnvelope u conn envelope
      handleConnection u conn rest

/-- The background passes. -/
inductive Pass
  | wake
  | recover
  | nudge

def Pass.job : Pass → Job
  | .wake => .wakePass
  | .recover => .recoverPass
  | .nudge => .nudgePass

def Threads.serve (u : Unicode) (clients : List (List Envelope)) (passes : List Pass)
    (d : HandlerCtx) : Threads where
  threads := clients.map (handleConnection u .new) ++ passes.map fun pass => pass.job.program u
  shared := ⟨d, false⟩

/-! ## The entry of a workspace -/

def Registry.entryId (r : Registry) (w : String) : Option Nat :=
  (r.entries.get w).map Entry.id

namespace Cmd

/-- The command registers `w`. -/
def registers (w : String) : Cmd → Bool
  | .register workspace .. => decide (workspace = w)
  | _ => false

/-- The command removes the entry of `w`, whatever its id. -/
def unregisters (w : String) : Cmd → Bool
  | .unregister workspace => decide (workspace = w)
  | _ => false

/-- The command removes the entry of `w` if it has the id `n`. -/
def unregistersId (w : String) (n : Nat) : Cmd → Bool
  | .unregisterIf workspace id => decide (workspace = w ∧ id = n)
  | _ => false

/-- The command adds or removes an entry. -/
def isRegistration : Cmd → Bool
  | .register .. | .unregister _ | .unregisterIf .. => true
  | _ => false

end Cmd

variable {u : Unicode} {w : String} {n : Nat}

namespace Registry

lemma entryId_put {r : Registry} {workspace : String} {entry entry' : Entry}
    (hget : r.entries.get workspace = some entry) (hname : entry'.name = entry.name)
    (hid : entry'.id = entry.id) (w : String) :
    entryId { r with entries := r.entries.put entry' } w = r.entryId w := by
  unfold entryId
  rw [KeyedMap.get_put]
  split
  · rename_i hw
    rw [hw, hname, KeyedMap.key_of_get hget, hget, Option.map_some, Option.map_some, hid]
  · rfl

lemma entryId_unregisterIf (r : Registry) (workspace : String) (id : Nat) (w : String) :
    (r.unregisterIf workspace id).2.entryId w =
      if w = workspace ∧ r.entryId w = some id then none else r.entryId w := by
  unfold unregisterIf unregister entryId
  by_cases hw : w = workspace
  · subst hw
    cases hget : r.entries.get w with
    | none => simp [hget]
    | some entry =>
      by_cases hid : entry.id = id
      · simp [hid, KeyedMap.get_remove]
      · simp [hid, hget]
  · split
    · simp [KeyedMap.get_remove, hw]
    · simp [hw]

lemma entryId_touch (r : Registry) (workspace : String) (now : Timestamp) (w : String) :
    (r.touch workspace now).entryId w = r.entryId w := by
  unfold touch
  split
  · rfl
  · rename_i entry hget
    refine entryId_put hget ?_ ?_ w
    · rfl
    · rfl

lemma entryId_setStatusText (r : Registry) (workspace text : String) (now : Timestamp)
    (w : String) : (r.setStatusText workspace text now).entryId w = r.entryId w := by
  unfold setStatusText
  split
  · rfl
  · rename_i entry hget
    refine entryId_put hget ?_ ?_ w
    · rfl
    · rfl

end Registry

section Exec

variable {r : Reading} {d : HandlerCtx} {c : Cmd}

lemma entryId_exec (hregister : c.registers w = false) (hunregister : c.unregisters w = false)
    (hid : ∀ m, d.registry.entryId w = some m → c.unregistersId w m = false) :
    (c.exec u r d).2.registry.entryId w = d.registry.entryId w := by
  cases c with
  | register workspace dir description configPath idleTimeout =>
    have hne : w ≠ workspace := fun heq => by simp [Cmd.registers, heq] at hregister
    simp only [Cmd.exec, Registry.registerWithIdle, Registry.entryId]
    rw [KeyedMap.get_put_of_ne _ hne]
  | unregister workspace =>
    have hne : w ≠ workspace := fun heq => by simp [Cmd.unregisters, heq] at hunregister
    simp [Cmd.exec, Registry.unregister, Registry.entryId, KeyedMap.get_remove, hne]
  | unregisterIf workspace id =>
    simp only [Cmd.exec]
    rw [Registry.entryId_unregisterIf, if_neg]
    rintro ⟨rfl, hentry⟩
    simpa [Cmd.unregistersId] using hid id hentry
  | touch workspace stamp => exact Registry.entryId_touch _ _ _ _
  | setStatusText workspace text => exact Registry.entryId_setStatusText _ _ _ _ _
  | _ => rfl

lemma entryId_of_registers (h : c.registers w = true) :
    (c.exec u r d).2.registry.entryId w = some (d.registry.nextId + 1) := by
  cases c with
  | register workspace dir description configPath idleTimeout =>
    obtain rfl : workspace = w := of_decide_eq_true h
    simp only [Cmd.exec, Registry.registerWithIdle, Registry.entryId]
    rw [KeyedMap.get_put, if_pos rfl, Option.map_some]
  | _ => cases h

lemma entryId_of_unregisters (h : c.unregisters w = true) :
    (c.exec u r d).2.registry.entryId w = none := by
  cases c with
  | unregister workspace =>
    obtain rfl : workspace = w := of_decide_eq_true h
    simp [Cmd.exec, Registry.unregister, Registry.entryId, KeyedMap.get_remove]
  | _ => cases h

lemma entryId_none_exec (hregister : c.registers w = false)
    (h : d.registry.entryId w = none) : (c.exec u r d).2.registry.entryId w = none := by
  cases hunregister : c.unregisters w with
  | true => exact entryId_of_unregisters hunregister
  | false =>
    rw [entryId_exec hregister hunregister, h]
    intro m hm
    rw [h] at hm
    cases hm

def Cmd.assignedId : (c : Cmd) → c.Result → Option Nat
  | .register .., entry => some entry.id
  | _, _ => none

/-- Ids are given out in order. -/
theorem nextId_exec (u : Unicode) (r : Reading) (d : HandlerCtx) (c : Cmd) :
    (c.assignedId (c.exec u r d).1 = none ∧
      (c.exec u r d).2.registry.nextId = d.registry.nextId) ∨
    (c.assignedId (c.exec u r d).1 = some (d.registry.nextId + 1) ∧
      (c.exec u r d).2.registry.nextId = d.registry.nextId + 1) := by
  cases c with
  | register workspace dir description configPath idleTimeout => exact Or.inr ⟨rfl, rfl⟩
  | unregisterIf workspace id =>
    refine Or.inl ⟨rfl, ?_⟩
    simp only [Cmd.exec, Registry.unregisterIf]
    split <;> rfl
  | touch workspace stamp =>
    refine Or.inl ⟨rfl, ?_⟩
    simp only [Cmd.exec, Registry.touch]
    split <;> rfl
  | setStatusText workspace text =>
    refine Or.inl ⟨rfl, ?_⟩
    simp only [Cmd.exec, Registry.setStatusText]
    split <;> rfl
  | _ => exact Or.inl ⟨rfl, rfl⟩

end Exec

/-! ## Who can remove an entry by its id -/

/-- The answer does not give out the id `n`. -/
def Withholds (n : Nat) (c : Cmd) (answer : c.Result) : Prop :=
  c.Posted answer ∧ c.assignedId answer ≠ some n

/-- The command does not remove an entry by the id `n`. -/
def Cmd.SparesId (n : Nat) (c : Cmd) : Prop :=
  ∀ w, c.unregistersId w n = false

lemma trusted_allTasks (x : String) : Trusted allTasks x (Withholds n) where
  enqueued _ _ h := h.1
  asked _ _ _ _ _ _ := trivial
  refused _ _ _ _ _ _ := trivial

lemma Cmd.Permitted.sparesId {S : Scope} {mail : MailUse} {x : String} {c : Cmd}
    (h : c.Permitted S mail x) : c.SparesId n := by
  intro w
  cases c with
  | unregisterIf workspace id => exact h.elim
  | _ => rfl

lemma spares_of_behaves {α : Type} {S : Scope} {mail : MailUse} {x : String}
    {p : Program α} (h : Behaves (Withholds n) S mail x p) :
    p.Honours (Withholds n) (Cmd.SparesId n) fun _ => True :=
  h.mono (fun _ hc => hc.sparesId) fun _ _ => trivial

lemma spares_handleEnvelope {conn : Connection} (hconn : conn.connectionId ≠ some n)
    (envelope : Envelope) :
    (handleEnvelope u conn envelope).Honours (Withholds n) (Cmd.SparesId n)
      fun conn' => conn'.connectionId ≠ some n := by
  cases envelope with
  | register payload =>
    simp only [handleEnvelope]
    exact .act (fun _ => rfl) fun entry hentry => .ret hentry.2
  | unregister =>
    simp only [handleEnvelope, handleUnregister]
    split
    · exact .act (fun _ => rfl) fun _ _ => .ret nofun
    · exact .ret nofun
  | request req hreq =>
    have hsame : ∀ y ∈ (req conn.workspace).issuer,
        y = (req conn.workspace).issuer.getD "" := by
      intro y hy
      rw [Option.mem_def.mp hy, Option.getD_some]
    have hhandle := spares_of_behaves (n := n)
      (behaves_handle (u := u) (hreq conn.workspace) hsame (trusted_allTasks _))
    exact hhandle.bind fun _ _ => .ret hconn
  | elsewhere =>
    have htouch : Serves (Withholds n) allTasks peerMail "" (touchNow conn.workspace) :=
      serves_touchNow conn.workspace
    exact (spares_of_behaves htouch.behaves).bind fun _ _ => .ret hconn

lemma spares_handleConnection {conn : Connection} (hconn : conn.connectionId ≠ some n)
    (envelopes : List Envelope) :
    (handleConnection u conn envelopes).Honours (Withholds n) (Cmd.SparesId n) fun _ => True := by
  induction envelopes generalizing conn with
  | nil =>
    simp only [handleConnection, closeConnection, handleDisconnect]
    split
    · exact .ret trivial
    · rename_i id hid
      refine .act (fun w => ?_) fun _ _ => .ret trivial
      have hne : id ≠ n := fun heq => hconn (hid.trans (congrArg some heq))
      simp [Cmd.unregistersId, hne]
  | cons envelope rest ih =>
    exact (spares_handleEnvelope hconn envelope).bind fun conn' hconn' => ih hconn'

lemma spares_pass (pass : Pass) :
    (pass.job.program u).Honours (Withholds n) (Cmd.SparesId n) fun _ => True := by
  cases pass with
  | wake =>
    have hprocess := spares_of_behaves (n := n) (x := "")
      (behaves_process (u := u) fun y => trusted_allTasks y)
    exact hprocess.bind fun _ _ => .ret trivial
  | recover => exact .act (fun _ => rfl) fun _ _ => .ret trivial
  | nudge =>
    exact spares_of_behaves (S := allTasks) (x := "") (behaves_nudgePass fun _ _ _ _ _ _ => trivial)

/-! ## Registrations -/

namespace Threads

def registry (p : Threads) : Registry :=
  p.shared.ctx.registry

/-- The turn registers `w`. -/
def Registers (w : String) (p : Threads) (a : Turn Reading) : Prop :=
  (p.command a.thread).any (Cmd.registers w) = true

/-- The turn unregisters `w`. -/
def Unregisters (w : String) (p : Threads) (a : Turn Reading) : Prop :=
  (p.command a.thread).any (Cmd.unregisters w) = true

/-- The turn is not a registration, an unregistration or the end of the connection `i`,
and no registration of `w`. -/
def Undisturbed (i : Nat) (w : String) (p : Threads) (a : Turn Reading) : Prop :=
  ¬p.Registers w a ∧ (a.thread = i → (p.command a.thread).any Cmd.isRegistration = false)

lemma withholds_exec {r : Reading} {s : Shared} {c : Cmd} {out : c.Result × Shared}
    (hout : s.exec u r c = some out) (hn : out.2.ctx.registry.nextId < n) :
    Withholds n c out.1 ∧ s.ctx.registry.nextId < n := by
  obtain ⟨hanswer, hctx⟩ := Shared.exec_eq_some hout
  rw [hctx] at hn
  rw [hanswer]
  rcases nextId_exec u r s.ctx c with ⟨hnone, hnext⟩ | ⟨hsome, hnext⟩
  · rw [hnext] at hn
    exact ⟨⟨posted_exec u r s.ctx c, by rw [hnone]; nofun⟩, hn⟩
  · rw [hnext] at hn
    refine ⟨⟨posted_exec u r s.ctx c, ?_⟩, by omega⟩
    rw [hsome]
    intro heq
    have hid := Option.some.inj heq
    omega

lemma honouring_of_nextId_lt {clients : List (List Envelope)} {passes : List Pass}
    {d : HandlerCtx} {turns : List (Turn Reading)} {p : Threads}
    (hrun : Exec (Step u) (serve u clients passes d) turns p) (hn : p.registry.nextId < n) :
    p.Honouring (Withholds n) fun _ => Cmd.SparesId n := by
  refine hrun.invariant (P := fun p : Threads => p.registry.nextId < n →
    p.Honouring (Withholds n) fun _ => Cmd.SparesId n) ?_ ?_ hn
  · intro p a q hstep ih hn
    have hbefore : p.registry.nextId < n := by
      obtain ⟨c, k, out, hthread, hout, rfl⟩ := Pool.step_iff.mp hstep
      exact (withholds_exec hout hn).2
    refine hstep.honouring (ih hbefore) fun c out _ hout hq => ?_
    have hafter : out.2.ctx.registry.nextId < n := hq ▸ hn
    exact (withholds_exec hout hafter).1
  · intro hn i t ht
    rcases List.mem_append.mp (List.mem_of_getElem? ht) with hclient | hpass
    · obtain ⟨envelopes, _, rfl⟩ := List.mem_map.mp hclient
      exact spares_handleConnection (by simp [Connection.new]) envelopes
    · obtain ⟨pass, _, rfl⟩ := List.mem_map.mp hpass
      exact spares_pass pass

end Threads

structure Registration (u : Unicode) (w : String) where
  clients : List (List Envelope)
  passes : List Pass
  ctx : HandlerCtx
  before : List (Turn Reading)
  turn : Turn Reading
  after : List (Turn Reading)
  registering : Threads
  registered : Threads
  last : Threads
  reached : Exec (Threads.Step u) (Threads.serve u clients passes ctx) before registering
  registers : registering.Registers w turn
  step : Threads.Step u registering turn registered
  rest : Exec (Threads.Step u) registered after last
  undisturbed : Exec.EachStep (Threads.Step u) (Threads.Undisturbed turn.thread w)
    registered after

namespace Registration

def id (run : Registration u w) : Nat :=
  run.registering.registry.nextId + 1

variable (run : Registration u w)

lemma entryId_registered :
    run.registered.registry.entryId w = some run.id ∧
      run.registered.registry.nextId = run.id := by
  obtain ⟨c, hc, hctx⟩ := Threads.exec_of_step run.step
  have hregisters := run.registers
  rw [Threads.Registers, hc] at hregisters
  unfold Threads.registry id
  rw [hctx]
  refine ⟨entryId_of_registers hregisters, ?_⟩
  cases c with
  | register workspace dir description configPath idleTimeout => rfl
  | _ => cases hregisters

lemma honouring_registered :
    run.registered.Honouring (Withholds run.id)
      fun i c => i ≠ run.turn.thread → c.SparesId run.id := by
  have hbefore := Threads.honouring_of_nextId_lt run.reached (Nat.lt_succ_self _)
  obtain ⟨c, k, out, hthread, hout, hnext⟩ := Pool.step_iff.mp run.step
  intro i t ht
  by_cases hi : i = run.turn.thread
  · exact .of_forall (fun _ hne => absurd hi hne) t
  · rw [hnext, List.getElem?_set_ne (Ne.symm hi)] at ht
    exact (hbefore i t ht).mono (fun _ hc _ => hc) fun _ h => h

lemma entryId_last
    (hnone : Exec.EachStep (Threads.Step u) (fun p a => ¬p.Unregisters w a)
      run.registered run.after) : run.last.registry.entryId w = some run.id := by
  have hcond : Exec.EachStep (Threads.Step u)
      (fun p a => Threads.Undisturbed run.turn.thread w p a ∧ ¬p.Unregisters w a)
      run.registered run.after :=
    fun pre a post m hafter hpre =>
      ⟨run.undisturbed pre a post m hafter hpre, hnone pre a post m hafter hpre⟩
  have hstates := Pool.eachState_of_honouring
    (P := fun s : Shared => s.ctx.registry.entryId w = some run.id ∧
      run.id ≤ s.ctx.registry.nextId) ?_ run.honouring_registered ?_ hcond
  · exact (hstates run.after [] run.last (List.append_nil _).symm run.rest).2.1
  · rintro p a c out ⟨⟨hregister, hown⟩, hunregister⟩ ⟨hentry, hid⟩ hcommand hc hout
    rw [Threads.Registers, hcommand] at hregister
    rw [Threads.Unregisters, hcommand] at hunregister
    rw [hcommand] at hown
    obtain ⟨hanswer, hctx⟩ := Shared.exec_eq_some hout
    rw [hanswer, hctx]
    have hspares : c.unregistersId w run.id = false := by
      by_cases hthread : a.thread = run.turn.thread
      · have hplain := hown hthread
        cases c with
        | unregisterIf workspace id => cases hplain
        | _ => rfl
      · exact hc hthread w
    refine ⟨⟨posted_exec u a.reading p.shared.ctx c, ?_⟩, ?_, ?_⟩
    · rcases nextId_exec u a.reading p.shared.ctx c with ⟨hnone, _⟩ | ⟨hsome, _⟩
      · rw [hnone]
        nofun
      · rw [hsome]
        intro heq
        have := Option.some.inj heq
        omega
    · rw [entryId_exec (Bool.eq_false_iff.mpr hregister) (Bool.eq_false_iff.mpr hunregister),
        hentry]
      intro m hm
      rw [hentry] at hm
      obtain rfl := Option.some.inj hm
      exact hspares
    · rcases nextId_exec u a.reading p.shared.ctx c with ⟨_, hnext⟩ | ⟨_, hnext⟩ <;> omega
  · obtain ⟨hentry, hnext⟩ := run.entryId_registered
    exact ⟨hentry, hnext.ge⟩

lemma entryId_last_eq_none {pre post : List (Turn Reading)} {a : Turn Reading} {m : Threads}
    (hafter : run.after = pre ++ a :: post) (hpre : Exec (Threads.Step u) run.registered pre m)
    (h : m.Unregisters w a) : run.last.registry.entryId w = none := by
  have hrest := run.rest
  have hundisturbed := run.undisturbed
  rw [hafter] at hrest hundisturbed
  obtain ⟨m', hpre', hlast⟩ := Exec.append_iff.mp hrest
  obtain rfl := hpre.deterministic (fun _ _ _ _ => Pool.Step.deterministic) hpre'
  obtain ⟨q, hstep, hpost⟩ := Exec.cons_iff.mp hlast
  have hgone : q.registry.entryId w = none := by
    obtain ⟨c, hc, hctx⟩ := Threads.exec_of_step hstep
    rw [Threads.Unregisters, hc] at h
    unfold Threads.registry
    rw [hctx]
    exact entryId_of_unregisters h
  have hquiet : Exec.EachStep (Threads.Step u) (Threads.Undisturbed run.turn.thread w) q post := by
    rw [List.append_cons] at hundisturbed
    exact hundisturbed.drop (hpre.append (.single hstep))
  refine hpost.invariant_of_eachStep (Q := fun p : Threads => p.registry.entryId w = none)
    (fun p b p' hturn hnone hb => ?_) hgone hquiet
  obtain ⟨c, hc, hctx⟩ := Threads.exec_of_step hturn
  have hregister := hb.1
  rw [Threads.Registers, hc] at hregister
  unfold Threads.registry at hnone ⊢
  rw [hctx]
  exact entryId_none_exec (Bool.eq_false_iff.mpr hregister) hnone

end Registration

/-- Ownership of a registration.  Let a connection register a workspace, and let it
neither register again nor unregister nor close, and nobody else register the workspace
again.  In every interleaving of any number of connections and passes, the entry is still
there exactly if no connection unregisters the workspace in the meantime. -/
theorem registration_kept_iff (run : Registration u w) :
    run.last.registry.entryId w = some run.id ↔
      Exec.EachStep (Threads.Step u) (fun p a => ¬p.Unregisters w a)
        run.registered run.after := by
  constructor
  · intro hkept pre a post m hafter hpre hunregisters
    rw [run.entryId_last_eq_none hafter hpre hunregisters] at hkept
    cases hkept
  · exact run.entryId_last

/-! ## Two runs -/

namespace Threads

instance (w : String) (p : Threads) (a : Turn Reading) : Decidable (p.Registers w a) :=
  inferInstanceAs (Decidable (_ = true))

instance (w : String) (p : Threads) (a : Turn Reading) : Decidable (p.Unregisters w a) :=
  inferInstanceAs (Decidable (_ = true))

instance (i : Nat) (w : String) (p : Threads) (a : Turn Reading) :
    Decidable (p.Undisturbed i w a) :=
  inferInstanceAs (Decidable (¬_ ∧ (_ → _ = false)))

end Threads

def Registration.ofRuns {clients : List (List Envelope)} {passes : List Pass} {ctx : HandlerCtx}
    {before after : List (Turn Reading)} {turn : Turn Reading}
    {registering registered last : Threads}
    (hbefore : runSteps (Pool.next (Shared.exec u)) (Threads.serve u clients passes ctx) before =
      some registering)
    (hturn : Pool.next (Shared.exec u) registering turn = some registered)
    (hafter : runSteps (Pool.next (Shared.exec u)) registered after = some last)
    (hregisters : registering.Registers w turn)
    (hundisturbed : checkSteps (Pool.next (Shared.exec u))
      (fun p a => decide (Threads.Undisturbed turn.thread w p a)) registered after = true) :
    Registration u w where
  clients := clients
  passes := passes
  ctx := ctx
  before := before
  turn := turn
  after := after
  registering := registering
  registered := registered
  last := last
  reached := Threads.exec_of_runs hbefore
  registers := hregisters
  step := hturn
  rest := Threads.exec_of_runs hafter
  undisturbed := eachStep_of_checkSteps (fun _ _ _ h => h) (fun _ _ => of_decide_eq_true)
    hundisturbed

/-- Two connections register `bob`, and the first one goes on with `rest`: the states
around the second registration and the one after the next turn of the first
connection. -/
def takeoverRun (rest : List Envelope) : Option (Threads × Threads × Threads) :=
  runAround (Pool.next (Shared.exec .ascii))
    (Threads.serve .ascii [.register ⟨"bob", "/bob", "", "", 0⟩ :: rest,
      [.register ⟨"bob", "/bob", "", "", 0⟩]] [] newCtx)
    (turns 0 1) ⟨1, calmReading⟩ (turns 0 1)

lemma closedLater_isSome : (takeoverRun []).isSome = true := by
  decide

def closedLater : Registration .ascii "bob" :=
  have hruns := runAround_eq_some (Option.some_get closedLater_isSome).symm
  .ofRuns hruns.1 hruns.2.1 hruns.2.2 (by decide) (by decide)

/-- To close is not to unregister, and the entry of the second connection stays. -/
theorem closedLater_keeps_entry :
    closedLater.last.registry.entryId "bob" = some closedLater.id := by
  refine (registration_kept_iff closedLater).mpr ?_
  exact eachStep_of_checkSteps (fun _ _ _ hstep => hstep)
    (p := fun p a => decide (¬Threads.Unregisters "bob" p a)) (fun _ _ => of_decide_eq_true)
    (by decide)

lemma unregisteredLater_isSome : (takeoverRun [.unregister]).isSome = true := by
  decide

def unregisteredLater : Registration .ascii "bob" :=
  have hruns := runAround_eq_some (Option.some_get unregisteredLater_isSome).symm
  .ofRuns hruns.1 hruns.2.1 hruns.2.2 (by decide) (by decide)

/-- The first connection, whose registration was replaced, unregisters: the entry of the
second one is gone. -/
theorem unregisteredLater_loses_entry :
    unregisteredLater.registered.registry.entryId "bob" = some unregisteredLater.id ∧
      unregisteredLater.last.registry.entryId "bob" = none := by
  exact ⟨by decide, by decide⟩

end Ax.Daemon
