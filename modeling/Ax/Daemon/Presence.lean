import Ax.Daemon.Connections

/-!
# Who serves an entry

A registered workspace counts as online.  Its messages go to an outbox that the forwarder of
one connection drains.  A connection remembers one workspace and one entry, and has one
forwarder; a further registration replaces both, and the entry of the first name stays.  A
connection that unregisters forgets its entry, but the registry ignores the empty name.

Here connections open, register, unregister and close in any order.  The books say which
connection made an entry.

Main results:

- Theorem `presence_iff`: every entry is served exactly if no connection registers another
  name while it has an entry, or closes when it has forgotten one.
-/

namespace Ax.Daemon

structure Session where
  conn : Connection
  forwarder : Option Nat
deriving DecidableEq, Repr

/-- A connection that was just accepted. -/
def Session.new : Session where
  conn := .new
  forwarder := none

structure Presence where
  ctx : HandlerCtx
  opened : Nat
  sessions : Nat → Option Session
  creator : Nat → Option Nat

/-- What happens on the socket. -/
inductive PresenceEvent
  | connect
  | register (c : Nat) (r : Reading) (payload : RegisterPayload)
  | unregister (c : Nat) (r : Reading)
  | close (c : Nat) (r : Reading)

namespace Presence

variable {u : Unicode} {s t : Presence} {a : PresenceEvent}

/-- A daemon without connections. -/
def new : Presence where
  ctx := newCtx
  opened := 0
  sessions := fun _ => none
  creator := fun _ => none

def run {α : Type} (u : Unicode) (r : Reading) (p : Program α) (d : HandlerCtx) :
    α × HandlerCtx :=
  p.run (fun c d => c.exec u r d) d

def step (u : Unicode) (s : Presence) : PresenceEvent → Option Presence
  | .connect =>
    some { s with
      opened := s.opened + 1
      sessions := Function.update s.sessions s.opened (some .new) }
  | .register c r payload =>
    (s.sessions c).map fun session =>
      let (conn, ctx) := run u r (handleEnvelope u session.conn (.register payload)) s.ctx
      { s with
        ctx := ctx
        sessions := Function.update s.sessions c (some ⟨conn, conn.connectionId⟩)
        creator := fun id => if conn.connectionId = some id then some c else s.creator id }
  | .unregister c r =>
    (s.sessions c).map fun session =>
      let (conn, ctx) := run u r (handleEnvelope u session.conn .unregister) s.ctx
      { s with
        ctx := ctx
        sessions := Function.update s.sessions c (some { session with conn := conn }) }
  | .close c r =>
    (s.sessions c).map fun session =>
      { s with
        ctx := (run u r (closeConnection session.conn) s.ctx).2
        sessions := Function.update s.sessions c none }

def Step (u : Unicode) (s : Presence) (a : PresenceEvent) (t : Presence) : Prop :=
  s.step u a = some t

def entry (s : Presence) (w : String) : Option Entry :=
  s.ctx.registry.entries.get w

def lastId (s : Presence) : Nat :=
  s.ctx.registry.nextId

inductive Effect (s t : Presence) : PresenceEvent → Prop
  | connect (hctx : t.ctx = s.ctx) (hopened : t.opened = s.opened + 1)
      (hsessions : t.sessions = Function.update s.sessions s.opened (some .new))
      (hcreator : t.creator = s.creator) : Effect s t .connect
  | register {c : Nat} {r : Reading} {payload : RegisterPayload}
      (session : Session) (new : Entry) (hopen : s.sessions c = some session)
      (hopened : t.opened = s.opened) (hid : new.id = s.lastId + 1)
      (hlast : t.lastId = s.lastId + 1)
      (hentry : ∀ w, t.entry w = if w = payload.workspace then some new else s.entry w)
      (hsessions : t.sessions = Function.update s.sessions c
        (some ⟨⟨payload.workspace, some new.id⟩, some new.id⟩))
      (hcreator : t.creator = Function.update s.creator new.id (some c)) :
      Effect s t (.register c r payload)
  | unregister {c : Nat} {r : Reading} (session : Session)
      (hopen : s.sessions c = some session) (hopened : t.opened = s.opened)
      (hlast : t.lastId = s.lastId) (hentry : ∀ w e, t.entry w = some e ↔
        s.entry w = some e ∧ ¬(w = session.conn.workspace ∧ w ≠ ""))
      (hsessions : t.sessions = Function.update s.sessions c
        (some ⟨⟨"", none⟩, session.forwarder⟩))
      (hcreator : t.creator = s.creator) : Effect s t (.unregister c r)
  | close {c : Nat} {r : Reading} (session : Session)
      (hopen : s.sessions c = some session) (hopened : t.opened = s.opened)
      (hlast : t.lastId = s.lastId) (hentry : ∀ w e, t.entry w = some e ↔
        s.entry w = some e ∧ session.conn ≠ ⟨w, some e.id⟩)
      (hsessions : t.sessions = Function.update s.sessions c none)
      (hcreator : t.creator = s.creator) : Effect s t (.close c r)

lemma run_register (r : Reading) (conn : Connection) (payload : RegisterPayload)
    (d : HandlerCtx) :
    ∃ new : Entry, new.id = d.registry.nextId + 1 ∧ new.name = payload.workspace ∧
      run u r (handleEnvelope u conn (.register payload)) d =
        (⟨payload.workspace, some new.id⟩,
          { d with registry := ⟨d.registry.nextId + 1, d.registry.entries.put new⟩ }) :=
  ⟨_, rfl, rfl, rfl⟩

lemma run_unregister (r : Reading) (conn : Connection) (d : HandlerCtx) :
    run u r (handleEnvelope u conn .unregister) d =
      (⟨"", none⟩, { d with
        registry := if conn.workspace = "" then d.registry
          else d.registry.unregister conn.workspace }) := by
  by_cases hempty : conn.workspace = ""
  · simp only [run, handleEnvelope, handleUnregister, hempty]
    rfl
  · simp only [run, handleEnvelope, handleUnregister, hempty, ne_eq, not_false_eq_true, if_true,
      if_false]
    rfl

lemma run_closeConnection (r : Reading) (conn : Connection) (d : HandlerCtx) :
    (run u r (closeConnection conn) d).2 = { d with
      registry := match conn.connectionId with
        | none => d.registry
        | some id => (d.registry.unregisterIf conn.workspace id).2 } := by
  unfold closeConnection
  cases conn.connectionId <;> rfl

lemma get_unregisterIf (registry : Registry) (workspace : String) (id : Nat) (w : String)
    (e : Entry) :
    (registry.unregisterIf workspace id).2.entries.get w = some e ↔
      registry.entries.get w = some e ∧ ¬(w = workspace ∧ e.id = id) := by
  by_cases hw : w = workspace
  · subst hw
    cases hget : registry.entries.get w with
    | none => simp [Registry.unregisterIf, hget]
    | some old =>
      by_cases hid : old.id = id
      · simp only [Registry.unregisterIf, Registry.unregister, hget, Option.any_some, hid,
          decide_true, if_true, KeyedMap.get_remove]
        constructor
        · intro heq
          cases heq
        · rintro ⟨heq, hne⟩
          obtain rfl := Option.some.inj heq
          exact absurd ⟨trivial, hid⟩ hne
      · simp only [Registry.unregisterIf, hget, Option.any_some, hid, decide_false,
          Bool.false_eq_true, if_false]
        refine ⟨fun heq => ⟨heq, ?_⟩, And.left⟩
        obtain rfl := Option.some.inj heq
        exact fun h => hid h.2
  · unfold Registry.unregisterIf Registry.unregister
    split
    · simp [KeyedMap.get_remove, hw]
    · simp [hw]

/-- What an event does. -/
theorem Step.effect (h : Step u s a t) : Effect s t a := by
  unfold Step at h
  cases a with
  | connect =>
    cases h
    exact .connect rfl rfl rfl rfl
  | register c r payload =>
    obtain ⟨session, hopen, rfl⟩ := Option.map_eq_some_iff.mp h
    obtain ⟨new, hid, hname, hrun⟩ := run_register (u := u) r session.conn payload s.ctx
    rw [hrun]
    refine .register session new hopen rfl hid rfl (fun w => ?_) rfl ?_
    · rw [← hname]
      exact KeyedMap.get_put _ _ _
    · funext id
      rw [Function.update_apply]
      simp [eq_comm]
  | unregister c r =>
    obtain ⟨session, hopen, rfl⟩ := Option.map_eq_some_iff.mp h
    rw [run_unregister]
    refine .unregister session hopen rfl ?_ (fun w e => ?_) rfl rfl
    · simp only [lastId]
      split <;> rfl
    · simp only [entry]
      split
      · rename_i hempty
        simp +contextual [hempty]
      · rename_i hne
        rw [Registry.unregister, KeyedMap.get_remove]
        by_cases hw : w = session.conn.workspace
        · subst hw
          simp [hne]
        · simp [hw]
  | close c r =>
    obtain ⟨session, hopen, rfl⟩ := Option.map_eq_some_iff.mp h
    rw [run_closeConnection]
    obtain ⟨⟨workspace, connectionId⟩, forwarder⟩ := session
    cases connectionId with
    | none => exact .close _ hopen rfl rfl (fun w e => by simp [entry]) rfl rfl
    | some id =>
      refine .close _ hopen rfl ?_ (fun w e => ?_) rfl rfl
      · simp only [lastId, Registry.unregisterIf]
        split <;> rfl
      · simp only [entry]
        rw [get_unregisterIf]
        simp [eq_comm]

/-! ## What connections know -/

structure WellFormed (s : Presence) : Prop where
  fresh : ∀ c, s.opened ≤ c → s.sessions c = none
  entryIds : ∀ w e, s.entry w = some e → e.id ≤ s.lastId
  forwarderIds : ∀ c session n, s.sessions c = some session → session.forwarder = some n →
    n ≤ s.lastId
  memory : ∀ c session w e, s.sessions c = some session → s.entry w = some e →
    session.forwarder = some e.id →
      session.conn = ⟨w, some e.id⟩ ∨ (w = "" ∧ session.conn.connectionId = none)

lemma WellFormed.lt_opened (h : WellFormed s) {c : Nat} {session : Session}
    (hopen : s.sessions c = some session) : c < s.opened := by
  refine Nat.lt_of_not_le fun hle => ?_
  rw [h.fresh c hle] at hopen
  cases hopen

lemma WellFormed.of_shrinks (h : WellFormed s) {c : Nat} {next : Option Session}
    (hfresh : ∀ c', t.opened ≤ c' → t.sessions c' = none) (hlast : t.lastId = s.lastId)
    (hentry : ∀ w e, t.entry w = some e → s.entry w = some e)
    (hsessions : t.sessions = Function.update s.sessions c next)
    (hforwarder : ∀ session n, next = some session → session.forwarder = some n → n ≤ s.lastId)
    (hmemory : ∀ session w e, next = some session → t.entry w = some e →
      session.forwarder = some e.id →
        session.conn = ⟨w, some e.id⟩ ∨ (w = "" ∧ session.conn.connectionId = none)) :
    WellFormed t := by
  refine ⟨hfresh, fun w e he => ?_, fun c' session n hopen hn => ?_,
    fun c' session w e hopen he hn => ?_⟩
  · rw [hlast]
    exact h.entryIds w e (hentry w e he)
  · rw [hlast]
    rw [hsessions, Function.update_apply] at hopen
    split at hopen
    · exact hforwarder session n hopen hn
    · exact h.forwarderIds c' session n hopen hn
  · rw [hsessions, Function.update_apply] at hopen
    split at hopen
    · exact hmemory session w e hopen he hn
    · exact h.memory c' session w e hopen (hentry w e he) hn

/-- An event keeps what connections know. -/
theorem WellFormed.step (h : WellFormed s) (hstep : Step u s a t) : WellFormed t := by
  have hfresh : ∀ c next, (c ≤ s.opened ∧ t.opened = s.opened + 1 ∨
      c < s.opened ∧ t.opened = s.opened) → t.sessions = Function.update s.sessions c next →
      ∀ c', t.opened ≤ c' → t.sessions c' = none := by
    intro c next hbound hsessions c' hc'
    rw [hsessions, Function.update_of_ne (by omega)]
    exact h.fresh c' (by omega)
  cases hstep.effect with
  | connect hctx hopened hsessions _ =>
    refine h.of_shrinks (hfresh _ _ (.inl ⟨le_rfl, hopened⟩) hsessions) ?_ ?_ hsessions ?_ ?_
    · rw [lastId, hctx, lastId]
    · intro w e he
      rwa [entry, hctx] at he
    · rintro session n hnew hn
      obtain rfl := Option.some.inj hnew
      cases hn
    · rintro session w e hnew _ hn
      obtain rfl := Option.some.inj hnew
      cases hn
  | @register c r payload session new hopen hopened hid hlast hentry hsessions _ =>
    refine ⟨hfresh _ _ (.inr ⟨h.lt_opened hopen, hopened⟩) hsessions, fun w e he => ?_,
      fun c' session' n hopen' hn => ?_, fun c' session' w e hopen' he hn => ?_⟩
    · rw [hentry] at he
      rw [hlast]
      split at he
      · obtain rfl := Option.some.inj he
        exact hid.le
      · exact Nat.le_succ_of_le (h.entryIds w e he)
    · rw [hlast]
      rw [hsessions, Function.update_apply] at hopen'
      split at hopen'
      · obtain rfl := Option.some.inj hopen'
        obtain rfl := Option.some.inj hn
        exact hid.le
      · exact Nat.le_succ_of_le (h.forwarderIds c' session' n hopen' hn)
    · rw [hentry] at he
      rw [hsessions, Function.update_apply] at hopen'
      split at hopen'
      · obtain rfl := Option.some.inj hopen'
        have hnew : new.id = e.id := Option.some.inj hn
        split at he
        · rename_i hw
          rw [hw, hnew]
          exact .inl rfl
        · have hold := h.entryIds w e he
          omega
      · split at he
        · obtain rfl := Option.some.inj he
          have hold := h.forwarderIds c' session' _ hopen' hn
          omega
        · exact h.memory c' session' w e hopen' he hn
  | @unregister c r session hopen hopened hlast hentry hsessions _ =>
    refine h.of_shrinks (hfresh _ _ (.inr ⟨h.lt_opened hopen, hopened⟩) hsessions) hlast
      (fun w e he => ((hentry w e).mp he).1) hsessions ?_ ?_
    · rintro session' n hnext hn
      obtain rfl := Option.some.inj hnext
      exact h.forwarderIds c session n hopen hn
    · rintro session' w e hnext he hn
      obtain rfl := Option.some.inj hnext
      obtain ⟨hbefore, hkept⟩ := (hentry w e).mp he
      rcases h.memory c session w e hopen hbefore hn with hconn | ⟨hw, _⟩
      · rw [hconn] at hkept
        exact .inr ⟨by simpa using hkept, rfl⟩
      · exact .inr ⟨hw, rfl⟩
  | @close c r session hopen hopened hlast hentry hsessions _ =>
    exact h.of_shrinks (hfresh _ _ (.inr ⟨h.lt_opened hopen, hopened⟩) hsessions) hlast
      (fun w e he => ((hentry w e).mp he).1) hsessions
      (fun _ _ hnone => nomatch hnone) (fun _ _ _ hnone => nomatch hnone)

lemma wellFormed_of_exec {events : List PresenceEvent} (hrun : Exec (Step u) new events s) :
    WellFormed s := by
  refine hrun.invariant (fun hstep h => h.step hstep) ⟨?_, ?_, ?_, ?_⟩
  · exact fun _ _ => rfl
  · intro w e hentry
    simp [entry, new, newCtx, Registry.new] at hentry
  · exact fun _ _ _ hsession => nomatch hsession
  · exact fun _ _ _ _ hsession => nomatch hsession

/-! ## Served entries -/

def entries (s : Presence) : List Entry :=
  s.ctx.registry.entries.values

lemma forall_entries {P : Entry → Prop} :
    (∀ e ∈ s.entries, P e) ↔ ∀ w e, s.entry w = some e → P e := by
  constructor
  · intro h w e he
    refine h e (KeyedMap.mem_values_iff.mpr ?_)
    rwa [KeyedMap.key_of_get he]
  · intro h e he
    exact h e.name e (KeyedMap.mem_values_iff.mp he)

def Served (s : Presence) : Prop :=
  ∀ e ∈ s.entries, ∃ c session, s.creator e.id = some c ∧ s.sessions c = some session ∧
    session.forwarder = some e.id

def Harmless (s : Presence) : PresenceEvent → Prop
  | .register c _ payload => ∀ e ∈ s.entries, s.creator e.id = some c → e.name = payload.workspace
  | .close c _ =>
    ∀ e ∈ s.entries, s.creator e.id = some c →
      ∀ session ∈ s.sessions c, session.conn.connectionId ≠ none
  | .connect | .unregister .. => True

instance (s : Presence) (a : PresenceEvent) : Decidable (s.Harmless a) :=
  match a with
  | .register .. => inferInstanceAs (Decidable (∀ e ∈ s.entries, _ → _))
  | .close .. => inferInstanceAs (Decidable (∀ e ∈ s.entries, _ → ∀ session ∈ _, _))
  | .connect | .unregister .. => inferInstanceAs (Decidable True)

lemma served_step_iff (hwf : WellFormed s) (hserved : Served s) (hstep : Step u s a t) :
    Served t ↔ s.Harmless a := by
  rw [Served, forall_entries] at hserved ⊢
  cases hstep.effect with
  | connect hctx _ hsessions hcreator =>
    refine iff_of_true (fun w e he => ?_) trivial
    rw [entry, hctx] at he
    obtain ⟨c, session, hcreated, hopen, hforwarder⟩ := hserved w e he
    have hne : c ≠ s.opened := (hwf.lt_opened hopen).ne
    exact ⟨c, session, by rw [hcreator, hcreated],
      by rw [hsessions, Function.update_of_ne hne, hopen], hforwarder⟩
  | @register c r payload session new hopen _ hid hlast hentry hsessions hcreator =>
    have hold : ∀ w e, s.entry w = some e → e.id ≠ new.id := by
      intro w e he
      have hle := hwf.entryIds w e he
      omega
    rw [Harmless, forall_entries]
    constructor
    · intro hserved' w e he hcreated
      -- The forwarder of the connection drains the new entry now.
      by_contra hname
      have hw : w ≠ payload.workspace := by rwa [← KeyedMap.key_of_get he]
      obtain ⟨c', session', hcreated', hopen', hforwarder⟩ :=
        hserved' w e (by rw [hentry, if_neg hw, he])
      rw [hcreator, Function.update_of_ne (hold w e he), hcreated] at hcreated'
      obtain rfl := Option.some.inj hcreated'
      rw [hsessions, Function.update_self] at hopen'
      obtain rfl := Option.some.inj hopen'
      exact hold w e he (Option.some.inj hforwarder).symm
    · intro hharmless w e he
      rw [hentry] at he
      split at he
      · obtain rfl := Option.some.inj he
        exact ⟨c, _, by rw [hcreator, Function.update_self],
          by rw [hsessions, Function.update_self], rfl⟩
      · rename_i hw
        obtain ⟨c', session', hcreated, hopen', hforwarder⟩ := hserved w e he
        have hne : c' ≠ c := by
          rintro rfl
          exact hw (KeyedMap.key_of_get he ▸ hharmless w e he hcreated)
        exact ⟨c', session', by rw [hcreator, Function.update_of_ne (hold w e he), hcreated],
          by rw [hsessions, Function.update_of_ne hne, hopen'], hforwarder⟩
  | @unregister c r session hopen _ hlast hentry hsessions hcreator =>
    refine iff_of_true (fun w e he => ?_) trivial
    obtain ⟨c', session', hcreated, hopen', hforwarder⟩ := hserved w e ((hentry w e).mp he).1
    by_cases hc : c' = c
    · subst hc
      obtain rfl := Option.some.inj (hopen.symm.trans hopen')
      exact ⟨c', ⟨⟨"", none⟩, session.forwarder⟩, by rw [hcreator, hcreated],
        by rw [hsessions, Function.update_self], hforwarder⟩
    · exact ⟨c', session', by rw [hcreator, hcreated],
        by rw [hsessions, Function.update_of_ne hc, hopen'], hforwarder⟩
  | @close c r session hopen _ hlast hentry hsessions hcreator =>
    rw [Harmless, forall_entries]
    constructor
    · intro hserved' w e he hcreated session' hopen' hnone
      -- What the connection does not remember it does not remove.
      obtain rfl := Option.some.inj (hopen.symm.trans hopen')
      have hkept : session.conn ≠ ⟨w, some e.id⟩ := by
        intro heq
        rw [heq] at hnone
        cases hnone
      obtain ⟨c', session', hcreated', hopen', _⟩ :=
        hserved' w e ((hentry w e).mpr ⟨he, hkept⟩)
      rw [hcreator, hcreated] at hcreated'
      obtain rfl := Option.some.inj hcreated'
      rw [hsessions, Function.update_self] at hopen'
      cases hopen'
    · intro hharmless w e he
      obtain ⟨hbefore, hkept⟩ := (hentry w e).mp he
      obtain ⟨c', session', hcreated, hopen', hforwarder⟩ := hserved w e hbefore
      have hne : c' ≠ c := by
        rintro rfl
        obtain rfl := Option.some.inj (hopen.symm.trans hopen')
        rcases hwf.memory c' session w e hopen hbefore hforwarder with hconn | ⟨_, hnone⟩
        · exact hkept hconn
        · exact hharmless w e hbefore hcreated session hopen hnone
      exact ⟨c', session', by rw [hcreator, hcreated],
        by rw [hsessions, Function.update_of_ne hne, hopen'], hforwarder⟩

end Presence

/-- No entry is a ghost: along every run from a new daemon, every entry was made by an open
connection whose forwarder drains it, exactly if no connection registers another name while
it has an entry, and none closes after it has unregistered an entry under the empty name. -/
theorem presence_iff {u : Unicode} {events : List PresenceEvent} {t : Presence}
    (hrun : Exec (Presence.Step u) .new events t) :
    Exec.EachState (Presence.Step u) Presence.Served .new events ↔
      Exec.EachStep (Presence.Step u) Presence.Harmless .new events := by
  have hboth : Exec.EachState (Presence.Step u) Presence.Served .new events ↔
      Exec.EachState (Presence.Step u) (fun s => s.WellFormed ∧ s.Served) .new events :=
    ⟨fun h pre post s hsplit hpre =>
      ⟨Presence.wellFormed_of_exec hpre, h pre post s hsplit hpre⟩,
      fun h pre post s hsplit hpre => (h pre post s hsplit hpre).2⟩
  rw [hboth]
  refine Exec.eachState_iff_eachStep (fun _ _ _ _ h h' => Option.some.inj (h.symm.trans h'))
    ?_ hrun ⟨Presence.wellFormed_of_exec (u := u) (.nil _), ?_⟩
  · rintro s a t hstep ⟨hwf, hserved⟩
    rw [← Presence.served_step_iff hwf hserved hstep]
    exact ⟨And.right, fun h => ⟨hwf.step hstep, h⟩⟩
  · simp [Presence.Served, Presence.entries, Presence.new, newCtx, Registry.new]

def renamed : List PresenceEvent :=
  [.connect, .register 0 calmReading ⟨"bob", "/bob", "", "", 0⟩, .unregister 0 calmReading,
   .register 0 calmReading ⟨"eve", "/eve", "", "", 0⟩, .close 0 calmReading]

/-- Every entry is served while a connection changes its name. -/
theorem renamed_served :
    ∃ t, Exec (Presence.Step .ascii) .new renamed t ∧
      Exec.EachState (Presence.Step .ascii) Presence.Served .new renamed := by
  have hrun : (runSteps (Presence.step .ascii) .new renamed).isSome := by decide
  have hexec := exec_of_runSteps (fun _ _ _ h => h) (Option.some_get hrun).symm
  refine ⟨_, hexec, (presence_iff hexec).mpr ?_⟩
  exact eachStep_of_checkSteps (fun _ _ _ h => h)
    (p := fun s a => decide (s.Harmless a)) (fun _ _ => of_decide_eq_true) (by decide)

def registeredTwice : List PresenceEvent :=
  [.connect, .register 0 calmReading ⟨"bob", "/bob", "", "", 0⟩,
   .register 0 calmReading ⟨"eve", "/eve", "", "", 0⟩, .close 0 calmReading]

lemma registeredTwice_isSome : (runSteps (Presence.step .ascii) .new registeredTwice).isSome := by
  decide

def afterTwice : Presence :=
  (runSteps (Presence.step .ascii) .new registeredTwice).get registeredTwice_isSome

lemma Presence.not_served_of_closed {s : Presence} {name : String} {c : Nat}
    (hentries : s.entries.map (fun e => (e.name, s.creator e.id)) = [(name, some c)])
    (hclosed : s.sessions c = none) : ¬ s.Served := by
  intro hserved
  have hmem : (name, some c) ∈ s.entries.map fun e => (e.name, s.creator e.id) := by
    rw [hentries]
    exact List.mem_cons_self
  obtain ⟨e, he, heq⟩ := List.mem_map.mp hmem
  obtain ⟨c', session, hcreator, hopen, _⟩ := hserved e he
  obtain rfl : c' = c := Option.some.inj (hcreator.symm.trans (Prod.mk.inj heq).2)
  rw [hclosed] at hopen
  cases hopen

/-- The first name stays registered when no connection is open any more. -/
theorem registeredTwice_leaves_ghost :
    ∃ t, Exec (Presence.Step .ascii) .new registeredTwice t ∧
      t.entries.map (fun e => (e.name, t.creator e.id)) = [("bob", some 0)] ∧
      t.opened = 1 ∧ t.sessions 0 = none ∧ ¬ t.Served := by
  have hexec : Exec (Presence.Step .ascii) .new registeredTwice afterTwice :=
    exec_of_runSteps (fun _ _ _ h => h) (Option.some_get registeredTwice_isSome).symm
  have hentries : afterTwice.entries.map (fun e => (e.name, afterTwice.creator e.id)) =
      [("bob", some 0)] := by
    decide
  have hclosed : afterTwice.sessions 0 = none := by decide
  exact ⟨afterTwice, hexec, hentries, by decide, hclosed,
    Presence.not_served_of_closed hentries hclosed⟩

end Ax.Daemon
