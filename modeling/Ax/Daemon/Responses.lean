import Ax.Proto.Envelope
import Ax.Daemon.Connections

/-!
# Requests and responses on a connection

A connection is served by several tasks.  The reader takes one line after the other, has its
envelope handled and waits until the answer has a place in the channel of the writer.  Each
registration starts a forwarder that moves pushed messages from the outbox of the entry to the
same channel, and aborts the forwarder before it, which may run on for a while.  The writer
takes the envelopes out of the channel and writes them.  All of this interleaves with what
other connections push and do to the daemon.

The handlers are parameters, as is the decoder of envelopes.  A handler may read anything
while it runs, and decides only over the data of a response or the text of an error.  The
modelled handlers are an instance.

Main results:

- Theorem `responses_paired`: the envelopes written that are no pushes are one answer for
  each line that decodes, and every run can be continued until all of them are written.
-/

namespace Ax.Daemon

open Wire (errorEnvelope pushEnvelope)

/-! ## Handling an envelope -/

/-- What a registration hands out. -/
structure RegisterHandled where
  data : Json
  workspace : String
  id : Nat

/-- The handlers, on a state that other tasks share.  A handler reads `ρ` while it runs: the
clock, files, and what other tasks do meanwhile. -/
structure Handlers (ρ σ : Type) where
  register : ρ → σ → Wire.Envelope → Except String RegisterHandled × σ
  unregister : ρ → σ → Wire.Envelope → String → Except String Json × σ
  request : ρ → σ → Wire.Envelope → String → Except String Json × σ
  unregisterIf : σ → String → Nat → σ

/-- The modelled handlers.  How a payload is decoded and a response encoded is left open. -/
def Handlers.modelled (u : Unicode) (registration : Json → Except String RegisterPayload)
    (decode : Wire.Envelope → String → Except String Request) (encode : Response → Json) :
    Handlers (Nat → Reading) HandlerCtx where
  register tape d env :=
    match registration env.payload with
    | .error e => (.error e, d)
    | .ok payload =>
      let (answer, s) := (handleRegister payload).run (Sim.exec u) ⟨d, tape⟩
      (answer.map fun r => ⟨encode r, payload.workspace, s.ctx.registry.nextId⟩, s.ctx)
  unregister tape d _ workspace :=
    let (answer, s) := (handleUnregister workspace).run (Sim.exec u) ⟨d, tape⟩
    (answer.map encode, s.ctx)
  request tape d env workspace :=
    match decode env workspace with
    | .error e => (.error e, d)
    | .ok request =>
      let (answer, s) := (handle u request).run (Sim.exec u) ⟨d, tape⟩
      (answer.map encode, s.ctx)
  unregisterIf d workspace id := { d with registry := (d.registry.unregisterIf workspace id).2 }

/-- `HandlerOutput`: a registration comes with a new outbox. -/
inductive HandlerOutput
  | response (env : Wire.Envelope)
  | registered (env : Wire.Envelope)

def HandlerOutput.answer : HandlerOutput → Wire.Envelope
  | .response env => env
  | .registered env => env

/-- The answer for the result of a handler: all of them end in `response`, and their errors
go to `error_envelope`. -/
def answerOf (id : String) : Except String Json → Wire.Envelope
  | .ok data => Wire.response id data
  | .error e => errorEnvelope id e

variable {ρ σ : Type}

/-- `handle_envelope`. -/
def Handlers.handleEnvelope (h : Handlers ρ σ) (r : ρ) (ctx : σ) (conn : Connection)
    (env : Wire.Envelope) : HandlerOutput × Connection × σ :=
  match env.type with
  | .register =>
    match h.register r ctx env with
    | (.ok handled, ctx) =>
      (.registered (Wire.response env.id handled.data), ⟨handled.workspace, some handled.id⟩,
        ctx)
    | (.error e, ctx) => (.response (errorEnvelope env.id e), conn, ctx)
  | .unregister =>
    let (result, ctx) := h.unregister r ctx env conn.workspace
    (.response (answerOf env.id result), .new, ctx)
  | .listWorkspaces | .setStatus | .updateAgentStatusMetrics | .getAgentStatusMetrics
  | .listAgentStatusMetrics | .recordMcpToolActivity | .controlLifecycle | .agentLifecycle
  | .sendMessage | .broadcast | .readMessages | .usageTrends | .setShared | .getShared
  | .listShared | .rememberMemory | .recallMemories | .createTask | .startTask
  | .interveneTask | .getTask | .listTasks | .updateTask | .cancelTask | .removeTask
  | .getTeamState | .dryRunTeam | .applyTeam | .finishTeam =>
    let (result, ctx) := h.request r ctx env conn.workspace
    (.response (answerOf env.id result), conn, ctx)
  | .pushMessage =>
    (.response (errorEnvelope env.id "unknown message type: PushMessage"), conn, ctx)
  | .response => (.response (errorEnvelope env.id "unknown message type: Response"), conn, ctx)
  | .error => (.response (errorEnvelope env.id "unknown message type: Error"), conn, ctx)

structure Answers (request answer : Wire.Envelope) : Prop where
  id : answer.id = request.id
  type : answer.type = .response ∨ answer.type = .error

lemma answers_answerOf (env : Wire.Envelope) (result : Except String Json) :
    Answers env (answerOf env.id result) := by
  cases result with
  | ok data => exact ⟨rfl, .inl rfl⟩
  | error e => exact ⟨rfl, .inr rfl⟩

lemma answers_errorEnvelope (env : Wire.Envelope) (message : String) :
    Answers env (errorEnvelope env.id message) :=
  ⟨rfl, .inr rfl⟩

lemma answers_handleEnvelope (h : Handlers ρ σ) (r : ρ) (ctx : σ) (conn : Connection)
    (env : Wire.Envelope) : Answers env (h.handleEnvelope r ctx conn env).1.answer := by
  unfold Handlers.handleEnvelope
  split
  case h_1 =>
    split
    · exact ⟨rfl, .inl rfl⟩
    · exact answers_errorEnvelope env _
  all_goals first
    | exact answers_answerOf env _
    | exact answers_errorEnvelope env _

lemma Answers.isPush {request answer : Wire.Envelope} (h : Answers request answer) :
    answer.isPush = false := by
  rcases h.type with htype | htype <;> simp [Wire.Envelope.isPush, htype]

def decodeLine (fromStr : String → Except String Wire.Envelope) (line : String) :
    Option Wire.Envelope :=
  let trimmed := String.ofList (line.toList.rdropWhile fun c => c = '\n' || c = '\r')
  if trimmed = "" then none else (fromStr trimmed).toOption

def requests (fromStr : String → Except String Wire.Envelope) (lines : List String) :
    List Wire.Envelope :=
  lines.filterMap (decodeLine fromStr)

/-! ## The tasks of a connection -/

/-- `OUTBOX_CAPACITY`, of outboxes and of the channel to the writer. -/
def outboxCapacity : Nat :=
  256

structure Forwarder where
  outbox : List Wire.Envelope
  holding : Option Wire.Envelope
  aborted : Bool

namespace Forwarder

def new : Forwarder where
  outbox := []
  holding := none
  aborted := false

def abort (f : Forwarder) : Forwarder :=
  { f with aborted := true }

def OnlyPushes (f : Forwarder) : Prop :=
  ∀ env ∈ f.outbox ++ f.holding.toList, env.isPush = true

end Forwarder

inductive Reader
  | reading
  | sending (answer : Wire.Envelope)
  | ended

def Reader.pending : Reader → List Wire.Envelope
  | .reading => []
  | .sending answer => [answer]
  | .ended => []

/-- The state of a connection.  The books `handled` list the requests that were handled with
the answers to them. -/
structure Socket (σ : Type) where
  ctx : σ
  input : List String
  reader : Reader
  conn : Connection
  forwarders : List Forwarder
  channel : List Wire.Envelope
  writing : Option Wire.Envelope
  written : List Wire.Envelope
  handled : List (Wire.Envelope × Wire.Envelope)

inductive SocketEvent (ρ σ : Type)
  | others (ctx : σ)
  | push (i : Nat) (message : Json)
  | read (r : ρ)
  | send
  | take (i : Nat)
  | forward (i : Nat)
  | stop (i : Nat)
  | receive
  | write

def SocketEvent.IsOwn : SocketEvent ρ σ → Prop
  | .read _ | .send | .receive | .write => True
  | _ => False

namespace Socket

def new (ctx : σ) (lines : List String) : Socket σ where
  ctx := ctx
  input := lines
  reader := .reading
  conn := .new
  forwarders := []
  channel := []
  writing := none
  written := []
  handled := []

def hasRoom (s : Socket σ) : Bool :=
  s.channel.length < outboxCapacity

def handle (h : Handlers ρ σ) (r : ρ) (s : Socket σ) (env : Wire.Envelope) : Socket σ :=
  let (output, conn, ctx) := h.handleEnvelope r s.ctx s.conn env
  { s with
    ctx := ctx
    conn := conn
    reader := .sending output.answer
    forwarders := match output with
      | .response _ => s.forwarders
      | .registered _ => s.forwarders.map .abort ++ [.new]
    handled := s.handled ++ [(env, output.answer)] }

/-- The end of `handle_connection`. -/
def close (h : Handlers ρ σ) (s : Socket σ) : Socket σ :=
  { s with
    ctx := match s.conn.connectionId with
      | none => s.ctx
      | some id => h.unregisterIf s.ctx s.conn.workspace id
    reader := .ended
    forwarders := s.forwarders.map .abort }

def step (h : Handlers ρ σ) (fromStr : String → Except String Wire.Envelope) (s : Socket σ) :
    SocketEvent ρ σ → Option (Socket σ)
  | .others ctx => some { s with ctx := ctx }
  | .push i message =>
    match s.forwarders[i]? with
    | none => none
    | some f =>
      -- `try_send`: a full outbox refuses the message
      if f.outbox.length < outboxCapacity then
        some { s with forwarders :=
          s.forwarders.set i { f with outbox := f.outbox ++ [pushEnvelope message] } }
      else none
  | .read r =>
    match s.reader, s.input with
    | .reading, [] => some (s.close h)
    | .reading, line :: rest =>
      match decodeLine fromStr line with
      | none => some { s with input := rest }
      | some env => some (handle h r { s with input := rest } env)
    | _, _ => none
  | .send =>
    match s.reader with
    | .sending answer =>
      if s.hasRoom then
        some { s with reader := .reading, channel := s.channel ++ [answer] }
      else none
    | _ => none
  | .take i =>
    match s.forwarders[i]? with
    | some ⟨env :: outbox, none, aborted⟩ =>
      some { s with forwarders := s.forwarders.set i ⟨outbox, some env, aborted⟩ }
    | _ => none
  | .forward i =>
    match s.forwarders[i]? with
    | some ⟨outbox, some env, aborted⟩ =>
      if s.hasRoom then
        some { s with
          forwarders := s.forwarders.set i ⟨outbox, none, aborted⟩
          channel := s.channel ++ [env] }
      else none
    | _ => none
  | .stop i =>
    match s.forwarders[i]? with
    | some ⟨_, _, true⟩ => some { s with forwarders := s.forwarders.eraseIdx i }
    | _ => none
  | .receive =>
    match s.writing, s.channel with
    | none, env :: rest => some { s with channel := rest, writing := some env }
    | _, _ => none
  | .write =>
    match s.writing with
    | some env => some { s with writing := none, written := s.written ++ [env] }
    | none => none

def Step (h : Handlers ρ σ) (fromStr : String → Except String Wire.Envelope) (s : Socket σ)
    (a : SocketEvent ρ σ) (t : Socket σ) : Prop :=
  s.step h fromStr a = some t

def answered (s : Socket σ) : List Wire.Envelope :=
  s.written.filter fun env => !env.isPush

def inFlight (s : Socket σ) : List Wire.Envelope :=
  s.writing.toList ++ s.channel ++ s.reader.pending

def answers (s : Socket σ) : List Wire.Envelope :=
  (s.written ++ s.inFlight).filter fun env => !env.isPush

def Quiet (s : Socket σ) : Prop :=
  s.input = [] ∧ s.inFlight = []

/-! ## The answers of a run -/

/-- The books of a connection that has sent `lines`. -/
structure Paired (fromStr : String → Except String Wire.Envelope) (lines : List String)
    (s : Socket σ) : Prop where
  requests : s.handled.map Prod.fst ++ requests fromStr s.input = requests fromStr lines
  answers : s.handled.map Prod.snd = s.answers
  handled : ∀ p ∈ s.handled, Answers p.1 p.2
  pushes : ∀ f ∈ s.forwarders, f.OnlyPushes
  ended : s.reader = .ended → s.input = []

variable {h : Handlers ρ σ} {fromStr : String → Except String Wire.Envelope}
  {lines : List String} {s t : Socket σ} {a : SocketEvent ρ σ}

lemma paired_new (ctx : σ) : Paired fromStr lines (new ctx lines) where
  requests := rfl
  answers := rfl
  handled := by simp [new]
  pushes := by simp [new]
  ended := nofun

lemma Paired.congr (hs : Paired fromStr lines s) (hhandled : t.handled = s.handled)
    (hinput : t.input = s.input) (hanswers : t.answers = s.answers)
    (hpushes : ∀ f ∈ t.forwarders, f.OnlyPushes) (hended : t.reader = .ended → s.input = []) :
    Paired fromStr lines t where
  requests := by rw [hhandled, hinput, hs.requests]
  answers := by rw [hhandled, hs.answers, hanswers]
  handled := by rw [hhandled]; exact hs.handled
  pushes := hpushes
  ended := by rw [hinput]; exact hended

lemma onlyPushes_set {fs : List Forwarder} (hfs : ∀ f ∈ fs, f.OnlyPushes) (i : Nat)
    {g : Forwarder} (hg : g.OnlyPushes) : ∀ f ∈ fs.set i g, f.OnlyPushes := by
  intro f hf
  rcases List.mem_or_eq_of_mem_set hf with hmem | rfl
  · exact hfs f hmem
  · exact hg

lemma onlyPushes_abort {fs : List Forwarder} (hfs : ∀ f ∈ fs, f.OnlyPushes) :
    ∀ f ∈ fs.map Forwarder.abort, f.OnlyPushes := by
  intro f hf
  obtain ⟨g, hg, rfl⟩ := List.mem_map.mp hf
  exact hfs g hg

section

variable (hs : Paired fromStr lines s)
include hs

lemma Paired.push {i : Nat} {message : Json} (hstep : Step h fromStr s (.push i message) t) :
    Paired fromStr lines t := by
  simp only [Step, step] at hstep
  split at hstep
  · cases hstep
  · rename_i f hf
    split at hstep
    · cases hstep
      have hpushes := hs.pushes f (List.mem_of_getElem? hf)
      refine hs.congr rfl rfl rfl (onlyPushes_set hs.pushes i ?_) hs.ended
      intro env henv
      rw [List.append_assoc, List.mem_append, List.mem_append, List.mem_singleton] at henv
      rcases henv with hmem | rfl | hmem
      · exact hpushes env (List.mem_append_left _ hmem)
      · rfl
      · exact hpushes env (List.mem_append_right _ hmem)
    · cases hstep

lemma Paired.close (hreader : s.reader = .reading) (hinput : s.input = []) :
    Paired fromStr lines (s.close h) := by
  refine hs.congr rfl rfl ?_ (onlyPushes_abort hs.pushes) fun _ => hinput
  simp [Socket.answers, inFlight, Socket.close, Reader.pending, hreader]

lemma Paired.handle {line : String} {rest : List String} {env : Wire.Envelope} {r : ρ}
    (hreader : s.reader = .reading) (hinput : s.input = line :: rest)
    (henv : decodeLine fromStr line = some env) :
    Paired fromStr lines (handle h r { s with input := rest } env) := by
  have hanswers := answers_handleEnvelope h r s.ctx s.conn env
  constructor
  · have hrequests := hs.requests
    rw [hinput, Daemon.requests, List.filterMap_cons_some henv] at hrequests
    simpa [Socket.handle, Daemon.requests] using hrequests
  · have hbooks := hs.answers
    simp only [Socket.answers, inFlight, hreader, Reader.pending, List.append_nil] at hbooks
    simp [Socket.handle, Socket.answers, inFlight, Reader.pending, hbooks, hanswers.isPush]
  · intro p hp
    rcases List.mem_append.mp hp with hmem | hmem
    · exact hs.handled p hmem
    · obtain rfl := List.mem_singleton.mp hmem
      exact hanswers
  · simp only [Socket.handle]
    split
    · exact hs.pushes
    · intro f hf
      rcases List.mem_append.mp hf with hmem | hmem
      · exact onlyPushes_abort hs.pushes f hmem
      · obtain rfl := List.mem_singleton.mp hmem
        exact nofun
  · exact nofun

lemma Paired.read {r : ρ} (hstep : Step h fromStr s (.read r) t) : Paired fromStr lines t := by
  simp only [Step, step] at hstep
  split at hstep
  · rename_i hreader hinput
    cases hstep
    exact hs.close hreader hinput
  · rename_i line rest hreader hinput
    split at hstep
    · rename_i hline
      cases hstep
      have hrequests := hs.requests
      rw [hinput, Daemon.requests, List.filterMap_cons_none hline] at hrequests
      exact ⟨hrequests, hs.answers, hs.handled, hs.pushes, by simp [hreader]⟩
    · rename_i env henv
      cases hstep
      exact hs.handle hreader hinput henv
  · cases hstep

lemma Paired.send (hstep : Step h fromStr s .send t) : Paired fromStr lines t := by
  simp only [Step, step] at hstep
  split at hstep
  · rename_i answer hreader
    split at hstep
    · cases hstep
      refine hs.congr rfl rfl ?_ hs.pushes nofun
      simp [Socket.answers, inFlight, Reader.pending, hreader]
    · cases hstep
  · cases hstep

lemma Paired.take {i : Nat} (hstep : Step h fromStr s (.take i) t) : Paired fromStr lines t := by
  simp only [Step, step] at hstep
  split at hstep
  · rename_i env outbox aborted hf
    cases hstep
    have hpushes := hs.pushes _ (List.mem_of_getElem? hf)
    refine hs.congr rfl rfl rfl (onlyPushes_set hs.pushes i ?_) hs.ended
    simpa [Forwarder.OnlyPushes, or_imp, forall_and, and_comm] using hpushes
  · cases hstep

lemma Paired.forward {i : Nat} (hstep : Step h fromStr s (.forward i) t) :
    Paired fromStr lines t := by
  simp only [Step, step] at hstep
  split at hstep
  · rename_i outbox env aborted hf
    split at hstep
    · cases hstep
      have hpushes := hs.pushes _ (List.mem_of_getElem? hf)
      have hpush : env.isPush = true := hpushes env (by simp)
      refine hs.congr rfl rfl ?_ (onlyPushes_set hs.pushes i ?_) hs.ended
      · simp [Socket.answers, inFlight, hpush]
      · intro other hother
        exact hpushes other (List.mem_append_left _ (by simpa using hother))
    · cases hstep
  · cases hstep

lemma Paired.stop {i : Nat} (hstep : Step h fromStr s (.stop i) t) : Paired fromStr lines t := by
  simp only [Step, step] at hstep
  split at hstep
  · cases hstep
    exact hs.congr rfl rfl rfl (fun f hf => hs.pushes f (List.mem_of_mem_eraseIdx hf)) hs.ended
  · cases hstep

lemma Paired.receive (hstep : Step h fromStr s .receive t) : Paired fromStr lines t := by
  simp only [Step, step] at hstep
  split at hstep
  · rename_i env rest hwriting hchannel
    cases hstep
    refine hs.congr rfl rfl ?_ hs.pushes hs.ended
    simp [Socket.answers, inFlight, hwriting, hchannel]
  · cases hstep

lemma Paired.write (hstep : Step h fromStr s .write t) : Paired fromStr lines t := by
  simp only [Step, step] at hstep
  split at hstep
  · rename_i env hwriting
    cases hstep
    refine hs.congr rfl rfl ?_ hs.pushes hs.ended
    simp [Socket.answers, inFlight, hwriting]
  · cases hstep

end

lemma Paired.step (hstep : Step h fromStr s a t) (hs : Paired fromStr lines s) :
    Paired fromStr lines t := by
  cases a with
  | others ctx =>
    cases hstep
    exact hs.congr rfl rfl rfl hs.pushes hs.ended
  | push i message => exact hs.push hstep
  | read r => exact hs.read hstep
  | send => exact hs.send hstep
  | take i => exact hs.take hstep
  | forward i => exact hs.forward hstep
  | stop i => exact hs.stop hstep
  | receive => exact hs.receive hstep
  | write => exact hs.write hstep

lemma paired_of_exec {ctx : σ} {as : List (SocketEvent ρ σ)}
    (hrun : Exec (Step h fromStr) (new ctx lines) as s) : Paired fromStr lines s :=
  hrun.invariant (P := Paired fromStr lines) Paired.step (paired_new ctx)

/-! ## Progress -/

def Reader.work : Reader → Nat
  | .reading => 1
  | .sending _ => 4
  | .ended => 0

def work (s : Socket σ) : Nat :=
  4 * s.input.length + Reader.work s.reader + 2 * s.channel.length + s.writing.toList.length

/-- Reader or writer can go on as long as there is something to do. -/
theorem Paired.progress (r : ρ) (hs : Paired fromStr lines s) (hquiet : ¬s.Quiet) :
    ∃ a t, SocketEvent.IsOwn a ∧ Step h fromStr s a t ∧ t.work < s.work := by
  obtain ⟨ctx, input, reader, conn, forwarders, channel, writing, written, handled⟩ := s
  cases writing with
  | some env =>
    refine ⟨.write, _, trivial, rfl, ?_⟩
    simp [work]
  | none =>
    cases channel with
    | cons env rest =>
      refine ⟨.receive, _, trivial, rfl, ?_⟩
      simp [work]
      omega
    | nil =>
      cases reader with
      | sending answer =>
        refine ⟨.send, _, trivial, rfl, ?_⟩
        simp [work, Reader.work]
      | ended => exact absurd ⟨hs.ended rfl, rfl⟩ hquiet
      | reading =>
        cases input with
        | nil => exact absurd ⟨rfl, rfl⟩ hquiet
        | cons line rest =>
          cases hline : decodeLine fromStr line with
          | none =>
            refine ⟨.read r, _, trivial, by simp only [Step, Socket.step, hline]; rfl, ?_⟩
            simp [work]
          | some env =>
            refine ⟨.read r, _, trivial, by simp only [Step, Socket.step, hline]; rfl, ?_⟩
            simp [work, Socket.handle, Reader.work]
            omega

end Socket

/-! ## Request and response -/

open Socket

/-- The envelopes handled are the first requests of the connection, each with an answer.  What
is written besides pushes are the first of these answers; they are all of them, for all
requests, once nothing is left to do.  Whatever has happened, reader and writer can get there
by themselves. -/
theorem responses_paired (h : Handlers ρ σ) (fromStr : String → Except String Wire.Envelope)
    (ctx : σ) (lines : List String) (r : ρ) {as : List (SocketEvent ρ σ)} {s : Socket σ}
    (hrun : Exec (Step h fromStr) (Socket.new ctx lines) as s) :
    (∀ p ∈ s.handled, Answers p.1 p.2) ∧
      s.handled.map Prod.fst <+: requests fromStr lines ∧
      s.answered <+: s.handled.map Prod.snd ∧
      (s.Quiet → s.handled.map Prod.fst = requests fromStr lines ∧
        s.answered = s.handled.map Prod.snd) ∧
      ∃ bs t, (∀ b ∈ bs, SocketEvent.IsOwn b) ∧ Exec (Step h fromStr) s bs t ∧ t.Quiet := by
  have hs := paired_of_exec hrun
  have hanswers := hs.answers
  rw [Socket.answers, List.filter_append] at hanswers
  refine ⟨hs.handled, ⟨_, hs.requests⟩, ⟨_, hanswers.symm⟩, ?_, ?_⟩
  · rintro ⟨hinput, hflight⟩
    have hrequests := hs.requests
    rw [hinput] at hrequests
    rw [hflight] at hanswers
    exact ⟨by simpa [requests] using hrequests, by simpa [answered] using hanswers.symm⟩
  · exact Exec.reaches (P := Paired fromStr lines) work Paired.step (Paired.progress r) s hs

/-- Handlers for a registration of `bob` and for statuses. -/
def statusHandlers : Handlers (Nat → Reading) HandlerCtx :=
  .modelled .ascii (fun _ => .ok ⟨"bob", "/bob", "", "", 0⟩)
    (fun _ workspace => .ok (.setStatus workspace "busy")) fun _ => .null

/-- Two documents. -/
def parseShort (text : String) : Except String Json :=
  if text = "register" then
    .ok (.obj [("id", .str "r"), ("type", .str "register"), ("payload", .null)])
  else if text = "status" then
    .ok (.obj [("id", .str "s"), ("type", .str "set_status"), ("payload", .null)])
  else .error "expected value"

def pushedBetween : List (SocketEvent (Nat → Reading) HandlerCtx) :=
  let calm := fun _ => calmReading
  [.read calm, .send, .read calm, .read calm, .push 0 (.str "hi"), .take 0, .forward 0, .send,
   .read calm, .read calm, .receive, .write, .send, .receive, .write, .receive, .write, .receive,
   .write, .read calm, .stop 0]

/-- The connection of that run. -/
def fiveLines : Socket HandlerCtx :=
  Socket.new newCtx ["status\n", "\r\n", "register\n", "garbage\n", "status"]

lemma pushedBetween_isSome :
    (runSteps (Socket.step statusHandlers (Wire.Envelope.fromStr parseShort)) fiveLines
      pushedBetween).isSome := by
  decide +kernel

def afterPush : Socket HandlerCtx :=
  (runSteps (Socket.step statusHandlers (Wire.Envelope.fromStr parseShort)) fiveLines
    pushedBetween).get pushedBetween_isSome

/-- Three of five lines are requests, and the push stands between their answers. -/
theorem responses_paired_pushedBetween :
    Exec (Socket.Step statusHandlers (Wire.Envelope.fromStr parseShort)) fiveLines
        pushedBetween afterPush ∧
      afterPush.written.map (fun env => (env.id, env.type)) =
        [("s", .error), ("", .pushMessage), ("r", .response), ("s", .response)] ∧
      afterPush.answered = afterPush.handled.map Prod.snd := by
  have hexec : Exec (Socket.Step statusHandlers (Wire.Envelope.fromStr parseShort)) fiveLines
      pushedBetween afterPush :=
    exec_of_runSteps (fun _ _ _ h => h) (Option.some_get pushedBetween_isSome).symm
  obtain ⟨_, _, _, hall, _⟩ := responses_paired _ _ _ _ (fun _ => calmReading) hexec
  have hinput : afterPush.input.length = 0 := by decide +kernel
  have hflight : afterPush.inFlight.length = 0 := by decide +kernel
  have hquiet : afterPush.Quiet :=
    ⟨List.length_eq_zero_iff.mp hinput, List.length_eq_zero_iff.mp hflight⟩
  exact ⟨hexec, by decide +kernel, (hall hquiet).2⟩

end Ax.Daemon
