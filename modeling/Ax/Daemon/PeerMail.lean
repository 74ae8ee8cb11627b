import Ax.Daemon.QueueLedger
import Ax.Daemon.TaskMessages
import Ax.Daemon.Threads

/-!
# Messages of clients

Every message in an inbox was written by a client or by the daemon.  The queue does
not record by whom; here the inboxes are kept a second time, as trays of messages with
their authors, along every interleaving of the jobs.  A message leaves its tray when a
reading returns it, when it is the oldest of a full tray, or when the messages of a
task are purged.

A purge goes by the tag of a message or else by its text.  The tag tells the daemon's
messages about one task from those about another; it does not protect the message of a
client that quotes a `Task ID:`.

Main results:

- Theorem `peer_mail_kept_iff`: messages of clients leave an inbox only by a reading or
  by the cap exactly if no purged inbox holds one that names the purged task.
-/

namespace Ax.Daemon

open MessageQueue TaskStore

/-! ## Trays -/

/-- Who wrote a message. -/
inductive Author
  | peer
  | daemon
deriving DecidableEq, Repr

structure Slip where
  author : Author
  msg : Message
deriving DecidableEq

/-- The inboxes with the authors of their messages. -/
abbrev Trays : Type :=
  String → List Slip

def Trays.Files (trays : Trays) (q : MessageQueue) : Prop :=
  ∀ w, (trays w).map Slip.msg = q.inbox w

def Slip.Genuine (u : Unicode) (slip : Slip) : Prop :=
  match slip.author with
  | .peer => PeerMessage slip.msg
  | .daemon => ∃ id, GeneratedFor u id slip.msg

/-- The number of messages that the cap drops when another one arrives. -/
def overflow (maxSize length : Nat) : Nat :=
  if 0 < maxSize then length + 1 - maxSize else 0

/-- The slips that a command takes out of the tray of `w`, and the tray after it. -/
def Cmd.sort (u : Unicode) (r : Reading) (author : Author) (maxSize : Nat) (w : String)
    (tray : List Slip) : Cmd → List Slip × List Slip
  | .enqueue msg =>
    if w = msg.recipient then
      (tray.take (overflow maxSize tray.length),
        tray.drop (overflow maxSize tray.length) ++ [⟨author, stamp r.now r.uuid msg⟩])
    else ([], tray)
  | .dequeue workspace limit sender =>
    if w = workspace then takeFirst (fun slip => isFrom sender slip.msg) limit tray
    else ([], tray)
  | .removeTaskMessages workspace taskId =>
    if w = workspace ∧ Text.trim taskId ≠ "" then
      (tray.filter fun slip => messageTaskId u slip.msg = Text.trim taskId,
        tray.filter fun slip => messageTaskId u slip.msg ≠ Text.trim taskId)
    else ([], tray)
  | _ => ([], tray)

variable {u : Unicode} {r : Reading} {author : Author} {w : String} {tray : List Slip}

lemma capped_append (maxSize : Nat) (messages : List Message) (msg : Message) :
    capped maxSize (messages ++ [msg]) =
      messages.drop (overflow maxSize messages.length) ++ [msg] := by
  unfold capped overflow
  rw [List.length_append, List.length_singleton]
  split
  · rename_i hfull
    rw [if_pos hfull.1, List.drop_append_of_le_length (by omega)]
  · rename_i hfits
    have hnone : (if 0 < maxSize then messages.length + 1 - maxSize else 0) = 0 := by
      split
      · omega
      · rfl
    rw [hnone, List.drop_zero]

/-- The slip that a command puts into the tray of `w`. -/
def Cmd.files (r : Reading) (author : Author) (w : String) : Cmd → List Slip
  | .enqueue msg => if w = msg.recipient then [⟨author, stamp r.now r.uuid msg⟩] else []
  | _ => []

lemma sort_perm (c : Cmd) (maxSize : Nat) :
    ((c.sort u r author maxSize w tray).1 ++ (c.sort u r author maxSize w tray).2).Perm
      (tray ++ c.files r author w) := by
  cases c with
  | enqueue msg =>
    simp only [Cmd.sort, Cmd.files]
    by_cases hw : w = msg.recipient
    · rw [if_pos hw, if_pos hw, ← List.append_assoc, List.take_append_drop]
    · simp [hw]
  | dequeue workspace limit sender =>
    simp only [Cmd.sort, Cmd.files, List.append_nil]
    by_cases hw : w = workspace
    · rw [if_pos hw]
      exact takeFirst_perm limit tray
    · simp [hw]
  | removeTaskMessages workspace taskId =>
    simp only [Cmd.sort, Cmd.files, List.append_nil]
    by_cases hw : w = workspace ∧ Text.trim taskId ≠ ""
    · rw [if_pos hw]
      simpa using List.filter_append_perm
        (fun slip : Slip => decide (messageTaskId u slip.msg = Text.trim taskId)) tray
    · rw [if_neg hw]
      exact List.Perm.refl _
  | _ => simp [Cmd.sort, Cmd.files]

lemma map_sort {d : HandlerCtx} (h : tray.map Slip.msg = d.queue.inbox w) (c : Cmd) :
    (c.sort u r author d.queue.maxSize w tray).2.map Slip.msg =
      (c.exec u r d).2.queue.inbox w := by
  cases c with
  | enqueue msg =>
    simp only [Cmd.sort, Cmd.exec, inbox_enqueue]
    by_cases hw : w = msg.recipient
    · subst hw
      rw [if_pos rfl, if_pos rfl, ← h, capped_append, List.length_map, List.map_append,
        List.map_drop, List.map_singleton]
    · rw [if_neg hw, if_neg hw]
      exact h
  | dequeue workspace limit sender =>
    simp only [Cmd.sort, Cmd.exec, inbox_dequeue, takeMessages_eq]
    by_cases hw : w = workspace
    · subst hw
      rw [if_pos rfl, if_pos rfl, ← h, takeFirst_map, Function.comp_def]
    · rw [if_neg hw, if_neg hw]
      exact h
  | removeTaskMessages workspace taskId =>
    simp only [Cmd.sort, Cmd.exec, inbox_removeTaskMessages]
    by_cases hw : w = workspace ∧ Text.trim taskId ≠ ""
    · rw [if_pos hw, if_pos hw, ← hw.1, ← h, List.filter_map, Function.comp_def]
    · rw [if_neg hw, if_neg hw]
      exact h
  | _ =>
    refine Eq.trans h (inbox_exec_of_keepsInboxes ?_ w).symm
    trivial

/-! ## Runs with authors -/

def authorOf (jobs : List Job) (i : Nat) : Author :=
  if jobs[i]?.any Job.isPeerMail then .peer else .daemon

structure Labelled where
  threads : Threads
  trays : Trays

namespace Labelled

def queue (p : Labelled) : MessageQueue :=
  p.threads.shared.ctx.queue

/-- The slips that a command of the turn takes out of the tray of `w`, and the tray after
it. -/
def sort (u : Unicode) (jobs : List Job) (p : Labelled) (a : Turn Reading) (c : Cmd)
    (w : String) : List Slip × List Slip :=
  c.sort u a.reading (authorOf jobs a.thread) p.queue.maxSize w (p.trays w)

def next (u : Unicode) (jobs : List Job) (p : Labelled) (a : Turn Reading) : Option Labelled :=
  match p.threads.command a.thread with
  | none => none
  | some c => (Pool.next (Shared.exec u) p.threads a).map fun q =>
    ⟨q, fun w => (p.sort u jobs a c w).2⟩

def Step (u : Unicode) (jobs : List Job) (p : Labelled) (a : Turn Reading) (q : Labelled) :
    Prop :=
  p.next u jobs a = some q

variable {a : Turn Reading} {jobs : List Job}

lemma step_iff {p q : Labelled} :
    Step u jobs p a q ↔ ∃ c, p.threads.command a.thread = some c ∧
      Threads.Step u p.threads a q.threads ∧ q.trays = fun w => (p.sort u jobs a c w).2 := by
  unfold Step next
  constructor
  · intro h
    split at h
    · cases h
    · rename_i c hc
      obtain ⟨q', hq', rfl⟩ := Option.map_eq_some_iff.mp h
      exact ⟨c, hc, hq', rfl⟩
  · rintro ⟨c, hc, hstep, htrays⟩
    rw [hc]
    refine Option.map_eq_some_iff.mpr ⟨q.threads, hstep, ?_⟩
    rw [← htrays]

structure Sound (u : Unicode) (jobs : List Job) (p : Labelled) : Prop where
  honouring : p.threads.Honouring LinkedAnswer
    fun i c => ∃ job, jobs[i]? = some job ∧ job.Handles u c
  linkable : AllRecords Linkable p.threads.shared.ctx.taskStore.inner
  files : p.trays.Files p.queue
  genuine : ∀ w, ∀ slip ∈ p.trays w, slip.Genuine u

def FreshUuids (u : Unicode) (p : Labelled) (a : Turn Reading) : Prop :=
  ∀ c, p.threads.command a.thread = some c → c.FreshUuid u a.reading p.threads.shared.ctx

lemma genuine_files {job : Job} (hjob : jobs[a.thread]? = some job) {c : Cmd}
    (hc : job.Handles u c) {slip : Slip}
    (hslip : slip ∈ c.files a.reading (authorOf jobs a.thread) w) : slip.Genuine u := by
  cases c with
  | enqueue msg =>
    simp only [Cmd.files] at hslip
    split at hslip
    · obtain rfl := List.mem_singleton.mp hslip
      simp only [authorOf, hjob, Option.any_some]
      cases hpeer : job.isPeerMail with
      | true =>
        simp only [Job.Handles, hpeer] at hc
        exact hc
      | false =>
        simp only [Job.Handles, hpeer] at hc
        obtain ⟨id, hid⟩ := DaemonMessage.generatedFor hc
        exact ⟨id, hid.stamp _ _⟩
    · cases hslip
  | _ => cases hslip

lemma Sound.step {p q : Labelled} (h : p.Sound u jobs) (hstep : Step u jobs p a q)
    (huuid : p.FreshUuids u a) : q.Sound u jobs := by
  obtain ⟨c, hc, hturn, htrays⟩ := step_iff.mp hstep
  have hfresh := huuid c hc
  obtain ⟨c', hc', hctx⟩ := Threads.exec_of_step hturn
  obtain rfl := Option.some.inj (hc.symm.trans hc')
  refine ⟨?_, ?_, ?_, ?_⟩
  · refine hturn.honouring h.honouring fun c' out hcommand hout _ => ?_
    obtain rfl := Option.some.inj (hc.symm.trans hcommand)
    rw [(Shared.exec_eq_some hout).1]
    exact linkedAnswer_exec hfresh h.linkable
  · rw [hctx]
    exact linkable_exec hfresh h.linkable
  · intro w
    rw [htrays, queue, hctx]
    exact map_sort (h.files w) c
  · intro w slip hslip
    rw [htrays] at hslip
    obtain ⟨job, hjob, hhandles⟩ := h.honouring.command hc
    have hfiled := (sort_perm c p.queue.maxSize).mem_iff.mp (List.mem_append_right _ hslip)
    rcases List.mem_append.mp hfiled with hold | hnew
    · exact h.genuine w slip hold
    · exact genuine_files hjob hhandles hnew

def PurgesSparePeers (u : Unicode) (p : Labelled) (a : Turn Reading) : Prop :=
  ∀ w id, p.threads.command a.thread = some (.removeTaskMessages w id) →
    ∀ slip ∈ p.trays w, slip.author = .peer →
      extractTaskId u slip.msg.content ≠ Text.trim id

/-- The ways in which a slip may leave the tray of `w`: a reading of `w` returns it; it
gives way at the cap; or the daemon wrote it about a task whose messages are purged. -/
inductive Departure (u : Unicode) (jobs : List Job) (p : Labelled) (a : Turn Reading)
    (w : String) (slip : Slip) : Cmd → Prop
  | returned {limit : Nat} {sender : Option String} {payload : ReadMessagesPayload}
      (hjob : jobs[a.thread]? = some (.request (.readMessages w payload)))
      (hmem : slip.msg ∈ (p.queue.dequeue w limit sender).1) :
      Departure u jobs p a w slip (.dequeue w limit sender)
  | evicted {msg : Message} (hrecipient : msg.recipient = w)
      (hfull : 0 < p.queue.maxSize ∧ p.queue.maxSize < (p.queue.inbox w).length + 1) :
      Departure u jobs p a w slip (.enqueue msg)
  | purged {id : String} (hauthor : slip.author = .daemon) (htask : GeneratedFor u id slip.msg) :
      Departure u jobs p a w slip (.removeTaskMessages w id)

def Departs (u : Unicode) (jobs : List Job) (p : Labelled) (a : Turn Reading) : Prop :=
  ∀ c, p.threads.command a.thread = some c →
    ∀ w, ∀ slip ∈ (p.sort u jobs a c w).1, Departure u jobs p a w slip c

section Departures

variable {jobs : List Job} {p : Labelled} {a : Turn Reading} (h : p.Sound u jobs)
include h

variable {slip : Slip} {workspace : String}

lemma Sound.evicted {msg : Message} (hslip : slip ∈ (p.sort u jobs a (.enqueue msg) w).1) :
    Departure u jobs p a w slip (.enqueue msg) := by
  simp only [sort, Cmd.sort] at hslip
  split at hslip
  · rename_i hw
    have hlength : (p.trays w).length = (p.queue.inbox w).length := by
      rw [← h.files w, List.length_map]
    refine .evicted hw.symm ?_
    by_contra hfits
    have hnone : overflow p.queue.maxSize (p.trays w).length = 0 := by
      unfold overflow
      split
      · omega
      · rfl
    rw [hnone] at hslip
    cases hslip
  · cases hslip

lemma Sound.returned {limit : Nat} {sender : Option String}
    (hc : p.threads.command a.thread = some (.dequeue workspace limit sender))
    (hslip : slip ∈ (p.sort u jobs a (.dequeue workspace limit sender) w).1) :
    Departure u jobs p a w slip (.dequeue workspace limit sender) := by
  obtain ⟨job, hjob, payload, rfl⟩ := h.honouring.command hc
  simp only [sort, Cmd.sort] at hslip
  split at hslip
  · rename_i hw
    subst hw
    refine .returned hjob ?_
    rw [dequeue_fst, ← h.files w, takeFirst_map]
    exact List.mem_map_of_mem hslip
  · cases hslip

lemma Sound.uuid_of_purge {id : String}
    (hc : p.threads.command a.thread = some (.removeTaskMessages workspace id)) : IsUuid id := by
  obtain ⟨job, _, hid⟩ := h.honouring.command hc
  exact hid

lemma Sound.mem_purge_iff {id : String}
    (hc : p.threads.command a.thread = some (.removeTaskMessages workspace id)) :
    slip ∈ (p.sort u jobs a (.removeTaskMessages workspace id) w).1 ↔
      w = workspace ∧ slip ∈ p.trays w ∧ messageTaskId u slip.msg = id := by
  have hid := h.uuid_of_purge hc
  simp only [sort, Cmd.sort, hid.trim_eq]
  by_cases hw : w = workspace
  · simp [hw, hid.ne_empty]
  · simp [hw]

lemma Sound.departs_iff : p.Departs u jobs a ↔ p.PurgesSparePeers u a := by
  constructor
  · intro hdeparts w id hc slip hslip hpeer hnames
    have hid := h.uuid_of_purge hc
    have hgenuine := h.genuine w slip hslip
    simp only [Slip.Genuine, hpeer] at hgenuine
    have hlink : messageTaskId u slip.msg = id := by
      rw [messageTaskId_of_untagged hgenuine, hnames, hid.trim_eq]
    cases hdeparts _ hc w slip ((h.mem_purge_iff hc).mpr ⟨rfl, hslip, hlink⟩) with
    | purged hauthor _ =>
      rw [hpeer] at hauthor
      cases hauthor
  · intro hspares c hc w slip hslip
    cases c with
    | enqueue msg => exact h.evicted hslip
    | dequeue workspace limit sender => exact h.returned hc hslip
    | removeTaskMessages workspace id =>
      obtain ⟨rfl, hmem, hlink⟩ := (h.mem_purge_iff hc).mp hslip
      have hgenuine := h.genuine w slip hmem
      cases hauthor : slip.author with
      | peer =>
        simp only [Slip.Genuine, hauthor] at hgenuine
        have hother := hspares w id hc slip hmem hauthor
        rw [messageTaskId_of_untagged hgenuine] at hlink
        rw [(h.uuid_of_purge hc).trim_eq] at hother
        exact absurd hlink hother
      | daemon =>
        simp only [Slip.Genuine, hauthor] at hgenuine
        obtain ⟨id', hid'⟩ := hgenuine
        obtain rfl := hid'.messageTaskId_eq.symm.trans hlink
        exact .purged hauthor hid'
    | _ => cases hslip

end Departures

end Labelled

structure MailRun (u : Unicode) where
  jobs : List Job
  ctx : HandlerCtx
  trays : Trays
  turns : List (Turn Reading)
  last : Labelled
  linkable : AllRecords Linkable ctx.taskStore.inner
  files : trays.Files ctx.queue
  genuine : ∀ w, ∀ slip ∈ trays w, slip.Genuine u
  reached : Exec (Labelled.Step u jobs) ⟨Threads.start u jobs ctx, trays⟩ turns last
  uuids : Exec.EachStep (Labelled.Step u jobs) (Labelled.FreshUuids u)
    ⟨Threads.start u jobs ctx, trays⟩ turns

namespace MailRun

def start (run : MailRun u) : Labelled :=
  ⟨Threads.start u run.jobs run.ctx, run.trays⟩

def EachTurn (run : MailRun u) (P : Labelled → Turn Reading → Prop) : Prop :=
  Exec.EachStep (Labelled.Step u run.jobs) P run.start run.turns

lemma sound_start (run : MailRun u) : run.start.Sound u run.jobs where
  honouring := by
    intro i t ht
    have hprogram : run.jobs[i]?.map (Job.program u) = some t := List.getElem?_map.symm.trans ht
    obtain ⟨job, hjob, rfl⟩ := Option.map_eq_some_iff.mp hprogram
    exact (job.handles_program).mono (fun _ hc => ⟨job, hjob, hc⟩) fun _ _ => trivial
  linkable := run.linkable
  files := run.files
  genuine := run.genuine

lemma sound (run : MailRun u) :
    Exec.EachState (Labelled.Step u run.jobs) (Labelled.Sound u run.jobs) run.start run.turns :=
  Exec.eachState_of_eachStep (fun _ _ _ hstep hm hc => hm.step hstep hc) run.sound_start run.uuids

end MailRun

/-- Messages of clients.  In every run of the daemon the trays are the inboxes, and the
following are equivalent.

- At every turn, each message that leaves an inbox is returned by a reading of its workspace, or
  gives way at the cap, or was written by the daemon about a task whose messages are purged.
- At every purge of the messages of a task, no message of a client in the inbox names
  that task. -/
theorem peer_mail_kept_iff (run : MailRun u) :
    Exec.EachState (Labelled.Step u run.jobs) (fun p => p.trays.Files p.queue)
        run.start run.turns ∧
      (run.EachTurn (Labelled.Departs u run.jobs) ↔
        run.EachTurn (Labelled.PurgesSparePeers u)) := by
  refine ⟨fun pre post p hturns hpre => (run.sound pre post p hturns hpre).files, ?_⟩
  constructor
  · intro h pre a post p hturns hpre
    exact (run.sound pre (a :: post) p hturns hpre).departs_iff.mp (h pre a post p hturns hpre)
  · intro h pre a post p hturns hpre
    exact (run.sound pre (a :: post) p hturns hpre).departs_iff.mpr (h pre a post p hturns hpre)

/-! ## Two runs -/

namespace Labelled

instance (u : Unicode) (p : Labelled) (a : Turn Reading) : Decidable (p.FreshUuids u a) :=
  decidable_of_iff ((p.threads.command a.thread).all fun c =>
      ((c.storeCall u a.reading).all fun call =>
        decide (call.Fresh p.threads.shared.ctx.taskStore)) &&
      decide (c.isCreation = true → IsUuid a.reading.uuid)) <| by
    simp only [FreshUuids, Option.all_eq_true, Bool.and_eq_true, decide_eq_true_eq]
    exact ⟨fun h c hc => ⟨(h c hc).1, (h c hc).2⟩, fun h c hc => ⟨(h c hc).1, (h c hc).2⟩⟩

def sparesPeers (u : Unicode) (p : Labelled) (a : Turn Reading) : Bool :=
  match p.threads.command a.thread with
  | some (.removeTaskMessages w id) => (p.trays w).all fun slip =>
    decide (slip.author = .peer → extractTaskId u slip.msg.content ≠ Text.trim id)
  | _ => true

lemma purgesSparePeers_of_test {p : Labelled} {a : Turn Reading}
    (h : p.sparesPeers u a = true) : p.PurgesSparePeers u a := by
  intro w id hc slip hslip
  unfold sparesPeers at h
  rw [hc] at h
  exact of_decide_eq_true (List.all_eq_true.mp h slip hslip)

def purgesPeer (u : Unicode) (jobs : List Job) (p : Labelled) (a : Turn Reading) (w : String) :
    Bool :=
  match p.threads.command a.thread with
  | some (.removeTaskMessages workspace id) =>
    (p.sort u jobs a (.removeTaskMessages workspace id) w).1.any fun slip =>
      decide (slip.author = .peer)
  | _ => false

lemma not_departs_of_purgesPeer {jobs : List Job} {p : Labelled} {a : Turn Reading}
    (h : p.purgesPeer u jobs a w = true) : ¬p.Departs u jobs a := by
  intro hdeparts
  unfold purgesPeer at h
  split at h
  · rename_i workspace id hc
    obtain ⟨slip, hslip, hpeer⟩ := List.any_eq_true.mp h
    cases hdeparts _ hc w slip hslip with
    | purged hauthor _ =>
      rw [of_decide_eq_true hpeer] at hauthor
      cases hauthor
  · cases h

end Labelled

def taskUuid : String :=
  "00000000-0000-4000-8000-000000000000"

/-- A daemon with a task of `ann` for `bob`. -/
def uuidCtx : HandlerCtx :=
  { newCtx with
    taskStore :=
      ⟨none, KeyedMap.empty.put (newTask 0 taskUuid (plainInput "bob" "ann" "")), .absent⟩ }

/-- `cat` writes to `bob`, and `ann` cancels the task. -/
def writeAndCancel (text : String) : List Job :=
  [.request (.sendMessage "cat" ⟨"bob", text, ""⟩),
    .request (.cancelTask "ann" ⟨taskUuid, "", none⟩)]

/-- The request of `cat`, then some turns of `ann`. -/
def catThenAnn (count : Nat) : List (Turn Reading) :=
  turns 0 6 ++ turns 1 count

/-- The state after these turns. -/
def afterCat (text : String) (count : Nat) : Option Labelled :=
  runSteps (Labelled.next .ascii (writeAndCancel text))
    ⟨Threads.start .ascii (writeAndCancel text) uuidCtx, fun _ => []⟩ (catThenAnn count)

def MailRun.ofText (text : String) {last : Labelled} (hlast : afterCat text 8 = some last)
    (huuids : checkSteps (Labelled.next .ascii (writeAndCancel text))
      (fun p a => decide (p.FreshUuids .ascii a))
      ⟨Threads.start .ascii (writeAndCancel text) uuidCtx, fun _ => []⟩ (catThenAnn 8) = true) :
    MailRun .ascii where
  jobs := writeAndCancel text
  ctx := uuidCtx
  trays _ := []
  turns := catThenAnn 8
  last := last
  linkable := by
    refine AllRecords.put ?_ ⟨by decide, Or.inl (by decide)⟩
    intro id t ht
    rw [KeyedMap.get_empty] at ht
    cases ht
  files _ := rfl
  genuine _ _ hslip := nomatch hslip
  reached := exec_of_runSteps (fun _ _ _ h => h) hlast
  uuids := eachStep_of_checkSteps (fun _ _ _ h => h) (fun _ _ => of_decide_eq_true) huuids

lemma plainText_isSome : (afterCat "hello" 8).isSome = true := by
  decide +kernel

/-- The run in which `cat` writes about something else. -/
def plainText : MailRun .ascii :=
  .ofText "hello" (Option.some_get plainText_isSome).symm (by decide +kernel)

/-- The message of `cat` is still there when the task has ended. -/
theorem plainText_kept :
    plainText.EachTurn (Labelled.Departs .ascii plainText.jobs) ∧
      (plainText.last.queue.inbox "bob").map Message.content = ["hello"] := by
  refine ⟨(peer_mail_kept_iff plainText).2.mpr ?_, by decide +kernel⟩
  exact eachStep_of_checkSteps (fun _ _ _ hstep => hstep)
    (fun _ _ => Labelled.purgesSparePeers_of_test) (by decide +kernel)

/-- `cat` quotes the id of the task. -/
def quotation : String :=
  "See Task ID: 00000000-0000-4000-8000-000000000000"

lemma quotedTask_isSome :
    (afterCat quotation 3).isSome = true ∧ (afterCat quotation 8).isSome = true := by
  decide +kernel

/-- The run in which `cat` quotes the id. -/
def quotedTask : MailRun .ascii :=
  .ofText quotation (Option.some_get quotedTask_isSome.2).symm (by decide +kernel)

/-- The message of `cat` is purged with the task of `ann`, before `bob` has read it. -/
theorem quotedTask_purged :
    ¬quotedTask.EachTurn (Labelled.Departs .ascii quotedTask.jobs) ∧
      quotedTask.last.queue.inbox "bob" = [] := by
  refine ⟨fun h => ?_, by decide +kernel⟩
  have hbefore : Exec (Labelled.Step .ascii (writeAndCancel quotation)) quotedTask.start
      (catThenAnn 3) ((afterCat quotation 3).get quotedTask_isSome.1) :=
    exec_of_runSteps (fun _ _ _ h => h) (Option.some_get quotedTask_isSome.1).symm
  have hpurge := h (catThenAnn 3) ⟨1, calmReading⟩ (turns 1 4) _ rfl hbefore
  exact Labelled.not_departs_of_purgesPeer (w := "bob") (by decide +kernel) hpurge

end Ax.Daemon
