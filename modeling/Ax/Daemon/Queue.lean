import Ax.Foundation.AtomicFile
import Ax.Daemon.TaskHelpers

/-!
# The message queue

One inbox for every workspace, in the order of arrival and with a cap that drops
the oldest messages.  The inboxes are written to the state file from time to
time; a dirty flag says whether there is something to write.

Main results:

- Theorem `mem_inbox_enqueue`: the newest message survives the cap.
- Theorem `pendingCount_eq_zero_iff`: the count is zero for an empty inbox only.
-/

namespace Ax.Daemon

inductive QueueError
  | read (path source : String)
  | decode (path source : String)
  | encode (source : String)
  | persist (reason : String)
deriving DecidableEq, Repr

/-- The inboxes, the cap, and what is known of the state file: where it is,
what it holds and whether it is behind.  A snapshot of an inbox may be `null`. -/
structure MessageQueue where
  filePath : Option String
  maxSize : Nat
  byWorkspace : BTreeMap String (List Message)
  dirty : Bool
  file : FileContent (List (String × Option (List Message)))

/-- `DEFAULT_MAX_QUEUE_PER_WORKSPACE`. -/
def defaultMaxQueuePerWorkspace : Nat :=
  1000

/-- `message_task_id`: the task a message belongs to, by its tag or else by the
task named in its text. -/
def messageTaskId (u : Unicode) (msg : Message) : String :=
  let tag := Text.trim msg.taskId
  if tag = "" then extractTaskId u msg.content else tag

namespace MessageQueue

def new : MessageQueue where
  filePath := none
  maxSize := defaultMaxQueuePerWorkspace
  byWorkspace := ∅
  dirty := false
  file := .absent

def inboxesOf (entries : List (String × Option (List Message))) :
    BTreeMap String (List Message) :=
  entries.foldl (fun m entry => m.insert entry.1 (entry.2.getD [])) ∅

def load (stateDir : String) (file : FileContent (List (String × Option (List Message)))) :
    Except QueueError MessageQueue :=
  let path := stateDir ++ "/queue.json"
  let queue := fun byWorkspace =>
    { filePath := some path
      maxSize := defaultMaxQueuePerWorkspace
      byWorkspace := byWorkspace
      dirty := false
      file := file }
  match file with
  | .absent => .ok (queue ∅)
  | .unreadable source => .error (.read path source)
  | .undecodable source => .error (.decode path source)
  | .holds entries => .ok (queue (inboxesOf entries))

def inbox (q : MessageQueue) (workspace : String) : List Message :=
  (q.byWorkspace[workspace]?).getD []

def setInbox (q : MessageQueue) (workspace : String) (messages : List Message) : MessageQueue :=
  { q with byWorkspace := q.byWorkspace.insert workspace messages }

variable (q : MessageQueue)

lemma inbox_setInbox (workspace w : String) (messages : List Message) :
    (q.setInbox workspace messages).inbox w =
      if w = workspace then messages else q.inbox w := by
  unfold inbox setInbox
  rw [BTreeMap.get?_insert]
  split <;> rfl

/-! ## Operations -/

def stamp (now : Timestamp) (uuid : String) (msg : Message) : Message :=
  { msg with
    id := if msg.id = "" then "msg-" ++ uuid else msg.id
    createdAt := if msg.createdAt.timestamp = 0 then now else msg.createdAt }

@[simp]
lemma stamp_recipient (now : Timestamp) (uuid : String) (msg : Message) :
    (stamp now uuid msg).recipient = msg.recipient :=
  rfl

def capped (maxSize : Nat) (messages : List Message) : List Message :=
  if 0 < maxSize ∧ maxSize < messages.length then
    messages.drop (messages.length - maxSize)
  else messages

def enqueue (q : MessageQueue) (now : Timestamp) (uuid : String) (msg : Message) :
    Message × MessageQueue :=
  let msg := stamp now uuid msg
  let messages := capped q.maxSize (q.inbox msg.recipient ++ [msg])
  (msg, { q.setInbox msg.recipient messages with dirty := true })

/-- The messages that `dequeue` returns and those it keeps: the first `limit`
from the given sender, or from anyone, are returned. -/
def takeMessages (sender : Option String) : Nat → List Message → List Message × List Message
  | 0, messages => ([], messages)
  | _ + 1, [] => ([], [])
  | limit + 1, msg :: rest =>
    if sender.any (fun name => msg.sender ≠ name) then
      let (out, kept) := takeMessages sender (limit + 1) rest
      (out, msg :: kept)
    else
      let (out, kept) := takeMessages sender limit rest
      (msg :: out, kept)

/-- Remove and return up to `limit` messages of a workspace, optionally only
those of one sender. -/
def dequeue (q : MessageQueue) (workspace : String) (limit : Nat) (sender : Option String) :
    List Message × MessageQueue :=
  match q.byWorkspace[workspace]? with
  | none => ([], q)
  | some messages =>
    let (out, kept) := takeMessages sender limit messages
    let q' := q.setInbox workspace kept
    (out, if out = [] then q' else { q' with dirty := true })

def pendingCount (q : MessageQueue) (workspace : String) : Nat :=
  (q.inbox workspace).length

def removeTaskMessages (u : Unicode) (q : MessageQueue) (workspace taskId : String) :
    Nat × MessageQueue :=
  let taskId := Text.trim taskId
  if taskId = "" then (0, q)
  else
    match q.byWorkspace[workspace]? with
    | none => (0, q)
    | some messages =>
      let kept := messages.filter fun msg => messageTaskId u msg ≠ taskId
      let removed := messages.length - kept.length
      let q' := q.setInbox workspace kept
      (removed, if 0 < removed then { q' with dirty := true } else q')

def hasTaskMessage (u : Unicode) (q : MessageQueue) (workspace taskId : String) : Bool :=
  let taskId := Text.trim taskId
  if taskId = "" then false
  else (q.inbox workspace).any fun msg => messageTaskId u msg = taskId

def flush (q : MessageQueue) (write : WriteOutcome) : Except QueueError Unit × MessageQueue :=
  match q.filePath with
  | none => (.ok (), q)
  | some _ =>
    if q.dirty then
      let snapshot := q.byWorkspace.toList.map fun (w, messages) => (w, some messages)
      let q' := { q with file := q.file.replace write snapshot }
      match write with
      | .done => (.ok (), { q' with dirty := false })
      | .encodeFailed source => (.error (.encode source), { q' with dirty := false })
      | .writeFailed reason => (.error (.persist reason), q')
    else (.ok (), q)

/-! ## Inboxes after each operation -/

/-- The count is zero for an empty inbox only. -/
theorem pendingCount_eq_zero_iff {q : MessageQueue} {workspace : String} :
    q.pendingCount workspace = 0 ↔ q.inbox workspace = [] :=
  List.length_eq_zero_iff

lemma inbox_enqueue (now : Timestamp) (uuid w : String) (msg : Message) :
    (q.enqueue now uuid msg).2.inbox w =
      if w = msg.recipient then
        capped q.maxSize (q.inbox msg.recipient ++ [stamp now uuid msg])
      else q.inbox w :=
  inbox_setInbox q msg.recipient w _

lemma mem_capped (maxSize : Nat) (messages : List Message) (msg : Message) :
    msg ∈ capped maxSize (messages ++ [msg]) := by
  unfold capped
  split
  · rename_i h
    rw [List.drop_append_of_le_length (by simp at h ⊢; omega)]
    simp
  · simp

/-- The newest message survives the cap. -/
theorem mem_inbox_enqueue (now : Timestamp) (uuid : String) (msg : Message) :
    stamp now uuid msg ∈ (q.enqueue now uuid msg).2.inbox msg.recipient := by
  rw [inbox_enqueue, if_pos rfl]
  exact mem_capped _ _ _

lemma inbox_dequeue (workspace w : String) (limit : Nat) (sender : Option String) :
    (q.dequeue workspace limit sender).2.inbox w =
      if w = workspace then (takeMessages sender limit (q.inbox workspace)).2 else q.inbox w := by
  unfold dequeue
  split
  · rename_i hnone
    have hempty : q.inbox workspace = [] := by simp [inbox, hnone]
    split
    · rename_i hw
      subst hw
      rw [hempty]
      cases limit <;> rfl
    · rfl
  · rename_i messages hsome
    have hinbox : q.inbox workspace = messages := by simp [inbox, hsome]
    rw [hinbox]
    dsimp only
    split
    · exact inbox_setInbox _ _ _ _
    · exact inbox_setInbox _ _ _ _

lemma inbox_removeTaskMessages (u : Unicode) (q : MessageQueue) (workspace taskId w : String) :
    (q.removeTaskMessages u workspace taskId).2.inbox w =
      if w = workspace ∧ Text.trim taskId ≠ "" then
        (q.inbox workspace).filter fun msg => messageTaskId u msg ≠ Text.trim taskId
      else q.inbox w := by
  unfold removeTaskMessages
  dsimp only
  by_cases hblank : Text.trim taskId = ""
  · simp [hblank]
  · rw [if_neg hblank]
    split
    · rename_i hnone
      have hempty : q.inbox workspace = [] := by simp [inbox, hnone]
      by_cases hw : w = workspace
      · subst hw
        simp [hempty]
      · simp [hw]
    · rename_i messages hsome
      have hinbox : q.inbox workspace = messages := by simp [inbox, hsome]
      rw [hinbox]
      split
      · simp only [hblank, not_false_eq_true, and_true, ne_eq]
        exact inbox_setInbox _ _ _ _
      · simp only [hblank, not_false_eq_true, and_true, ne_eq]
        exact inbox_setInbox _ _ _ _

lemma inbox_flush (write : WriteOutcome) (w : String) :
    (q.flush write).2.inbox w = q.inbox w := by
  unfold flush
  split
  · rfl
  · split
    · cases write <;> rfl
    · rfl

end MessageQueue
end Ax.Daemon
