import Ax.Foundation.Selection
import Ax.Daemon.Queue

/-!
# The books of the message queue

What becomes of every message that is ever enqueued.  The ledger has one posting
for each of them, in the order of arrival, which says where the message is: still
in the inbox, returned by one reading, dropped at the cap or purged with the
messages of a task.  The ledger is kept by moving postings only; that the inboxes
and the answers of the queue are what the ledger says is proved of every sequence
of operations.

Main results:

- Theorem `queue_accounting`: every message is in exactly one place, and each place has its reason.
-/

namespace Ax.Daemon

open MessageQueue

/-! ## Operations -/

/-- The operations that change an inbox. -/
inductive QueueOp
  | enqueue (now : Timestamp) (uuid : String) (msg : Message)
  | dequeue (workspace : String) (limit : Nat) (sender : Option String)
  | removeTaskMessages (workspace taskId : String)

def QueueOp.apply (u : Unicode) (q : MessageQueue) : QueueOp → MessageQueue
  | .enqueue now uuid msg => (q.enqueue now uuid msg).2
  | .dequeue workspace limit sender => (q.dequeue workspace limit sender).2
  | .removeTaskMessages workspace taskId => (q.removeTaskMessages u workspace taskId).2

def applyOps (u : Unicode) (q : MessageQueue) (ops : List QueueOp) : MessageQueue :=
  ops.foldl (fun q op => op.apply u q) q

def QueueOp.posts : QueueOp → Option Message
  | .enqueue now uuid msg => some (stamp now uuid msg)
  | .dequeue .. | .removeTaskMessages .. => none

def isFrom (sender : Option String) (msg : Message) : Bool :=
  !sender.any fun name => msg.sender ≠ name

variable (u : Unicode) (q : MessageQueue)

@[simp]
lemma maxSize_apply (op : QueueOp) : (op.apply u q).maxSize = q.maxSize := by
  cases op with
  | enqueue now uuid msg => rfl
  | dequeue workspace limit sender =>
    simp only [QueueOp.apply, dequeue]
    split
    · rfl
    · dsimp only
      split <;> rfl
  | removeTaskMessages workspace taskId =>
    simp only [QueueOp.apply, removeTaskMessages]
    split
    · rfl
    · split
      · rfl
      · split <;> rfl

@[simp]
lemma maxSize_applyOps (ops : List QueueOp) : (applyOps u q ops).maxSize = q.maxSize := by
  induction ops generalizing q with
  | nil => rfl
  | cons op ops ih => exact (ih _).trans (maxSize_apply u q op)

lemma applyOps_snoc (ops : List QueueOp) (op : QueueOp) :
    applyOps u q (ops ++ [op]) = op.apply u (applyOps u q ops) := by
  simp [applyOps]

lemma takeMessages_eq (sender : Option String) (limit : Nat) (messages : List Message) :
    takeMessages sender limit messages = takeFirst (isFrom sender) limit messages := by
  induction messages generalizing limit with
  | nil => cases limit <;> simp [takeMessages]
  | cons msg rest ih =>
    cases limit with
    | zero => simp [takeMessages, takeFirst]
    | succ limit =>
      unfold takeMessages
      split
      · rename_i hother
        rw [takeFirst_cons_of_neg (by simp only [isFrom, hother, Bool.not_true]), ih]
      · rename_i hsame
        rw [takeFirst_cons_of_pos (by simp only [isFrom, hsame, Bool.not_false]), ih]

lemma dequeue_fst (workspace : String) (limit : Nat) (sender : Option String) :
    (q.dequeue workspace limit sender).1 =
      (takeFirst (isFrom sender) limit (q.inbox workspace)).1 := by
  unfold dequeue inbox
  split
  · rename_i hnone
    simp [hnone]
  · rename_i messages hsome
    simp [hsome, takeMessages_eq]

lemma capped_eq_drop {maxSize : Nat} (h : 0 < maxSize) (messages : List Message) :
    capped maxSize messages = messages.drop (messages.length - maxSize) := by
  unfold capped
  split
  · rfl
  · rename_i hfits
    rw [show messages.length - maxSize = 0 by omega, List.drop_zero]

/-! ## The ledger -/

/-- Where a message is.  Operations are numbered in their order. -/
inductive Place
  | inbox
  | returned (op : Nat)
  | dropped (op : Nat)
  | purged (op : Nat)
deriving DecidableEq, Repr

structure Posting where
  msg : Message
  place : Place

namespace Posting

/-- The message waits in the inbox of `w`. -/
def waits (w : String) (e : Posting) : Bool :=
  decide (e.place = .inbox) && decide (e.msg.recipient = w)

/-- The message was returned by the operation `j`. -/
def isReturned (j : Nat) (e : Posting) : Bool :=
  e.place = .returned j

def moved (place : Place) (e : Posting) : Posting :=
  { e with place := place }

def Later (e e' : Posting) : Prop :=
  e'.msg = e.msg ∧ (e.place ≠ .inbox → e' = e)

end Posting

/-- The messages that wait for `w`, in the order of arrival. -/
def waiting (l : List Posting) (w : String) : List Message :=
  (l.filter (Posting.waits w)).map Posting.msg

structure Movement where
  workspace : String
  takes : Message → Bool
  place : Place
  count : Nat

namespace Movement

/-- A message that may leave. -/
def picks (m : Movement) (e : Posting) : Bool :=
  e.waits m.workspace && m.takes e.msg

def move (m : Movement) (l : List Posting) : List Posting :=
  markFirst m.picks (Posting.moved m.place) m.count l

end Movement

namespace QueueOp

def movement (u : Unicode) (maxSize number : Nat) (l : List Posting) : QueueOp → Movement
  | .enqueue _ _ msg =>
    ⟨msg.recipient, fun _ => true, .dropped number,
      (waiting l msg.recipient).length - maxSize⟩
  | .dequeue workspace limit sender => ⟨workspace, isFrom sender, .returned number, limit⟩
  | .removeTaskMessages workspace taskId =>
    ⟨workspace,
      fun msg => decide (Text.trim taskId ≠ "") &&
        decide (messageTaskId u msg = Text.trim taskId),
      .purged number, (waiting l workspace).length⟩

def post (l : List Posting) (op : QueueOp) : List Posting :=
  match op.posts with
  | none => l
  | some msg => l ++ [⟨msg, .inbox⟩]

end QueueOp

def book (u : Unicode) (maxSize number : Nat) (l : List Posting) (op : QueueOp) :
    List Posting :=
  (op.movement u maxSize number (op.post l)).move (op.post l)

def ledger (u : Unicode) (maxSize : Nat) (ops : List QueueOp) : List Posting :=
  ops.zipIdx.foldl (fun l op => book u maxSize op.2 l op.1) []

lemma ledger_snoc (maxSize : Nat) (ops : List QueueOp) (op : QueueOp) :
    ledger u maxSize (ops ++ [op]) = book u maxSize ops.length (ledger u maxSize ops) op := by
  simp [ledger, List.zipIdx_append]

/-! ## Inboxes and ledger -/

namespace Posting

variable {e : Posting} {w : String}

lemma waits_iff : e.waits w = true ↔ e.place = .inbox ∧ e.msg.recipient = w := by
  simp [waits]

lemma not_waits_moved {place : Place} (hplace : place ≠ .inbox) :
    (e.moved place).waits w = false := by
  simp [waits, moved, hplace]

end Posting

namespace Movement

variable {m : Movement}

lemma waits_of_picks {e : Posting} (h : m.picks e = true) : e.waits m.workspace = true :=
  (Bool.and_eq_true_iff.mp h).1

lemma waiting_move (hplace : m.place ≠ .inbox) (l : List Posting) (w : String) :
    waiting (m.move l) w =
      if w = m.workspace then (takeFirst m.takes m.count (waiting l w)).2 else waiting l w := by
  have hgone : ∀ e, m.picks e = true → (e.moved m.place).waits w = false :=
    fun _ _ => Posting.not_waits_moved hplace
  unfold waiting move
  split
  · rename_i hw
    subst hw
    rw [filter_markFirst (fun _ => waits_of_picks) hgone, takeFirst_map]
    refine congrArg (List.map Posting.msg) (congrArg Prod.snd (takeFirst_congr ?_ _))
    intro e he
    simp [picks, (List.mem_filter.mp he).2]
  · rename_i hw
    have hother : ∀ e, m.picks e = true → e.waits w = false := by
      intro e he
      obtain ⟨hplace, hrecipient⟩ := Posting.waits_iff.mp (waits_of_picks he)
      simp [Posting.waits, hrecipient, Ne.symm hw]
    rw [filter_markFirst_of_disjoint hother hgone]

end Movement

variable {l : List Posting}

lemma movement_place_ne {u : Unicode} {maxSize number : Nat} (op : QueueOp) :
    (op.movement u maxSize number l).place ≠ .inbox := by
  cases op <;> nofun

lemma waiting_append (l : List Posting) (msg : Message) (w : String) :
    waiting (l ++ [⟨msg, .inbox⟩]) w =
      if w = msg.recipient then waiting l w ++ [msg] else waiting l w := by
  unfold waiting
  rw [List.filter_append, List.map_append]
  by_cases hw : w = msg.recipient
  · simp [Posting.waits, hw]
  · simp [Posting.waits, hw, Ne.symm hw]

lemma inbox_book {u : Unicode} {q : MessageQueue} (hcap : 0 < q.maxSize)
    (h : ∀ w, q.inbox w = waiting l w) (number : Nat) (op : QueueOp) (w : String) :
    (op.apply u q).inbox w = waiting (book u q.maxSize number l op) w := by
  rw [book, Movement.waiting_move (movement_place_ne op)]
  cases op with
  | enqueue now uuid msg =>
    have hpost := waiting_append l (stamp now uuid msg)
    simp only [QueueOp.apply, inbox_enqueue, QueueOp.movement, QueueOp.post, QueueOp.posts,
      hpost, stamp_recipient, capped_eq_drop hcap, h]
    by_cases hw : w = msg.recipient
    · simp only [hw, if_true]
      rw [takeFirst_of_forall fun _ _ => rfl]
    · simp [hw]
  | dequeue workspace limit sender =>
    simp only [QueueOp.apply, inbox_dequeue, QueueOp.movement, QueueOp.post, QueueOp.posts,
      takeMessages_eq, h]
    by_cases hw : w = workspace
    · simp [hw]
    · simp [hw]
  | removeTaskMessages workspace taskId =>
    simp only [QueueOp.apply, inbox_removeTaskMessages, QueueOp.movement, QueueOp.post,
      QueueOp.posts, h]
    by_cases hw : w = workspace
    · subst hw
      rw [takeFirst_of_length_le le_rfl]
      by_cases hblank : Text.trim taskId = "" <;> simp [hblank]
    · simp [hw]

/-! ## Accounts -/

def Explained (u : Unicode) (q : MessageQueue) (ops : List QueueOp) (e : Posting) : Prop :=
  match e.place with
  | .inbox => True
  | .returned j => ∃ limit sender, ops[j]? = some (.dequeue e.msg.recipient limit sender) ∧
      isFrom sender e.msg = true
  | .dropped j => ∃ now uuid msg rest, ops[j]? = some (.enqueue now uuid msg) ∧
      msg.recipient = e.msg.recipient ∧ rest.length + 1 = q.maxSize ∧
      (applyOps u q (ops.take j)).inbox e.msg.recipient = e.msg :: rest
  | .purged j => ∃ taskId, ops[j]? = some (.removeTaskMessages e.msg.recipient taskId) ∧
      Text.trim taskId ≠ "" ∧ messageTaskId u e.msg = Text.trim taskId

/-- The state of the books after a sequence of operations. -/
structure Accounts (u : Unicode) (q : MessageQueue) (ops : List QueueOp) : Prop where
  posted : (ledger u q.maxSize ops).map Posting.msg = ops.filterMap QueueOp.posts
  inbox : ∀ w, (applyOps u q ops).inbox w = waiting (ledger u q.maxSize ops) w
  capped : ∀ w, ((applyOps u q ops).inbox w).length ≤ q.maxSize
  explained : ∀ e ∈ ledger u q.maxSize ops, Explained u q ops e
  answered : ∀ j w limit sender, ops[j]? = some (.dequeue w limit sender) →
    ((applyOps u q (ops.take j)).dequeue w limit sender).1 =
      ((ledger u q.maxSize ops).filter (Posting.isReturned j)).map Posting.msg

section Accounts

variable {u : Unicode} {q : MessageQueue} {ops : List QueueOp} {op : QueueOp}

lemma map_msg_book (maxSize number : Nat) (l : List Posting) (op : QueueOp) :
    (book u maxSize number l op).map Posting.msg = l.map Posting.msg ++ op.posts.toList := by
  have hkept : ∀ m : Movement, (m.move (op.post l)).map Posting.msg =
      (op.post l).map Posting.msg :=
    fun m => map_markFirst (f := Posting.moved m.place) (fun _ => rfl) _ _
  rw [book, hkept, QueueOp.post]
  cases op.posts <;> simp

lemma length_inbox_apply (hcap : 0 < q.maxSize) (h : ∀ w, (q.inbox w).length ≤ q.maxSize)
    (w : String) : ((op.apply u q).inbox w).length ≤ q.maxSize := by
  cases op with
  | enqueue now uuid msg =>
    simp only [QueueOp.apply, inbox_enqueue, capped_eq_drop hcap]
    split
    · rw [List.length_drop]
      omega
    · exact h w
  | dequeue workspace limit sender =>
    simp only [QueueOp.apply, inbox_dequeue, takeMessages_eq]
    split
    · exact (takeFirst_snd_sublist _ _).length_le.trans (h workspace)
    · exact h w
  | removeTaskMessages workspace taskId =>
    simp only [QueueOp.apply, inbox_removeTaskMessages]
    split
    · exact (List.length_filter_le _ _).trans (h workspace)
    · exact h w

variable {e : Posting}

/-- A reason stays one. -/
theorem Explained.snoc (h : Explained u q ops e) (op : QueueOp) :
    Explained u q (ops ++ [op]) e := by
  unfold Explained at h ⊢
  have hearlier : ∀ {j : Nat} {x : QueueOp}, ops[j]? = some x →
      (ops ++ [op])[j]? = some x ∧ (ops ++ [op]).take j = ops.take j := by
    intro j x hj
    obtain ⟨hlt, _⟩ := List.getElem?_eq_some_iff.mp hj
    exact ⟨(List.getElem?_append_left hlt).trans hj, List.take_append_of_le_length hlt.le⟩
  cases hplace : e.place with
  | inbox => trivial
  | returned j =>
    rw [hplace] at h
    obtain ⟨limit, sender, hj, hfrom⟩ := h
    exact ⟨limit, sender, (hearlier hj).1, hfrom⟩
  | dropped j =>
    rw [hplace] at h
    obtain ⟨now, uuid, msg, rest, hj, hfull⟩ := h
    refine ⟨now, uuid, msg, rest, (hearlier hj).1, ?_⟩
    rw [(hearlier hj).2]
    exact hfull
  | purged j =>
    rw [hplace] at h
    obtain ⟨taskId, hj, hmatch⟩ := h
    exact ⟨taskId, (hearlier hj).1, hmatch⟩

lemma oldest_of_dropped (hcap : 0 < q.maxSize) {l : List Posting} {w : String}
    (hlength : (waiting l w).length ≤ q.maxSize) {msg : Message} (hw : msg.recipient = w)
    (he : e ∈ ((l ++ [Posting.mk msg .inbox]).filter (Posting.waits w)).take
      ((waiting (l ++ [Posting.mk msg .inbox]) w).length - q.maxSize)) :
    ∃ rest, waiting l w = e.msg :: rest ∧ rest.length + 1 = q.maxSize := by
  have hall : waiting (l ++ [Posting.mk msg .inbox]) w = waiting l w ++ [msg] := by
    rw [waiting_append, if_pos hw.symm]
  have hmem : e.msg ∈ (waiting l w ++ [msg]).take ((waiting l w).length + 1 - q.maxSize) := by
    rw [hall, List.length_append, List.length_singleton] at he
    have hmsg := List.mem_map_of_mem (f := Posting.msg) he
    rwa [List.map_take, ← waiting, hall] at hmsg
  cases hl : waiting l w with
  | nil =>
    rw [hl, show ([] : List Message).length + 1 - q.maxSize = 0 by simp; omega] at hmem
    cases hmem
  | cons oldest rest =>
    have hfull : rest.length + 1 = q.maxSize := by
      by_contra hne
      rw [hl, List.length_cons] at hlength hmem
      rw [show rest.length + 1 + 1 - q.maxSize = 0 by omega] at hmem
      cases hmem
    rw [hl, List.length_cons, show rest.length + 1 + 1 - q.maxSize = 1 by omega] at hmem
    have holdest : e.msg = oldest := by simpa using hmem
    exact ⟨rest, by rw [holdest], hfull⟩

lemma explained_moved (hcap : 0 < q.maxSize) (h : Accounts u q ops) {m : Movement}
    (hm : op.movement u q.maxSize ops.length (op.post (ledger u q.maxSize ops)) = m)
    (he : e ∈ ((op.post (ledger u q.maxSize ops)).filter m.picks).take m.count) :
    Explained u q (ops ++ [op]) (e.moved m.place) := by
  have hlast : (ops ++ [op])[ops.length]? = some op := by simp
  obtain ⟨hwaits, htakes⟩ :=
    Bool.and_eq_true_iff.mp (List.mem_filter.mp (List.mem_of_mem_take he)).2
  obtain ⟨_, hrecipient⟩ := Posting.waits_iff.mp hwaits
  subst hm
  cases op with
  | enqueue now uuid msg =>
    have hto : e.msg.recipient = msg.recipient := hrecipient
    have hlength : (waiting (ledger u q.maxSize ops) msg.recipient).length ≤ q.maxSize := by
      rw [← h.inbox]
      exact h.capped _
    have hpicks : ∀ place count, (Movement.mk msg.recipient (fun _ => true) place count).picks =
          Posting.waits msg.recipient := by
      intro place count
      funext e
      exact Bool.and_true _
    rw [QueueOp.movement, hpicks] at he
    obtain ⟨rest, hinbox, hfull⟩ := oldest_of_dropped hcap hlength (stamp_recipient now uuid msg) he
    refine ⟨now, uuid, msg, rest, hlast, hto.symm, hfull, ?_⟩
    show (applyOps u q ((ops ++ [_]).take ops.length)).inbox e.msg.recipient = _
    rw [List.take_left, hto, h.inbox, hinbox]
    rfl
  | dequeue workspace limit sender =>
    have hto : e.msg.recipient = workspace := hrecipient
    subst hto
    exact ⟨limit, sender, hlast, htakes⟩
  | removeTaskMessages workspace taskId =>
    have hto : e.msg.recipient = workspace := hrecipient
    subst hto
    simp only [QueueOp.movement, Bool.and_eq_true, decide_eq_true_eq] at htakes
    exact ⟨taskId, hlast, htakes⟩

/-- The answer of a reading is what it moved. -/
theorem answered_last {l : List Posting} (hinbox : ∀ w, q.inbox w = waiting l w)
    {number : Nat} (hnew : ∀ e ∈ l, e.isReturned number = false) (maxSize : Nat)
    (workspace : String) (limit : Nat) (sender : Option String) :
    (q.dequeue workspace limit sender).1 =
      ((book u maxSize number l (.dequeue workspace limit sender)).filter
        (Posting.isReturned number)).map Posting.msg := by
  have hmarked : (book u maxSize number l (.dequeue workspace limit sender)).filter
      (Posting.isReturned number) =
        ((l.filter fun e => e.waits workspace && isFrom sender e.msg).take limit).map
          (Posting.moved (.returned number)) :=
    filter_marked (q := Posting.isReturned number) (fun _ _ => decide_eq_true rfl) hnew limit
  have hswap : (fun e => (isFrom sender ∘ Posting.msg) e && e.waits workspace) =
      fun e => e.waits workspace && isFrom sender e.msg := by
    funext e
    exact Bool.and_comm _ _
  rw [dequeue_fst, hinbox, hmarked, takeFirst_fst, waiting, List.filter_map, List.filter_filter,
    ← List.map_take, List.map_map, hswap]
  rfl

lemma filter_isReturned_book {maxSize number j : Nat} (hj : j ≠ number) (l : List Posting)
    (op : QueueOp) :
    (book u maxSize number l op).filter (Posting.isReturned j) =
      l.filter (Posting.isReturned j) := by
  have hmoved : ∀ e : Posting, (e.moved
      (op.movement u maxSize number (op.post l)).place).isReturned j = false := by
    intro e
    cases op <;> simp [Posting.isReturned, Posting.moved, QueueOp.movement, Ne.symm hj]
  have hpost : (op.post l).filter (Posting.isReturned j) = l.filter (Posting.isReturned j) := by
    unfold QueueOp.post
    cases op.posts <;> simp [Posting.isReturned]
  rw [book, Movement.move, filter_markFirst_of_disjoint ?_ fun e _ => hmoved e, hpost]
  intro e he
  obtain ⟨hplace, _⟩ := Posting.waits_iff.mp (Movement.waits_of_picks he)
  simp [Posting.isReturned, hplace]

/-- One operation keeps the books. -/
theorem Accounts.snoc (hcap : 0 < q.maxSize) (h : Accounts u q ops) (op : QueueOp) :
    Accounts u q (ops ++ [op]) := by
  have hsize : (applyOps u q ops).maxSize = q.maxSize := maxSize_applyOps u q ops
  have hbook := ledger_snoc u q.maxSize ops op
  constructor
  · rw [hbook, map_msg_book, h.posted, List.filterMap_append]
    cases hposts : op.posts <;> simp [hposts]
  · intro w
    rw [applyOps_snoc, hbook, ← hsize]
    exact inbox_book (hsize ▸ hcap) (hsize.symm ▸ h.inbox) _ op w
  · intro w
    rw [applyOps_snoc, ← hsize]
    exact length_inbox_apply (hsize ▸ hcap) (hsize.symm ▸ h.capped) w
  · intro e he
    rw [hbook] at he
    rcases mem_markFirst he with hold | ⟨x, hx, rfl⟩
    · have hcases : e ∈ ledger u q.maxSize ops ∨ e.place = .inbox := by
        unfold QueueOp.post at hold
        cases hposts : op.posts with
        | none =>
          rw [hposts] at hold
          exact Or.inl hold
        | some msg =>
          rw [hposts] at hold
          rcases List.mem_append.mp hold with hold | hnew
          · exact Or.inl hold
          · exact Or.inr (by rw [List.mem_singleton.mp hnew])
      rcases hcases with hold | hinbox
      · exact (h.explained e hold).snoc op
      · simp [Explained, hinbox]
    · exact explained_moved hcap h rfl hx
  · intro j w limit sender hj
    rw [hbook]
    by_cases hlast : j = ops.length
    · subst hlast
      have hop : op = .dequeue w limit sender := by simpa using hj
      subst hop
      rw [List.take_left]
      have hnew : ∀ e ∈ ledger u q.maxSize ops, e.isReturned ops.length = false := by
        intro e he
        have hwhy := h.explained e he
        unfold Explained at hwhy
        by_contra hret
        simp only [Posting.isReturned, Bool.not_eq_false, decide_eq_true_eq] at hret
        rw [hret] at hwhy
        obtain ⟨_, _, hop, _⟩ := hwhy
        simp at hop
      exact answered_last h.inbox hnew q.maxSize w limit sender
    · have hlt : j < ops.length := by
        have hbound := (List.getElem?_eq_some_iff.mp hj).1
        simp at hbound
        omega
      rw [List.getElem?_append_left hlt] at hj
      rw [List.take_append_of_le_length hlt.le, filter_isReturned_book hlast]
      exact h.answered j w limit sender hj

lemma accounts (hcap : 0 < q.maxSize) (hempty : ∀ w, q.inbox w = []) (ops : List QueueOp) :
    Accounts u q ops := by
  induction ops using List.reverseRecOn with
  | nil =>
    refine ⟨rfl, hempty, ?_, ?_, ?_⟩
    · intro w
      simp [applyOps, hempty w]
    · simp [ledger]
    · simp
  | append_singleton ops op ih => exact ih.snoc hcap op

end Accounts

/-! ## Earlier and later books -/

/-- The ledger `l'` comes after `l`: it has the messages of `l` at the same numbers, each
of them in the place where it was or taken out of the inbox since. -/
def Continues (l l' : List Posting) : Prop :=
  ∀ (i : Nat) (e : Posting), l[i]? = some e → ∃ e', l'[i]? = some e' ∧ e.Later e'

lemma Continues.trans {l' l'' : List Posting} (h : Continues l l') (h' : Continues l' l'') :
    Continues l l'' := by
  intro i e he
  obtain ⟨e', he', hmsg, hfinal⟩ := h i e he
  obtain ⟨e'', he'', hmsg', hfinal'⟩ := h' i e' he'
  refine ⟨e'', he'', hmsg'.trans hmsg, fun hplace => ?_⟩
  obtain rfl := hfinal hplace
  exact hfinal' hplace

lemma continues_book (maxSize number : Nat) (l : List Posting) (op : QueueOp) :
    Continues l (book u maxSize number l op) := by
  intro i e he
  have hpost : (op.post l)[i]? = some e := by
    unfold QueueOp.post
    cases op.posts with
    | none => exact he
    | some msg => exact List.getElem?_append_left (List.getElem?_eq_some_iff.mp he).1 ▸ he
  rcases getElem?_markFirst hpost _ with hsame | ⟨hpicks, hmoved⟩
  · exact ⟨e, hsame, rfl, fun _ => rfl⟩
  · refine ⟨_, hmoved, rfl, fun hplace => ?_⟩
    exact absurd (Posting.waits_iff.mp (Movement.waits_of_picks hpicks)).1 hplace

lemma continues_ledger (maxSize : Nat) (ops more : List QueueOp) :
    Continues (ledger u maxSize ops) (ledger u maxSize (ops ++ more)) := by
  induction more using List.reverseRecOn with
  | nil =>
    rw [List.append_nil]
    exact fun i e he => ⟨e, he, rfl, fun _ => rfl⟩
  | append_singleton more op ih =>
    rw [← List.append_assoc, ledger_snoc]
    exact ih.trans (continues_book u maxSize _ _ op)

/-! ## Delivery accounting -/

lemma dequeue_spec (w : String) (limit : Nat) (sender : Option String) :
    (q.dequeue w limit sender).1 = ((q.inbox w).filter (isFrom sender)).take limit ∧
      ((q.dequeue w limit sender).2.inbox w).Sublist (q.inbox w) ∧
      ((q.dequeue w limit sender).2.inbox w).filter (isFrom sender) =
        ((q.inbox w).filter (isFrom sender)).drop limit ∧
      ((q.dequeue w limit sender).2.inbox w).filter (fun msg => !isFrom sender msg) =
        (q.inbox w).filter fun msg => !isFrom sender msg := by
  rw [dequeue_fst, takeFirst_fst, inbox_dequeue, if_pos rfl, takeMessages_eq]
  exact ⟨rfl, takeFirst_snd_sublist _ _, filter_takeFirst_snd _ _, filter_not_takeFirst_snd _ _⟩

/-- Delivery accounting.  After every sequence of operations on a queue with a cap, the
ledger has one posting for each enqueued message, in the order of arrival.  The inboxes
are the messages whose place is the inbox, in that order and no more than the cap.  The
answer of every reading is the messages whose place is that reading; every other message
was dropped as the oldest of a full inbox or purged with the messages of its task.  A
message that left the inbox stays in its place whatever comes later.  A reading returns
the first messages of the sender, and leaves the others in their order. -/
theorem queue_accounting (u : Unicode) (q : MessageQueue) (hcap : 0 < q.maxSize)
    (hempty : ∀ w, q.inbox w = []) (ops : List QueueOp) :
    Accounts u q ops ∧
      (∀ more, Continues (ledger u q.maxSize ops) (ledger u q.maxSize (ops ++ more))) ∧
      ∀ w limit sender,
        ((applyOps u q ops).dequeue w limit sender).1 =
            (((applyOps u q ops).inbox w).filter (isFrom sender)).take limit ∧
          (((applyOps u q ops).dequeue w limit sender).2.inbox w).Sublist
            ((applyOps u q ops).inbox w) ∧
          (((applyOps u q ops).dequeue w limit sender).2.inbox w).filter (isFrom sender) =
            (((applyOps u q ops).inbox w).filter (isFrom sender)).drop limit ∧
          (((applyOps u q ops).dequeue w limit sender).2.inbox w).filter
              (fun msg => !isFrom sender msg) =
            ((applyOps u q ops).inbox w).filter fun msg => !isFrom sender msg :=
  ⟨accounts hcap hempty ops, continues_ledger u q.maxSize ops,
    fun w limit sender => dequeue_spec (applyOps u q ops) w limit sender⟩

/-- Three messages for an inbox of size two: the first is dropped, the second read, and
the third waits. -/
theorem queue_accounting_example : let msg : String → Message := fun content =>
      { id := "", sender := "api", recipient := "web", content := content, taskId := ""
        createdAt := 0 }
    let q : MessageQueue := { MessageQueue.new with maxSize := 2 }
    let ops : List QueueOp := [.enqueue 1 "m1" (msg "one"), .enqueue 2 "m2" (msg "two"),
      .enqueue 3 "m3" (msg "three"), .dequeue "web" 1 none]
    (ledger Unicode.ascii q.maxSize ops).map Posting.place = [.dropped 2, .returned 3, .inbox] ∧
      Accounts Unicode.ascii q ops :=
  ⟨by decide, (queue_accounting Unicode.ascii _ (by decide) (fun _ => rfl) _).1⟩

end Ax.Daemon
