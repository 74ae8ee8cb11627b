import Ax.Daemon.Decisions
import Ax.Daemon.Queue

/-!
# The link between a message and its task

A message belongs to the task of its tag or else to the task that its text names.
The texts that the daemon writes about a task name it in their first `Task ID:`, so
reading the link back gives the id of the task.

Main results:

- Theorem `extractTaskId_of_link`: the first link of a text is found.
- Theorems `extractTaskId_*`: every text of the daemon about a task links to it.
-/

namespace Ax.Daemon

open Regex

variable {u : Unicode}

/-! ## Ids -/

def uuidGroups : List (List (Char → Bool)) :=
  let hex := fun n => List.replicate n isHexDigit
  let dash := "-".toList.map fun c d => decide (d = c)
  [hex 8, dash, hex 4, dash, hex 4, dash, hex 4, dash, hex 12]

def uuidShape : List (Char → Bool) :=
  uuidGroups.flatten

def IsUuid (t : String) : Prop :=
  t.toList.length = 36 ∧ accepts uuidShape t.toList = true

instance (t : String) : Decidable (IsUuid t) :=
  inferInstanceAs (Decidable (_ ∧ _))

lemma matches?_uuidPattern (c : Cursor) :
    matches? u uuidPattern c = matches? u (concat (uuidShape.map char)) c := by
  have hgroups : uuidPattern = concat (uuidGroups.map fun ps => concat (ps.map char)) := by
    simp [uuidPattern, uuidGroups, times, lit]
  rw [hgroups]
  exact matches?_concat_chars uuidGroups c

lemma forall_of_accepts {ps : List (Char → Bool)} {cs : List Char}
    (hlength : cs.length = ps.length) (h : accepts ps cs = true) :
    ∀ x ∈ cs, ∃ p ∈ ps, p x = true := by
  induction ps generalizing cs with
  | nil =>
    obtain rfl := List.length_eq_zero_iff.mp hlength
    simp
  | cons p ps ih =>
    cases cs with
    | nil => simp
    | cons y ys =>
      obtain ⟨hy, hys⟩ := Bool.and_eq_true_iff.mp h
      intro x hx
      rcases List.mem_cons.mp hx with rfl | hmem
      · exact ⟨p, List.mem_cons_self, hy⟩
      · obtain ⟨q, hq, hx⟩ := ih (Nat.succ.inj hlength) hys x hmem
        exact ⟨q, List.mem_cons_of_mem p hq, hx⟩

namespace IsUuid

variable {t : String}

lemma not_isWhitespace (h : IsUuid t) : ∀ c ∈ t.toList, Text.isWhitespace c = false := by
  intro c hc
  obtain ⟨p, hp, hclass⟩ := forall_of_accepts h.1 h.2 c hc
  have hclasses : p = isHexDigit ∨ p = fun d => decide (d = '-') := by
    simp [uuidShape, uuidGroups] at hp
    tauto
  rcases hclasses with rfl | rfl
  · simp [isHexDigit, Char.isDigit, Char.le_def, UInt32.le_iff_toNat_le] at hclass
    simp [Text.isWhitespace]
    omega
  · obtain rfl := of_decide_eq_true hclass
    rfl

lemma trim_eq (h : IsUuid t) : Text.trim t = t :=
  Text.trim_of_forall h.not_isWhitespace

lemma ne_empty (h : IsUuid t) : t ≠ "" := by
  rintro rfl
  cases h.1

end IsUuid

/-! ## Links -/

/-- The character classes of `task id:` in any case. -/
def linkShape : List (Char → Bool) :=
  "task id:".toList.map foldEq

lemma matches?_taskIdPrefixPattern (c : Cursor) :
    matches? u taskIdPrefixPattern c =
      if accepts linkShape c.rest then
        matches? u (star (char Text.isWhitespace)) (c.advance 8)
      else [] := by
  have hlit : matches? u (litFold "task id:") c =
      if accepts linkShape c.rest then [c.advance 8] else [] := by
    have := matches?_chars (u := u) linkShape c
    exact this
  rw [taskIdPrefixPattern, matches?, hlit]
  split
  · exact List.flatMap_singleton _ _
  · rfl

/-- No link starts in the text `pre` when `Task ID: ` follows it. -/
def Unlinked (pre : String) : Bool :=
  pre.toList.tails.all fun s => s.isEmpty || !accepts linkShape (s ++ "Task ID: ".toList)

variable {pre id : String}

lemma not_accepts_of_unlinked (hpre : Unlinked pre = true) {s : List Char} (hs : s ≠ [])
    (hsuffix : s <:+ pre.toList) (rest : List Char) :
    ¬accepts linkShape (s ++ ("Task ID: ".toList ++ rest)) = true := by
  have hlength : linkShape.length ≤ (s ++ "Task ID: ".toList).length := by
    have height : linkShape.length ≤ "Task ID: ".toList.length := by decide
    rw [List.length_append]
    omega
  have hnone := List.all_eq_true.mp hpre s ((List.mem_tails s _).mpr hsuffix)
  rw [← List.append_assoc, accepts_append hlength]
  simpa [hs] using hnone

/-- The first link of a text is found. -/
theorem extractTaskId_of_link {t : String} (hpre : Unlinked pre = true) (ht : IsUuid t)
    (rest : String) : extractTaskId u (pre ++ ("Task ID: " ++ (t ++ rest))) = t := by
  have htext : pre ++ ("Task ID: " ++ (t ++ rest)) =
      String.ofList (pre.toList ++ ("Task ID: ".toList ++ (t.toList ++ rest.toList))) := by
    simp only [← String.toList_append, String.ofList_toList]
  have hafter : ("Task ID: ".toList ++ (t.toList ++ rest.toList)).drop 9 =
      t.toList ++ rest.toList := rfl
  -- The white space after the colon ends with the first character of the id.
  have hblank : (Text.isWhitespace ' ') = true ∧
      (t.toList ++ rest.toList).takeWhile Text.isWhitespace = [] := by
    refine ⟨rfl, ?_⟩
    cases hchars : t.toList with
    | nil =>
      rw [IsUuid, hchars] at ht
      cases ht.1
    | cons x xs =>
      have hx := ht.not_isWhitespace x (by simp [hchars])
      simp [hx]
  rw [extractTaskId, htext, capture_eq_some (m := 9) (n := 36)]
  · rw [Option.getD_some, hafter, List.take_left' ht.1, String.ofList_toList]
  · intro s prev hs hsuffix
    rw [matches?_taskIdPrefixPattern, if_neg (not_accepts_of_unlinked hpre hs hsuffix _)]
  · intro prev
    have hlink : accepts linkShape ("Task ID: ".toList ++ (t.toList ++ rest.toList)) = true := by
      rw [accepts_append (by decide)]
      decide
    rw [matches?_taskIdPrefixPattern, if_pos hlink, head?_matches?_star, Cursor.advance_advance,
      Cursor.advance_rest]
    have hdrop : ("Task ID: ".toList ++ (t.toList ++ rest.toList)).drop 8 =
      ' ' :: (t.toList ++ rest.toList) := rfl
    rw [hdrop, List.takeWhile_cons, if_pos hblank.1, hblank.2]
    rfl
  · intro prev
    have hlength : uuidShape.length = 36 := rfl
    rw [matches?_uuidPattern, matches?_chars, Cursor.advance_rest, hafter,
      accepts_append (hlength.trans ht.1.symm).le, if_pos ht.2, Cursor.advance_advance]
    rfl
  · have hnine : "Task ID: ".toList.length = 9 := rfl
    have hlength := ht.1
    simp only [List.length_append, hnine]
    omega

/-! ## The texts of the daemon -/

lemma append_link {a : String} (h : a = pre ++ "Task ID: ") (x : String) :
    a ++ x = pre ++ ("Task ID: " ++ x) := by
  rw [h, String.append_assoc]

lemma extractTaskId_of_start (hid : IsUuid id) (rest : String) :
    extractTaskId u ("Task ID: " ++ (id ++ rest)) = id := by
  rw [← String.empty_append (s := "Task ID: " ++ (id ++ rest))]
  exact extractTaskId_of_link rfl hid rest

/-- A dispatch body links to its task. -/
theorem extractTaskId_dispatch (hid : IsUuid id) (message : String) :
    extractTaskId u (formatTaskDispatchMessage id message) = id := by
  unfold formatTaskDispatchMessage
  rw [String.append_assoc, String.append_assoc]
  exact extractTaskId_of_start hid _

/-- A reminder links to its task. -/
theorem extractTaskId_reminder {task : Task} (hid : IsUuid task.id) (note : String) :
    extractTaskId u (buildTaskReminderMessage task note) = task.id := by
  unfold buildTaskReminderMessage
  dsimp only
  split
  all_goals split
  all_goals
    simp only [toString, String.append_assoc]
    exact extractTaskId_of_start hid _

/-- The notice about the end of a task links to it. -/
theorem extractTaskId_terminalNotice {task : Task} (hid : IsUuid task.id) :
    extractTaskId u (terminalNotice task) = task.id := by
  have hlink : toString "] Task ID: " = "] " ++ "Task ID: " := rfl
  unfold terminalNotice
  simp only [String.append_assoc]
  rw [append_link hlink, ← String.append_assoc, ← String.append_assoc]
  refine extractTaskId_of_link ?_ hid _
  cases task.status <;> decide

/-- The notice about a refused completion links to the task. -/
theorem extractTaskId_refusal (hid : IsUuid id) (e : TaskStoreError) :
    extractTaskId u (completionRefusalNotice u id e) = id := by
  have hlink : toString "[task-completion-rejected] Task ID: " =
      "[task-completion-rejected] " ++ "Task ID: " := rfl
  unfold completionRefusalNotice
  rw [String.append_assoc, String.append_assoc, append_link hlink]
  exact extractTaskId_of_link (by decide) hid _

/-! ## The task of a message -/

lemma messageTaskId_of_tag {msg : Message} (h : IsUuid msg.taskId) :
    messageTaskId u msg = msg.taskId := by
  unfold messageTaskId
  rw [h.trim_eq, if_neg h.ne_empty]

lemma messageTaskId_of_untagged {msg : Message} (h : msg.taskId = "") :
    messageTaskId u msg = extractTaskId u msg.content := by
  unfold messageTaskId
  rw [h]
  rfl

end Ax.Daemon
