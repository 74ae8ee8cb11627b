import Ax.Foundation.Execution
import Ax.Foundation.Forest
import Ax.Daemon.Memory

/-!
# Which memory supersedes which

A memory lists what it supersedes, and a superseded memory names the one that superseded it.
The two sides are written by different loops, and a third loop takes the marks back when the
file cannot be written.  Here memories are added to a new store in any order, with any
arguments and failing writes, and the daemon may be restarted in between.

Main results:

- Theorem `memories_linked`: both sides agree in every run, no memory is superseded twice, and
  nothing supersedes itself through others.
-/

namespace Ax.Daemon
namespace MemoryStore

variable {inner : MemoryMap} {s t : MemoryStore} {r : MemoryReading} {args : RememberArgs}

/-! ## The three loops -/

/-- What the first loop has seen when it succeeds. -/
theorem checkTargets_ok {ids : List String} {start snapshots : BTreeMap String SupersedeSnapshot}
    (h : checkTargets inner start ids = .ok snapshots) :
    (∀ id ∈ ids, ∃ target, inner.get id = some target ∧ target.supersededAt = none) ∧
      ∀ k : String, snapshots[k]? =
        if k ∈ ids then (inner.get k).map snapshot else start[k]? := by
  induction ids generalizing start with
  | nil =>
    cases h
    simp
  | cons id ids ih =>
    unfold checkTargets at h
    split at h
    · cases h
    · rename_i target hget
      split at h
      · cases h
      · rename_i hactive
        obtain ⟨hrest, hsnapshots⟩ := ih h
        constructor
        · intro other hother
          rcases List.mem_cons.mp hother with rfl | hother
          · exact ⟨target, hget, by simpa using hactive⟩
          · exact hrest other hother
        · intro k
          rw [hsnapshots, BTreeMap.get?_insert]
          by_cases hk : k = id
          · subst hk
            simp [hget]
          · simp [hk]

lemma mark_mark (now : Timestamp) (by_ : String) (target : Memory) :
    mark now by_ (mark now by_ target) = mark now by_ target :=
  rfl

lemma get_markAll (now : Timestamp) (by_ : String) (ids : List String) (inner : MemoryMap)
    (k : String) :
    (markAll now by_ ids inner).get k =
      if k ∈ ids then (inner.get k).map (mark now by_) else inner.get k := by
  induction ids generalizing inner with
  | nil => simp [markAll]
  | cons id ids ih =>
    have hstep := ih (inner.modify id (mark now by_))
    rw [markAll, List.foldl_cons]
    rw [markAll] at hstep
    rw [hstep, KeyedMap.get_modify inner (f := mark now by_) (fun _ => rfl)]
    by_cases hk : k = id
    · subst hk
      cases inner.get k <;> simp [mark_mark]
    · simp [hk]

/-- Lookup after the third loop. -/
theorem get_rollBack (snapshots : BTreeMap String SupersedeSnapshot) (inner : MemoryMap)
    (k : String) :
    (rollBack snapshots inner).get k =
      match snapshots[k]? with
      | none => inner.get k
      | some snap => (inner.get k).map (restore snap) := by
  have hloop : ∀ (entries : List (String × SupersedeSnapshot)) (inner : MemoryMap),
      (entries.map Prod.fst).Nodup →
      (entries.foldl (fun inner entry => inner.modify entry.1 (restore entry.2)) inner).get k =
        match (entries.find? fun entry => entry.1 = k).map Prod.snd with
        | none => inner.get k
        | some snap => (inner.get k).map (restore snap) := by
    intro entries
    induction entries with
    | nil =>
      intro inner _
      rfl
    | cons entry rest ih =>
      intro inner hnodup
      rw [List.map_cons, List.nodup_cons] at hnodup
      rw [List.foldl_cons, ih _ hnodup.2,
        KeyedMap.get_modify inner (f := restore entry.2) (fun _ => rfl)]
      by_cases hk : entry.1 = k
      · subst hk
        rw [BTreeMap.find?_key_eq_none hnodup.1, List.find?_cons_of_pos (by simp)]
        simp
      · rw [List.find?_cons_of_neg (by simpa using hk), if_neg (Ne.symm hk)]
  rw [rollBack, hloop _ _ (BTreeMap.nodup_map_fst_toList snapshots), BTreeMap.find?_toList]

lemma rollBack_markAll {ids : List String} {snapshots : BTreeMap String SupersedeSnapshot}
    (h : checkTargets inner ∅ ids = .ok snapshots) (now : Timestamp) (by_ : String) :
    rollBack snapshots (markAll now by_ ids inner) = inner := by
  obtain ⟨_, hsnapshots⟩ := checkTargets_ok h
  refine KeyedMap.ext_get fun k => ?_
  rw [get_rollBack, hsnapshots, get_markAll]
  by_cases hk : k ∈ ids
  · cases hget : inner.get k with
    | none => simp [hk]
    | some target => simp [hk, snapshot, restore, mark]
  · simp [hk]

/-! ## One call -/

structure Fresh (r : MemoryReading) (s : MemoryStore) : Prop where
  nonempty : r.id ≠ ""
  unused : s.inner.get r.id = none

@[simp]
lemma id_newEntry (r : MemoryReading) (args : RememberArgs) : (newEntry r args).id = r.id :=
  rfl

lemma persistLocked_error {write : WriteOutcome} {e : MemoryError}
    {file : FileContent (List Memory)} (h : s.persistLocked write inner = (.error e, file)) :
    file = s.file := by
  unfold persistLocked at h
  split at h
  · cases h
  · cases write with
    | done => cases h
    | encodeFailed source =>
      cases h
      rfl
    | writeFailed reason =>
      cases h
      rfl

/-- What a call has done when it succeeds. -/
structure Remembered (r : MemoryReading) (args : RememberArgs) (s t : MemoryStore) : Prop where
  targets : ∀ id ∈ (newEntry r args).supersedes,
    ∃ target, s.inner.get id = some target ∧ target.supersededAt = none
  inner : t.inner = (markAll r.now r.id (newEntry r args).supersedes s.inner).put (newEntry r args)
  filePath : t.filePath = s.filePath
  file : s.persistLocked r.write t.inner = (.ok (), t.file)

lemma remember_cases (args : RememberArgs) (hfresh : Fresh r s) :
    ((s.remember r args).1 = .ok (newEntry r args) ∧ Remembered r args s (s.remember r args).2) ∨
      ((∃ e, (s.remember r args).1 = .error e) ∧ (s.remember r args).2 = s) := by
  unfold remember
  simp only [id_newEntry]
  split
  · exact .inr ⟨⟨_, rfl⟩, rfl⟩
  split
  · exact .inr ⟨⟨_, rfl⟩, rfl⟩
  split
  · exact .inr ⟨⟨_, rfl⟩, rfl⟩
  split
  · exact .inr ⟨⟨_, rfl⟩, rfl⟩
  · rename_i snapshots hcheck
    have hunused :
        (markAll r.now r.id (newEntry r args).supersedes s.inner).get r.id = none := by
      rw [get_markAll, hfresh.unused]
      simp
    split
    · rename_i e file hpersist
      refine .inr ⟨⟨e, rfl⟩, ?_⟩
      have hremove := KeyedMap.remove_put (v := newEntry r args) hunused
      rw [id_newEntry] at hremove
      rw [hremove, rollBack_markAll hcheck r.now r.id, persistLocked_error hpersist]
    · rename_i file hpersist
      exact .inl ⟨rfl, (checkTargets_ok hcheck).1, rfl, rfl, hpersist⟩

/-! ## Links -/

/-- The memory `new` lists `old`. -/
def Supersedes (inner : MemoryMap) (old new : String) : Prop :=
  ∃ entry, inner.get new = some entry ∧ old ∈ entry.supersedes

structure Linked (inner : MemoryMap) : Prop where
  named : ∀ {id m}, inner.get id = some m →
    ∀ n, (m.supersededBy = n ∧ n ≠ "") ↔ Supersedes inner id n
  dated : ∀ {id m}, inner.get id = some m → (m.supersededAt.isSome ↔ m.supersededBy ≠ "")
  listed : ∀ {old new}, Supersedes inner old new → ∃ m, inner.get old = some m
  once : ∀ {new e}, inner.get new = some e → e.supersedes.Nodup
  grounded : WellFounded (Supersedes inner)

lemma linked_empty : Linked .empty where
  named := by
    intro id m h
    simp at h
  dated := by
    intro id m h
    simp at h
  listed := by
    rintro old new ⟨e, h, _⟩
    simp at h
  once := by
    intro new e h
    simp at h
  grounded := by
    refine ⟨fun a => Acc.intro a ?_⟩
    rintro b ⟨e, h, _⟩
    simp at h

lemma nodup_normalizeAll (normalize : String → String) (texts : List String) :
    (normalizeAll normalize texts).Nodup := by
  have hloop : ∀ out : List String, out.Nodup → (texts.foldl (pushNew normalize) out).Nodup := by
    induction texts with
    | nil => exact fun out hout => hout
    | cons text rest ih =>
      intro out hout
      refine ih _ ?_
      unfold pushNew
      dsimp only
      split
      · rename_i hnew
        exact List.nodup_append.mpr ⟨hout, List.nodup_singleton _, by
          rintro a ha b hb rfl
          exact hnew.2 (List.mem_singleton.mp hb ▸ ha)⟩
      · exact hout
  exact (List.perm_insertionSort _ _).nodup_iff.mpr (hloop [] List.nodup_nil)

section Step

variable (h : Remembered r args s t)
include h

lemma Remembered.get_iff {id : String} {m : Memory} :
    t.inner.get id = some m ↔
      id = r.id ∧ m = newEntry r args ∨
      id ≠ r.id ∧ ∃ m₀, s.inner.get id = some m₀ ∧
        m = if id ∈ (newEntry r args).supersedes then mark r.now r.id m₀ else m₀ := by
  rw [h.inner, KeyedMap.get_put, get_markAll]
  by_cases hid : id = r.id
  · subst hid
    simp [eq_comm]
  · have hkey : id ≠ (newEntry r args).id := hid
    rw [if_neg hkey]
    by_cases hmem : id ∈ (newEntry r args).supersedes
    · simp [hid, hmem, eq_comm]
    · simp [hid, hmem]

lemma Remembered.supersedes_iff {old new : String} :
    Supersedes t.inner old new ↔
      new = r.id ∧ old ∈ (newEntry r args).supersedes ∨
      new ≠ r.id ∧ Supersedes s.inner old new := by
  unfold Supersedes
  constructor
  · rintro ⟨e, he, hold⟩
    rcases h.get_iff.mp he with ⟨rfl, rfl⟩ | ⟨hne, e₀, he₀, rfl⟩
    · exact .inl ⟨rfl, hold⟩
    · refine .inr ⟨hne, e₀, he₀, ?_⟩
      split at hold
      · exact hold
      · exact hold
  · rintro (⟨rfl, hold⟩ | ⟨hne, e₀, he₀, hold⟩)
    · exact ⟨_, h.get_iff.mpr (.inl ⟨rfl, rfl⟩), hold⟩
    · refine ⟨_, h.get_iff.mpr (.inr ⟨hne, e₀, he₀, rfl⟩), ?_⟩
      split
      · exact hold
      · exact hold

lemma Remembered.not_supersedes (hs : Linked s.inner) {old new : String}
    (hold : old ∈ (newEntry r args).supersedes) : ¬Supersedes s.inner old new := by
  intro hnew
  obtain ⟨target, hget, hactive⟩ := h.targets old hold
  have hnamed := (hs.named hget new).mpr hnew
  have hdated := (hs.dated hget).mpr (hnamed.1 ▸ hnamed.2)
  rw [hactive] at hdated
  cases hdated

lemma Linked.remembered (hfresh : Fresh r s) (hs : Linked s.inner) : Linked t.inner where
  named := by
    intro id m hm n
    rw [h.supersedes_iff]
    rcases h.get_iff.mp hm with ⟨rfl, rfl⟩ | ⟨hne, m₀, hm₀, rfl⟩
    · -- nothing lists the new memory, as only memories that exist are listed
      have hnone : ∀ new, ¬Supersedes s.inner r.id new := by
        intro new hnew
        obtain ⟨m, hm⟩ := hs.listed hnew
        rw [hfresh.unused] at hm
        cases hm
      have hself : r.id ∉ (newEntry r args).supersedes := by
        intro hmem
        obtain ⟨target, hget, _⟩ := h.targets _ hmem
        rw [hfresh.unused] at hget
        cases hget
      constructor
      · rintro ⟨hby, hn⟩
        exact absurd hby.symm hn
      · rintro (⟨_, hmem⟩ | ⟨_, hnew⟩)
        · exact absurd hmem hself
        · exact absurd hnew (hnone n)
    · by_cases hmem : id ∈ (newEntry r args).supersedes
      · rw [if_pos hmem]
        constructor
        · rintro ⟨rfl, _⟩
          exact .inl ⟨rfl, hmem⟩
        · rintro (⟨rfl, _⟩ | ⟨_, hnew⟩)
          · exact ⟨rfl, hfresh.nonempty⟩
          · exact absurd hnew (h.not_supersedes hs hmem)
      · rw [if_neg hmem, hs.named hm₀]
        constructor
        · intro hnew
          refine .inr ⟨?_, hnew⟩
          rintro rfl
          obtain ⟨e, he, _⟩ := hnew
          rw [hfresh.unused] at he
          cases he
        · rintro (⟨_, hmem'⟩ | ⟨_, hnew⟩)
          · exact absurd hmem' hmem
          · exact hnew
  dated := by
    intro id m hm
    rcases h.get_iff.mp hm with ⟨rfl, rfl⟩ | ⟨_, m₀, hm₀, rfl⟩
    · simp [newEntry]
    · split
      · simp [mark, hfresh.nonempty]
      · exact hs.dated hm₀
  listed := by
    intro old new hold
    have hstored : ∃ m₀, s.inner.get old = some m₀ := by
      rcases h.supersedes_iff.mp hold with ⟨_, hmem⟩ | ⟨_, hbefore⟩
      · obtain ⟨target, hget, _⟩ := h.targets old hmem
        exact ⟨target, hget⟩
      · exact hs.listed hbefore
    obtain ⟨m₀, hm₀⟩ := hstored
    refine ⟨_, h.get_iff.mpr (.inr ⟨?_, m₀, hm₀, rfl⟩)⟩
    rintro rfl
    rw [hfresh.unused] at hm₀
    cases hm₀
  once := by
    intro new e he
    rcases h.get_iff.mp he with ⟨_, rfl⟩ | ⟨_, e₀, he₀, rfl⟩
    · exact nodup_normalizeAll _ _
    · have hlist := hs.once he₀
      split
      · exact hlist
      · exact hlist
  grounded := by
    refine wellFounded_of_leaf (x := r.id) hs.grounded ?_ ?_
    · intro old new hne hnew
      rcases h.supersedes_iff.mp hnew with ⟨heq, _⟩ | ⟨_, hbefore⟩
      · exact absurd heq hne
      · exact hbefore
    · intro new hnew
      rcases h.supersedes_iff.mp hnew with ⟨_, hmem⟩ | ⟨_, hbefore⟩
      · obtain ⟨target, hget, _⟩ := h.targets _ hmem
        rw [hfresh.unused] at hget
        cases hget
      · obtain ⟨m, hm⟩ := hs.listed hbefore
        rw [hfresh.unused] at hm
        cases hm

end Step

/-! ## Runs -/

inductive MemoryEvent
  | remember (r : MemoryReading) (args : RememberArgs)
  | restart

def step (s : MemoryStore) : MemoryEvent → Option MemoryStore
  | .remember r args =>
    if r.id ≠ "" ∧ s.inner.get r.id = none then some (s.remember r args).2 else none
  | .restart =>
    match s.filePath with
    | none => some inMemory
    | some path => (load path s.file).toOption

def Step (s : MemoryStore) (a : MemoryEvent) (t : MemoryStore) : Prop :=
  s.step a = some t

def Durable (s : MemoryStore) : Prop :=
  s.filePath.isSome → s.file = .holds (fileOrder s.inner) ∨ s.file = .absent ∧ s.inner = .empty

lemma foldl_put_of_perm {entries : List Memory} (hperm : entries.Perm inner.values) :
    entries.foldl .put (.empty : MemoryMap) = inner := by
  have hloop : ∀ (entries : List Memory) (m : MemoryMap) (k : String),
      (entries.map Memory.id).Nodup →
      (entries.foldl .put m).get k = (entries.find? fun e => e.id = k).or (m.get k) := by
    intro entries
    induction entries with
    | nil =>
      intro m k _
      rfl
    | cons entry rest ih =>
      intro m k hnodup
      rw [List.map_cons, List.nodup_cons] at hnodup
      rw [List.foldl_cons, ih _ _ hnodup.2, KeyedMap.get_put]
      by_cases hk : entry.id = k
      · subst hk
        rw [BTreeMap.find?_key_eq_none hnodup.1, List.find?_cons_of_pos (by simp)]
        simp
      · rw [List.find?_cons_of_neg (by simpa using hk), if_neg (Ne.symm hk)]
  have hnodup : (entries.map Memory.id).Nodup :=
    (hperm.map Memory.id).nodup_iff.mpr (KeyedMap.nodup_map_values inner)
  refine KeyedMap.ext_get fun k => ?_
  rw [hloop entries .empty k hnodup, KeyedMap.get_empty, Option.or_none]
  cases hfind : entries.find? fun e => e.id = k with
  | none =>
    rw [eq_comm, Option.eq_none_iff_forall_ne_some]
    intro m hm
    have hmem : m ∈ entries := hperm.mem_iff.mpr (KeyedMap.mem_values_iff.mpr
      (by rw [KeyedMap.key_of_get hm]; exact hm))
    exact List.find?_eq_none.mp hfind m hmem (by simpa using KeyedMap.key_of_get hm)
  | some m =>
    have hid : m.id = k := by simpa using List.find?_some hfind
    have hmem := hperm.mem_iff.mp (List.mem_of_find?_eq_some hfind)
    rw [KeyedMap.mem_values_iff, hid] at hmem
    exact hmem.symm

lemma load_durable {path : String} (hs : Durable s) (hpath : s.filePath = some path) :
    load path s.file = .ok s := by
  obtain ⟨filePath, inner, file⟩ := s
  cases hpath
  rcases hs rfl with hfile | ⟨hfile, hinner⟩
  · dsimp only at hfile ⊢
    rw [hfile, load, fileOrder, foldl_put_of_perm (List.perm_insertionSort _ _)]
  · dsimp only at hfile hinner ⊢
    rw [hfile, hinner, load]

lemma Durable.remembered (h : Remembered r args s t) : Durable t := by
  intro hpath
  have hfile := h.file
  rw [h.filePath] at hpath
  obtain ⟨path, hsome⟩ := Option.isSome_iff_exists.mp hpath
  unfold persistLocked at hfile
  rw [hsome] at hfile
  cases hwrite : r.write with
  | done =>
    rw [hwrite] at hfile
    exact .inl (Prod.mk.inj hfile).2.symm
  | encodeFailed source =>
    rw [hwrite] at hfile
    cases hfile
  | writeFailed reason =>
    rw [hwrite] at hfile
    cases hfile

lemma linked_step {a : MemoryEvent} (hstep : Step s a t) (hs : Linked s.inner ∧ Durable s) :
    Linked t.inner ∧ Durable t := by
  cases a with
  | remember r args =>
    simp only [Step, step, Option.ite_none_right_eq_some] at hstep
    obtain ⟨⟨hnonempty, hunused⟩, heq⟩ := hstep
    obtain rfl := Option.some.inj heq
    have hfresh : Fresh r s := ⟨hnonempty, hunused⟩
    rcases remember_cases args hfresh with ⟨_, h⟩ | ⟨_, hsame⟩
    · exact ⟨hs.1.remembered h hfresh, Durable.remembered h⟩
    · rw [hsame]
      exact hs
  | restart =>
    cases hpath : s.filePath with
    | none =>
      simp only [Step, step, hpath] at hstep
      cases hstep
      exact ⟨linked_empty, by simp [Durable, inMemory]⟩
    | some path =>
      simp only [Step, step, hpath, load_durable hs.2 hpath] at hstep
      cases hstep
      exact hs

structure New (s : MemoryStore) : Prop where
  inner : s.inner = .empty
  file : s.file = .absent

/-- Supersession in every run from a new store: `supersededBy` names exactly the memory that
lists the other one, dates stand with names, a memory is listed at most once, in one list, and
there are no cycles.  A call that fails leaves the store as it was. -/
theorem memories_linked {events : List MemoryEvent} (hnew : New s) (hrun : Exec Step s events t) :
    (∀ id m, t.inner.get id = some m → ∀ n,
      (m.supersededBy = n ∧ n ≠ "") ↔ ∃ e, t.inner.get n = some e ∧ id ∈ e.supersedes) ∧
    (∀ id m, t.inner.get id = some m → (m.supersededAt.isSome ↔ m.supersededBy ≠ "")) ∧
    (∀ old new new', Supersedes t.inner old new → Supersedes t.inner old new' → new = new') ∧
    (∀ new e, t.inner.get new = some e → e.supersedes.Nodup) ∧
    (∀ id, ¬Relation.TransGen (Supersedes t.inner) id id) ∧
    ∀ r args e, Fresh r t → (t.remember r args).1 = .error e → (t.remember r args).2 = t := by
  have hstart : Linked s.inner ∧ Durable s := by
    rw [hnew.inner]
    exact ⟨linked_empty, fun _ => .inr ⟨hnew.file, hnew.inner⟩⟩
  obtain ⟨hlinked, _⟩ :=
    hrun.invariant (P := fun s => Linked s.inner ∧ Durable s) linked_step hstart
  refine ⟨fun id m hm => hlinked.named hm, fun id m hm => hlinked.dated hm, ?_,
    fun new e he => hlinked.once he, ?_, ?_⟩
  · intro old new new' h h'
    obtain ⟨m, hm⟩ := hlinked.listed h
    exact ((hlinked.named hm new).mpr h).1.symm.trans ((hlinked.named hm new').mpr h').1
  · intro id hcycle
    exact hlinked.grounded.transGen.asymmetric id id hcycle hcycle
  · intro r args e hfresh herror
    rcases remember_cases args hfresh with ⟨hok, _⟩ | ⟨_, hsame⟩
    · rw [herror] at hok
      cases hok
    · exact hsame

def replacements : List MemoryEvent :=
  [.remember ⟨1, "a", .done⟩ ⟨"global", "", "", "tabs", [], "alice", []⟩,
   .remember ⟨2, "b", .done⟩ ⟨"global", "", "", "spaces", [], "alice", ["a", " a"]⟩,
   .remember ⟨3, "c", .writeFailed "disk full"⟩ ⟨"global", "", "", "tabs", [], "alice", ["b"]⟩,
   .restart,
   .remember ⟨4, "d", .done⟩ ⟨"global", "", "", "tabs", [], "alice", ["b"]⟩]

def newStore : MemoryStore where
  filePath := some "/s/memories.json"
  inner := .empty
  file := .absent

lemma replacements_isSome : (runSteps step newStore replacements).isSome := by
  decide +kernel

/-- The failed call has left no trace, and the two others are linked. -/
theorem memories_linked_replacements :
    ∃ t, Exec Step newStore replacements t ∧
      t.inner.values.map (fun m => (m.id, m.supersedes, m.supersededBy, m.supersededAt)) =
        [("a", [], "b", some 2), ("b", ["a"], "d", some 4), ("d", ["b"], "", none)] ∧
      ∀ id, ¬Relation.TransGen (Supersedes t.inner) id id := by
  have hexec : Exec Step newStore replacements
      ((runSteps step newStore replacements).get replacements_isSome) :=
    exec_of_runSteps (fun _ _ _ h => h) (Option.some_get replacements_isSome).symm
  exact ⟨_, hexec, by decide +kernel, (memories_linked ⟨rfl, rfl⟩ hexec).2.2.2.2.1⟩

end MemoryStore
end Ax.Daemon
