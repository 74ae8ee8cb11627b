import Mathlib.Data.List.Sort
import Ax.Foundation.AtomicFile
import Ax.Foundation.KeyedMap
import Ax.Foundation.Text
import Ax.Proto.Types

/-!
# Durable memories

The store of memories.  A memory may supersede others: they are marked with its id and the time.
All memories are written to a file after each change; if that fails, the marks and the new memory
are taken back.

A query selects memories by scopes, kind and tags.  Scopes and tags are normalised first, and
those that denote nothing are dropped.  A list without elements does not filter, whether it
was empty from the start or all of its elements were dropped.

Main results:

- Theorem `recall_isolated_iff`: a query keeps to its scopes and tags exactly if each list is
  empty or has an element that denotes something.
-/

namespace Ax.Daemon

/-! ## Normalisation -/

/-- `DEFAULT_KIND`. -/
def defaultKind : String :=
  "fact"

/-- `DEFAULT_LIMIT`. -/
def defaultLimit : Int :=
  10

/-- `normalize_kind`. -/
def normalizeKind (kind : String) : String :=
  let trimmed := Text.toAsciiLowercase (Text.trim kind)
  if trimmed = "" then defaultKind else trimmed

def valueAfter (tag text : String) : Option String :=
  if tag.toList.isPrefixOf (Text.toAsciiLowercase text).toList then
    some (Text.trim (String.ofList (text.toList.drop tag.length)))
  else none

/-- `normalize_scope`. -/
def normalizeScope (scope : String) : String :=
  let trimmed := Text.trim scope
  if trimmed = "" then ""
  else if Text.toAsciiLowercase trimmed = "global" then "global"
  else match valueAfter "project:" trimmed with
    | some value => "project:" ++ if value = "" then "root" else value
    | none => match valueAfter "workspace:" trimmed with
      | some value => if value = "" then "" else "workspace:" ++ value
      | none => match valueAfter "task:" trimmed with
        | some value => if value = "" then "" else "task:" ++ value
        | none => trimmed

def normalizeTag (tag : String) : String :=
  Text.toAsciiLowercase (Text.trim tag)

def pushNew (normalize : String → String) (out : List String) (text : String) : List String :=
  let normalised := normalize text
  if normalised ≠ "" ∧ normalised ∉ out then out ++ [normalised] else out

def normalizeAll (normalize : String → String) (texts : List String) : List String :=
  (texts.foldl (pushNew normalize) []).insertionSort (· ≤ ·)

/-- `normalize_scopes`. -/
def normalizeScopes : List String → List String :=
  normalizeAll normalizeScope

/-- `normalize_tags`. -/
def normalizeTags : List String → List String :=
  normalizeAll normalizeTag

/-- `normalize_ids`. -/
def normalizeIds : List String → List String :=
  normalizeAll Text.trim

section Normalize

variable {normalize : String → String} {out texts : List String} {a : String}

lemma mem_pushNew {text : String} :
    a ∈ pushNew normalize out text ↔ a ∈ out ∨ a ≠ "" ∧ normalize text = a := by
  unfold pushNew
  dsimp only
  split
  · rename_i hnew
    rw [List.mem_append, List.mem_singleton]
    constructor
    · rintro (hout | rfl)
      · exact .inl hout
      · exact .inr ⟨hnew.1, rfl⟩
    · rintro (hout | ⟨_, rfl⟩)
      · exact .inl hout
      · exact .inr rfl
  · rename_i hold
    constructor
    · exact .inl
    · rintro (hout | ⟨hne, rfl⟩)
      · exact hout
      · by_contra hout
        exact hold ⟨hne, hout⟩

lemma mem_foldl_pushNew :
    a ∈ texts.foldl (pushNew normalize) out ↔
      a ∈ out ∨ a ≠ "" ∧ ∃ text ∈ texts, normalize text = a := by
  induction texts generalizing out with
  | nil => simp
  | cons text rest ih =>
    rw [List.foldl_cons, ih, mem_pushNew, List.exists_mem_cons_iff]
    tauto

lemma mem_normalizeAll_iff :
    a ∈ normalizeAll normalize texts ↔ a ≠ "" ∧ ∃ text ∈ texts, normalize text = a := by
  rw [normalizeAll, List.mem_insertionSort, mem_foldl_pushNew]
  simp

lemma normalizeAll_eq_nil_iff :
    normalizeAll normalize texts = [] ↔ ∀ text ∈ texts, normalize text = "" := by
  rw [List.eq_nil_iff_forall_not_mem]
  constructor
  · intro h text htext
    by_contra hne
    exact h _ (mem_normalizeAll_iff.mpr ⟨hne, text, htext, rfl⟩)
  · intro h a ha
    obtain ⟨hne, text, htext, rfl⟩ := mem_normalizeAll_iff.mp ha
    exact hne (h text htext)

end Normalize

/-! ## The store -/

inductive MemoryError
  | scopeRequired
  | contentRequired
  | createdByRequired
  | notFound (id : String)
  | alreadySuperseded (id : String)
  | read (path source : String)
  | decode (path source : String)
  | encode (source : String)
  | persist (reason : String)
deriving DecidableEq, Repr

abbrev MemoryMap := KeyedMap String Memory Memory.id

structure MemoryStore where
  filePath : Option String
  inner : MemoryMap
  file : FileContent (List Memory)

structure MemoryReading where
  now : Timestamp
  id : String
  write : WriteOutcome

/-- The arguments of `remember`. -/
structure RememberArgs where
  scope : String
  kind : String
  subject : String
  content : String
  tags : List String
  createdBy : String
  supersedes : List String

structure SupersedeSnapshot where
  supersededAt : Option Timestamp
  supersededBy : String
  updatedAt : Timestamp

namespace MemoryStore

/-- `Store::in_memory`. -/
def inMemory : MemoryStore where
  filePath := none
  inner := .empty
  file := .absent

/-- `Store::load`; a missing file stands for no memories. -/
def load (path : String) (file : FileContent (List Memory)) : Except MemoryError MemoryStore :=
  match file with
  | .absent => .ok ⟨some path, .empty, file⟩
  | .unreadable source => .error (.read path source)
  | .undecodable source => .error (.decode path source)
  | .holds entries => .ok ⟨some path, entries.foldl .put .empty, file⟩

def fileOrder (inner : MemoryMap) : List Memory :=
  inner.values.insertionSort fun a b =>
    a.createdAt < b.createdAt ∨ a.createdAt = b.createdAt ∧ a.id ≤ b.id

/-- `persist_locked`: the answer, and the file afterwards. -/
def persistLocked (s : MemoryStore) (write : WriteOutcome) (inner : MemoryMap) :
    Except MemoryError Unit × FileContent (List Memory) :=
  match s.filePath with
  | none => (.ok (), s.file)
  | some _ =>
    let file := s.file.replace write (fileOrder inner)
    match write with
    | .done => (.ok (), file)
    | .encodeFailed source => (.error (.encode source), file)
    | .writeFailed reason => (.error (.persist reason), file)

def snapshot (target : Memory) : SupersedeSnapshot where
  supersededAt := target.supersededAt
  supersededBy := target.supersededBy
  updatedAt := target.updatedAt

def checkTargets (inner : MemoryMap) :
    BTreeMap String SupersedeSnapshot → List String →
      Except MemoryError (BTreeMap String SupersedeSnapshot)
  | snapshots, [] => .ok snapshots
  | snapshots, id :: ids =>
    match inner.get id with
    | none => .error (.notFound id)
    | some target =>
      if target.supersededAt.isSome then .error (.alreadySuperseded id)
      else checkTargets inner (snapshots.insert id (snapshot target)) ids

def mark (now : Timestamp) (by_ : String) (target : Memory) : Memory :=
  { target with supersededAt := some now, supersededBy := by_, updatedAt := now }

def restore (snap : SupersedeSnapshot) (target : Memory) : Memory :=
  { target with
    supersededAt := snap.supersededAt
    supersededBy := snap.supersededBy
    updatedAt := snap.updatedAt }

/-- The second loop. -/
def markAll (now : Timestamp) (by_ : String) (ids : List String) (inner : MemoryMap) :
    MemoryMap :=
  ids.foldl (fun inner id => inner.modify id (mark now by_)) inner

def rollBack (snapshots : BTreeMap String SupersedeSnapshot) (inner : MemoryMap) : MemoryMap :=
  snapshots.toList.foldl (fun inner entry => inner.modify entry.1 (restore entry.2)) inner

def newEntry (r : MemoryReading) (args : RememberArgs) : Memory where
  id := r.id
  scope := normalizeScope args.scope
  kind := normalizeKind args.kind
  subject := Text.trim args.subject
  content := Text.trim args.content
  tags := normalizeTags args.tags
  createdBy := Text.trim args.createdBy
  supersedes := normalizeIds args.supersedes
  supersededBy := ""
  supersededAt := none
  createdAt := r.now
  updatedAt := r.now

/-- `Store::remember`. -/
def remember (s : MemoryStore) (r : MemoryReading) (args : RememberArgs) :
    Except MemoryError Memory × MemoryStore :=
  let entry := newEntry r args
  if entry.scope = "" then (.error .scopeRequired, s)
  else if entry.content = "" then (.error .contentRequired, s)
  else if entry.createdBy = "" then (.error .createdByRequired, s)
  else match checkTargets s.inner ∅ entry.supersedes with
    | .error e => (.error e, s)
    | .ok snapshots =>
      let inner := (markAll r.now entry.id entry.supersedes s.inner).put entry
      match s.persistLocked r.write inner with
      | (.error e, file) =>
        (.error e, { s with inner := rollBack snapshots (inner.remove entry.id), file := file })
      | (.ok (), file) => (.ok entry, { s with inner := inner, file := file })

/-! ## Queries -/

structure Query where
  scopes : List String
  kind : String
  tags : List String
  includeSuperseded : Bool
  limit : Int

/-- `has_any_tag`. -/
def hasAnyTag (haystack needles : List String) : Bool :=
  haystack.any fun h => needles.any fun n => h = n

/-- The filter of `list`. -/
def selects (query : Query) (entry : Memory) : Bool :=
  let scopes := normalizeScopes query.scopes
  let useKind := Text.trim query.kind ≠ ""
  let tags := normalizeTags query.tags
  if ¬query.includeSuperseded ∧ entry.supersededAt.isSome then false
  else if scopes ≠ [] ∧ entry.scope ∉ scopes then false
  else if useKind ∧ entry.kind ≠ normalizeKind query.kind then false
  else if tags ≠ [] ∧ ¬hasAnyTag entry.tags tags then false
  else true

def listOrder (a b : Memory) : Ordering :=
  let aActive := a.supersededAt.isNone
  let bActive := b.supersededAt.isNone
  if aActive ≠ bActive then
    if aActive then .lt else .gt
  else
    (compare b.updatedAt a.updatedAt).then
      ((compare b.createdAt a.createdAt).then (compare a.id b.id))

/-- `Store::list`. -/
def list (s : MemoryStore) (query : Query) : List Memory :=
  let limit := if query.limit ≤ 0 then defaultLimit else query.limit
  ((s.inner.values.filter (selects query)).insertionSort fun a b => listOrder a b ≠ .gt).take
    limit.toNat

variable {entry : Memory} {query : Query}

lemma mem_list {s : MemoryStore} (h : entry ∈ s.list query) :
    s.inner.get entry.id = some entry ∧ selects query entry = true := by
  have hmem := List.mem_of_mem_take h
  rw [List.mem_insertionSort, List.mem_filter, KeyedMap.mem_values_iff] at hmem
  exact hmem

lemma mem_list_of_selects {s : MemoryStore} (hget : s.inner.get entry.id = some entry)
    (hselects : selects query entry = true) (hlimit : (s.inner.values.length : Int) ≤ query.limit) :
    entry ∈ s.list query := by
  have hmem := KeyedMap.mem_values_of_get hget
  have hpos : ¬query.limit ≤ 0 := by
    have hlength := List.length_pos_of_mem hmem
    omega
  simp only [list, if_neg hpos]
  rw [List.take_of_length_le, List.mem_insertionSort, List.mem_filter]
  · exact ⟨hmem, hselects⟩
  · have hfilter := List.length_filter_le (selects query) s.inner.values
    rw [List.length_insertionSort]
    omega

lemma remember_ok {s s' : MemoryStore} {r : MemoryReading} {args : RememberArgs}
    (h : s.remember r args = (.ok entry, s')) :
    entry = newEntry r args ∧ s'.inner.get entry.id = some entry := by
  unfold remember at h
  dsimp only at h
  split at h
  · cases h
  split at h
  · cases h
  split at h
  · cases h
  split at h
  · cases h
  split at h
  · cases h
  · cases h
    exact ⟨rfl, KeyedMap.get_put_self _ _⟩

/-- The only memory of a store is returned if it meets the filters. -/
theorem list_single (h : selects query entry = true) :
    list ⟨none, KeyedMap.empty.put entry, .absent⟩ query = [entry] := by
  have hvalues : (KeyedMap.empty.put entry : MemoryMap).values = [entry] := by
    have hperm := KeyedMap.values_put_perm (KeyedMap.empty : MemoryMap) entry
    have hempty : (KeyedMap.empty.remove entry.id : MemoryMap) = .empty :=
      KeyedMap.ext_get fun k => by simp [KeyedMap.get_remove]
    rw [hempty, KeyedMap.values_empty] at hperm
    exact List.perm_singleton.mp hperm
  obtain ⟨n, hn⟩ : ∃ n, (if query.limit ≤ 0 then defaultLimit else query.limit).toNat = n + 1 := by
    refine Nat.exists_eq_succ_of_ne_zero ?_
    split
    · decide
    · omega
  simp only [list, hvalues, hn, List.filter_cons_of_pos h, List.filter_nil,
    List.insertionSort_cons, List.insertionSort_nil, List.orderedInsert_nil, List.take_succ_cons,
    List.take_nil]

/-! ## Isolation -/

/-- What is returned has one of the scopes asked for. -/
def ScopeIsolated (query : Query) (result : List Memory) : Prop :=
  query.scopes ≠ [] →
    ∀ entry ∈ result, ∃ selector ∈ query.scopes, entry.scope = normalizeScope selector

/-- What is returned has one of the tags asked for. -/
def TagIsolated (query : Query) (result : List Memory) : Prop :=
  query.tags ≠ [] → ∀ entry ∈ result, ∃ tag ∈ query.tags, normalizeTag tag ∈ entry.tags

def Denotes (normalize : String → String) (texts : List String) : Prop :=
  texts ≠ [] → ∃ text ∈ texts, normalize text ≠ ""

/-- The filter, condition by condition. -/
theorem selects_iff :
    selects query entry = true ↔
      (query.includeSuperseded = true ∨ entry.supersededAt = none) ∧
      (normalizeScopes query.scopes = [] ∨ entry.scope ∈ normalizeScopes query.scopes) ∧
      (Text.trim query.kind = "" ∨ entry.kind = normalizeKind query.kind) ∧
      (normalizeTags query.tags = [] ∨
        ∃ tag ∈ entry.tags, tag ∈ normalizeTags query.tags) := by
  have htags : hasAnyTag entry.tags (normalizeTags query.tags) = true ↔
      ∃ tag ∈ entry.tags, tag ∈ normalizeTags query.tags := by
    simp [hasAnyTag]
  have hsuperseded : entry.supersededAt.isSome = true ↔ entry.supersededAt ≠ none :=
    Option.isSome_iff_ne_none
  rw [← htags]
  clear htags
  unfold selects
  grind

lemma scopeIsolated_list (h : Denotes normalizeScope query.scopes) (s : MemoryStore) :
    ScopeIsolated query (s.list query) := by
  intro hne entry hentry
  obtain ⟨_, hscope, _⟩ := selects_iff.mp (mem_list hentry).2
  rcases hscope with hnil | hscope
  · obtain ⟨text, htext, hdenotes⟩ := h hne
    exact absurd (normalizeAll_eq_nil_iff.mp hnil text htext) hdenotes
  · obtain ⟨_, selector, hselector, heq⟩ := mem_normalizeAll_iff.mp hscope
    exact ⟨selector, hselector, heq.symm⟩

lemma tagIsolated_list (h : Denotes normalizeTag query.tags) (s : MemoryStore) :
    TagIsolated query (s.list query) := by
  intro hne entry hentry
  obtain ⟨_, _, _, htags⟩ := selects_iff.mp (mem_list hentry).2
  rcases htags with hnil | ⟨tag, htag, hmem⟩
  · obtain ⟨text, htext, hdenotes⟩ := h hne
    exact absurd (normalizeAll_eq_nil_iff.mp hnil text htext) hdenotes
  · obtain ⟨_, text, htext, rfl⟩ := mem_normalizeAll_iff.mp hmem
    exact ⟨text, htext, htag⟩

def probe (query : Query) : Memory where
  id := ""
  scope := (normalizeScopes query.scopes).headD "global"
  kind := normalizeKind query.kind
  subject := ""
  content := ""
  tags := normalizeTags query.tags
  createdBy := ""
  supersedes := []
  supersededBy := ""
  supersededAt := none
  createdAt := 0
  updatedAt := 0

lemma selects_probe (query : Query) : selects query (probe query) = true := by
  refine selects_iff.mpr ⟨.inr rfl, ?_, .inr (by rw [probe]), ?_⟩
  · cases hscopes : normalizeScopes query.scopes with
    | nil => exact .inl rfl
    | cons scope rest =>
      right
      rw [probe, hscopes]
      exact List.mem_cons_self
  · cases htags : normalizeTags query.tags with
    | nil => exact .inl rfl
    | cons tag rest =>
      refine .inr ⟨tag, ?_, List.mem_cons_self⟩
      rw [probe, htags]
      exact List.mem_cons_self

/-- A query keeps to its scopes and tags, whatever is stored, exactly if each of the two
lists is empty or has an element that denotes something. -/
theorem recall_isolated_iff (query : Query) :
    (∀ s : MemoryStore, ScopeIsolated query (s.list query) ∧ TagIsolated query (s.list query)) ↔
      Denotes normalizeScope query.scopes ∧ Denotes normalizeTag query.tags := by
  constructor
  · intro h
    have hprobe := h ⟨none, KeyedMap.empty.put (probe query), .absent⟩
    rw [list_single (selects_probe query)] at hprobe
    refine ⟨fun hne => ?_, fun hne => ?_⟩
    · by_contra hnone
      push Not at hnone
      obtain ⟨selector, hselector, heq⟩ := hprobe.1 hne _ List.mem_cons_self
      rw [probe, normalizeScopes, normalizeAll_eq_nil_iff.mpr hnone, hnone selector hselector]
        at heq
      have hglobal : "global" = "" := heq
      exact absurd hglobal (by decide)
    · by_contra hnone
      push Not at hnone
      obtain ⟨tag, _, hmem⟩ := hprobe.2 hne _ List.mem_cons_self
      rw [probe, normalizeTags, normalizeAll_eq_nil_iff.mpr hnone] at hmem
      cases hmem
  · rintro ⟨hscopes, htags⟩ s
    exact ⟨scopeIsolated_list hscopes s, tagIsolated_list htags s⟩

def oneMemory : MemoryStore :=
  (inMemory.remember ⟨7, "a1", .done⟩
    ⟨"workspace:alice", "", "", "the key is under the mat", [], "alice", []⟩).2

/-- A query for a workspace without a name returns what other workspaces have noted. -/
theorem recall_leaks_emptySelector :
    (oneMemory.list ⟨["workspace:"], "", [], false, 0⟩).map Memory.scope = ["workspace:alice"] ∧
      normalizeScope "workspace:" = "" ∧
      ¬ScopeIsolated ⟨["workspace:"], "", [], false, 0⟩
        (oneMemory.list ⟨["workspace:"], "", [], false, 0⟩) := by
  have hscopes : (oneMemory.list ⟨["workspace:"], "", [], false, 0⟩).map Memory.scope =
      ["workspace:alice"] := by
    decide +kernel
  have hempty : normalizeScope "workspace:" = "" := by decide +kernel
  refine ⟨hscopes, hempty, fun hisolated => ?_⟩
  have hmem : "workspace:alice" ∈
      (oneMemory.list ⟨["workspace:"], "", [], false, 0⟩).map Memory.scope := by
    rw [hscopes]
    exact List.mem_cons_self
  obtain ⟨entry, hentry, hscope⟩ := List.mem_map.mp hmem
  obtain ⟨selector, hselector, heq⟩ := hisolated (List.cons_ne_nil _ _) entry hentry
  obtain rfl := List.mem_singleton.mp hselector
  rw [hscope, hempty] at heq
  exact absurd heq (by decide)

end MemoryStore
end Ax.Daemon
