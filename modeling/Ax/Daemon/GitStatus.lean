import Mathlib.Data.List.Basic

/-!
# Counting changed files

The daemon runs `git status --porcelain=v1 -z` and counts the records it prints.  A record
is two status letters, a blank and a path that ends with a NUL; a rename or a copy has the
original path behind it, with a NUL of its own.

Main results:

- Theorem `parseStatusPorcelainZ_records`: what is counted, and when it is every record once.
- Theorem `counts_original_path`: the original path of such a record is counted as a record.
-/

namespace Ax.Daemon

structure StatusCounts where
  modified : Nat := 0
  added : Nat := 0
  deleted : Nat := 0
  untracked : Nat := 0
deriving DecidableEq, Repr

/-- The counters. -/
inductive StatusKind
  | modified
  | added
  | deleted
  | untracked
deriving DecidableEq

namespace StatusCounts

def get (counts : StatusCounts) : StatusKind → Nat
  | .modified => counts.modified
  | .added => counts.added
  | .deleted => counts.deleted
  | .untracked => counts.untracked

def increment (counts : StatusCounts) : StatusKind → StatusCounts
  | .modified => { counts with modified := counts.modified + 1 }
  | .added => { counts with added := counts.added + 1 }
  | .deleted => { counts with deleted := counts.deleted + 1 }
  | .untracked => { counts with untracked := counts.untracked + 1 }

lemma get_increment (counts : StatusCounts) (kind other : StatusKind) :
    (counts.increment kind).get other = counts.get other + if kind = other then 1 else 0 := by
  cases kind <;> cases other <;> rfl

end StatusCounts

def statusKind (x y : UInt8) : Option StatusKind :=
  if x = '?'.toUInt8 ∧ y = '?'.toUInt8 then some .untracked
  else if x = '!'.toUInt8 ∧ y = '!'.toUInt8 then none
  else if x = 'D'.toUInt8 ∨ y = 'D'.toUInt8 then some .deleted
  else if x = 'A'.toUInt8 ∨ y = 'A'.toUInt8 then some .added
  else some .modified

def isRename (letter : UInt8) : Bool :=
  letter = 'R'.toUInt8 || letter = 'C'.toUInt8

def afterNul (bytes : List UInt8) : List UInt8 :=
  (bytes.dropWhile (· ≠ 0)).drop 1

lemma length_afterNul (bytes : List UInt8) : (afterNul bytes).length ≤ bytes.length - 1 := by
  have hdrop := (List.dropWhile_suffix (l := bytes) (· ≠ 0)).length_le
  simp only [afterNul, List.length_drop]
  omega

/-- The loop of `parse_status_porcelain_z`, at the bytes that are left. -/
def parseEntries (counts : StatusCounts) (bytes : List UInt8) : StatusCounts :=
  if h : bytes = [] then counts
  else
    have := List.length_pos_iff.mpr h
    have := length_afterNul bytes
    have := length_afterNul (afterNul bytes)
    match bytes.takeWhile (· ≠ 0) with
    | x :: y :: _ =>
      match statusKind x y with
      | none => parseEntries counts (afterNul bytes)
      | some kind =>
        -- The letters of an untracked file are no rename.
        if isRename x then parseEntries (counts.increment kind) (afterNul (afterNul bytes))
        else parseEntries (counts.increment kind) (afterNul bytes)
    | _ => parseEntries counts (afterNul bytes)
termination_by bytes.length
decreasing_by all_goals omega

/-- `parse_status_porcelain_z`. -/
def parseStatusPorcelainZ (bytes : List UInt8) : StatusCounts :=
  parseEntries {} bytes

/-! ## Printed records -/

/-- A record, with the original path of a rename or a copy. -/
structure StatusRecord where
  x : UInt8
  y : UInt8
  path : List UInt8
  original : List UInt8
  x_ne : x ≠ 0
  y_ne : y ≠ 0
  path_nul : 0 ∉ path
  original_nul : 0 ∉ original

/-- The kind of an entry; one that is too short has none. -/
def entryKind : List UInt8 → Option StatusKind
  | x :: y :: _ => statusKind x y
  | _ => none

/-- What stands before a NUL: the letters and the path of a record, or its original path. -/
inductive StatusField
  | head (r : StatusRecord)
  | original (r : StatusRecord)

namespace StatusField

/-- The field without its NUL. -/
def bytes : StatusField → List UInt8
  | head r => r.x :: r.y :: ' '.toUInt8 :: r.path
  | original r => r.original

/-- The kind of the field if it is read as a record. -/
def kind (field : StatusField) : Option StatusKind :=
  entryKind field.bytes

/-- The field has the first letter of a rename or a copy. -/
def renames (field : StatusField) : Bool :=
  field.bytes.head?.any isRename

lemma nul_notMem_bytes (field : StatusField) : 0 ∉ field.bytes := by
  cases field with
  | head r =>
    simp only [bytes, List.mem_cons, not_or]
    exact ⟨r.x_ne.symm, r.y_ne.symm, by decide, r.path_nul⟩
  | original r => exact r.original_nul

end StatusField

namespace StatusRecord

/-- The kind of the record; ignored files have none. -/
def kind (r : StatusRecord) : Option StatusKind :=
  statusKind r.x r.y

/-- Renames and copies, by either letter, have an original path. -/
def hasOriginal (r : StatusRecord) : Bool :=
  isRename r.x || isRename r.y

/-- The fields of the record. -/
def fields (r : StatusRecord) : List StatusField :=
  .head r :: if r.hasOriginal then [.original r] else []

/-- The record as it is printed. -/
def bytes (r : StatusRecord) : List UInt8 :=
  r.fields.flatMap fun field => field.bytes ++ [0]

/-- The original path is not taken for a record: the first letter announces it, or it is too
short for one or starts like an ignored file. -/
def Harmless (r : StatusRecord) : Prop :=
  isRename r.y = true → isRename r.x = true ∨ r.original.length < 2 ∨
    r.original.take 2 = ['!'.toUInt8, '!'.toUInt8]

end StatusRecord

/-- The fields that the loop counts.  It passes over the field behind a rename that it counts. -/
def countedFields : List StatusField → List StatusField
  | [] => []
  | field :: rest =>
    if field.kind = none then countedFields rest
    else if field.renames then field :: countedFields (rest.drop 1)
    else field :: countedFields rest
termination_by fields => fields.length
decreasing_by all_goals simp only [List.length_drop, List.length_cons]; omega

/-! ## The loop on fields -/

section Entry

variable {entry rest : List UInt8}

lemma ne_nul_of_mem (h : 0 ∉ entry) : ∀ byte ∈ entry, decide (byte ≠ 0) = true :=
  fun _ hbyte => decide_eq_true (ne_of_mem_of_not_mem hbyte h)

lemma takeWhile_entry (h : 0 ∉ entry) : (entry ++ 0 :: rest).takeWhile (· ≠ 0) = entry := by
  rw [List.takeWhile_append_of_pos (ne_nul_of_mem h)]
  simp

lemma afterNul_entry (h : 0 ∉ entry) : afterNul (entry ++ 0 :: rest) = rest := by
  rw [afterNul, List.dropWhile_append_of_pos (ne_nul_of_mem h)]
  simp

lemma parseEntries_entry (h : 0 ∉ entry) (counts : StatusCounts) :
    parseEntries counts (entry ++ 0 :: rest) =
      parseEntries ((entryKind entry).elim counts counts.increment)
        (if (entryKind entry).isSome ∧ entry.head?.any isRename then afterNul rest else rest) := by
  rw [parseEntries, dif_neg (by simp)]
  simp only [takeWhile_entry h, afterNul_entry h]
  match entry with
  | [] => simp [entryKind]
  | [_] => simp [entryKind]
  | x :: y :: path =>
    have hkind : entryKind (x :: y :: path) = statusKind x y := rfl
    rw [hkind]
    cases hletters : statusKind x y with
    | none => simp [hletters]
    | some kind => by_cases hx : isRename x = true <;> simp [hletters, hx]

end Entry

variable (fields : List StatusField)

lemma afterNul_fields :
    afterNul (fields.flatMap fun field => field.bytes ++ [0]) =
      (fields.drop 1).flatMap fun field => field.bytes ++ [0] := by
  cases fields with
  | nil => rfl
  | cons field rest =>
    rw [List.flatMap_cons, List.append_assoc]
    exact afterNul_entry field.nul_notMem_bytes

/-- Each counted field adds one to the counter of its kind. -/
theorem parseEntries_fields (counts : StatusCounts) :
    parseEntries counts (fields.flatMap fun field => field.bytes ++ [0]) =
      (countedFields fields).foldl (fun counts field => field.kind.elim counts counts.increment)
        counts := by
  have hcons (field : StatusField) (rest : List StatusField) :
      (field :: rest).flatMap (fun field => field.bytes ++ [0]) =
        field.bytes ++ 0 :: rest.flatMap fun field => field.bytes ++ [0] := by
    simp
  induction fields using countedFields.induct generalizing counts with
  | case1 =>
    rw [List.flatMap_nil, parseEntries, countedFields]
    simp
  | case2 field rest hnone ih =>
    have hkind : entryKind field.bytes = none := hnone
    rw [hcons, parseEntries_entry field.nul_notMem_bytes, countedFields, if_pos hnone, hkind,
      if_neg (by simp)]
    exact ih counts
  | case3 field rest hsome hrenames ih =>
    rw [hcons, parseEntries_entry field.nul_notMem_bytes, countedFields, if_neg hsome,
      if_pos hrenames, if_pos ⟨Option.isSome_iff_ne_none.mpr hsome, hrenames⟩, afterNul_fields,
      List.foldl_cons]
    exact ih _
  | case4 field rest hsome hplain ih =>
    rw [hcons, parseEntries_entry field.nul_notMem_bytes, countedFields, if_neg hsome,
      if_neg hplain, if_neg fun h => hplain h.2, List.foldl_cons]
    exact ih _

lemma kind_of_mem_countedFields : ∀ field ∈ countedFields fields, field.kind ≠ none := by
  induction fields using countedFields.induct with
  | case1 => simp [countedFields]
  | case2 field rest hnone ih => rwa [countedFields, if_pos hnone]
  | case3 field rest hsome hrenames ih =>
    rw [countedFields, if_neg hsome, if_pos hrenames]
    exact List.forall_mem_cons.mpr ⟨hsome, ih⟩
  | case4 field rest hsome hplain ih =>
    rw [countedFields, if_neg hsome, if_neg hplain]
    exact List.forall_mem_cons.mpr ⟨hsome, ih⟩

lemma get_foldl_increment (counts : StatusCounts) (kind : StatusKind) :
    (fields.foldl (fun counts field => field.kind.elim counts counts.increment) counts).get kind =
      counts.get kind + fields.countP fun field => field.kind = some kind := by
  induction fields generalizing counts with
  | nil => simp
  | cons field fields ih =>
    rw [List.foldl_cons, ih, List.countP_cons]
    cases hkind : field.kind with
    | none => simp
    | some other =>
      simp only [Option.elim_some, StatusCounts.get_increment, Option.some.injEq,
        decide_eq_true_eq]
      omega

lemma countP_kinds (h : ∀ field ∈ fields, field.kind ≠ none) :
    (fields.countP fun field => field.kind = some .modified) +
          (fields.countP fun field => field.kind = some .added) +
        (fields.countP fun field => field.kind = some .deleted) +
      (fields.countP fun field => field.kind = some .untracked) = fields.length := by
  induction fields with
  | nil => rfl
  | cons field fields ih =>
    obtain ⟨hsome, hrest⟩ := List.forall_mem_cons.mp h
    obtain ⟨kind, hkind⟩ := Option.ne_none_iff_exists'.mp hsome
    simp only [List.countP_cons, List.length_cons, ← ih hrest, hkind]
    cases kind <;> simp <;> omega

/-! ## The fields of records -/

lemma not_isRename_of_ignored {x y : UInt8} (h : statusKind x y = none) :
    isRename x = false ∧ isRename y = false := by
  have hletters : x = '!'.toUInt8 ∧ y = '!'.toUInt8 := by
    revert h
    unfold statusKind
    split_ifs with huntracked hignored <;> simp_all
  rw [hletters.1, hletters.2]
  decide

lemma entryKind_eq_none_iff (entry : List UInt8) :
    entryKind entry = none ↔
      entry.length < 2 ∨ entry.take 2 = ['!'.toUInt8, '!'.toUInt8] := by
  match entry with
  | [] => simp [entryKind]
  | [_] => simp [entryKind]
  | x :: y :: path =>
    simp only [entryKind, statusKind]
    split_ifs with huntracked hignored <;> simp_all
    decide

lemma countedFields_record (r : StatusRecord) (rest : List StatusField) :
    countedFields (r.fields ++ rest) = (if r.kind = none then [] else [.head r]) ++
      countedFields
        (if isRename r.y ∧ ¬isRename r.x then .original r :: rest else rest) := by
  have hhead : (StatusField.head r).kind = r.kind := rfl
  have hrenames : (StatusField.head r).renames = isRename r.x := rfl
  rw [StatusRecord.fields, List.cons_append, countedFields, hhead, hrenames,
    StatusRecord.hasOriginal]
  by_cases hnone : r.kind = none
  · obtain ⟨hx, hy⟩ := not_isRename_of_ignored hnone
    simp [hnone, hx, hy]
  · cases hx : isRename r.x with
    | true => simp [hnone]
    | false => cases hy : isRename r.y <;> simp [hnone]

lemma countedFields_eq_heads_iff (records : List StatusRecord) :
    countedFields (records.flatMap StatusRecord.fields) =
        (records.filter fun r => r.kind ≠ none).map .head ↔ ∀ r ∈ records, r.Harmless := by
  induction records with
  | nil => simp [countedFields]
  | cons r records ih =>
    rw [List.flatMap_cons, countedFields_record, List.forall_mem_cons, ← ih]
    have hheads : ((r :: records).filter fun r => r.kind ≠ none).map StatusField.head =
        (if r.kind = none then [] else [.head r]) ++
          (records.filter fun r => r.kind ≠ none).map .head := by
      by_cases hnone : r.kind = none <;> simp [hnone]
    rw [hheads, List.append_cancel_left_eq]
    by_cases hlate : isRename r.y = true ∧ ¬isRename r.x = true
    · have hharmless : r.Harmless ↔ (StatusField.original r).kind = none := by
        rw [StatusField.kind, entryKind_eq_none_iff, StatusRecord.Harmless]
        exact ⟨fun h => (h hlate.1).resolve_left hlate.2, fun h _ => .inr h⟩
      rw [if_pos hlate, hharmless, countedFields]
      by_cases hnone : (StatusField.original r).kind = none
      · rw [if_pos hnone, and_iff_right hnone]
      · -- an original path that is counted is not among the heads
        rw [if_neg hnone]
        refine iff_of_false (fun heq => ?_) fun h => hnone h.1
        have hmem : StatusField.original r ∈
            (records.filter fun r => r.kind ≠ none).map StatusField.head := by
          rw [← heq]
          split <;> exact List.mem_cons_self
        simp at hmem
    · have hharmless : r.Harmless := by
        unfold StatusRecord.Harmless
        tauto
      rw [if_neg hlate]
      exact (and_iff_right hharmless).symm

/-- The counters add up the fields that the loop counts.  These are the records of the files that
are not ignored, each once, exactly if no original path is taken for a record; then the counter
of each kind is the number of its records. -/
theorem parseStatusPorcelainZ_records (records : List StatusRecord) :
    let counts := parseStatusPorcelainZ (records.flatMap StatusRecord.bytes)
    let counted := countedFields (records.flatMap StatusRecord.fields)
    (∀ kind, counts.get kind = counted.countP fun field => field.kind = some kind) ∧
      counts.modified + counts.added + counts.deleted + counts.untracked = counted.length ∧
      (counted = (records.filter fun r => r.kind ≠ none).map .head ↔
        ∀ r ∈ records, r.Harmless) ∧
      ((∀ r ∈ records, r.Harmless) →
        (∀ kind, counts.get kind = records.countP fun r => r.kind = some kind) ∧
          counted.length = records.countP fun r => r.kind ≠ none) := by
  intro counts counted
  have hget : ∀ kind, counts.get kind = counted.countP fun field => field.kind = some kind := by
    intro kind
    have hfields : counts = counted.foldl
        (fun counts field => field.kind.elim counts counts.increment) {} := by
      rw [← parseEntries_fields, List.flatMap_assoc]
      rfl
    rw [hfields, get_foldl_increment]
    cases kind <;> exact Nat.zero_add _
  have hiff := countedFields_eq_heads_iff records
  refine ⟨hget, ?_, hiff, fun hharmless => ?_⟩
  · rw [← countP_kinds counted (kind_of_mem_countedFields _), ← hget, ← hget, ← hget, ← hget]
    rfl
  · have hheads : counted = (records.filter fun r => r.kind ≠ none).map .head :=
      hiff.mpr hharmless
    refine ⟨fun kind => ?_, ?_⟩
    · rw [hget, hheads, List.countP_map, List.countP_filter]
      refine List.countP_congr fun r _ => ?_
      simp only [Function.comp_apply, Bool.and_eq_true, decide_eq_true_eq]
      exact ⟨And.left, fun h => ⟨h, fun hnone => by cases hnone.symm.trans h⟩⟩
    · rw [hheads, List.length_map, List.countP_eq_length_filter]

/-- A file renamed from `ab` to `c`. -/
def renamedFile (x y : Char) (hx : x.toUInt8 ≠ 0) (hy : y.toUInt8 ≠ 0) : StatusRecord where
  x := x.toUInt8
  y := y.toUInt8
  path := ['c'.toUInt8]
  original := ['a'.toUInt8, 'b'.toUInt8]
  x_ne := hx
  y_ne := hy
  path_nul := by decide
  original_nul := by decide

theorem parseStatusPorcelainZ_renamed :
    (parseStatusPorcelainZ ([renamedFile 'R' 'M' (by decide) (by decide)].flatMap
      StatusRecord.bytes)).modified = 1 :=
  ((parseStatusPorcelainZ_records _).2.2.2
    (by simp [StatusRecord.Harmless, renamedFile, isRename])).1 .modified

/-- A rename in the work tree only counts twice: the original path passes for a record. -/
theorem counts_original_path :
    (parseStatusPorcelainZ (renamedFile ' ' 'R' (by decide) (by decide)).bytes).modified = 2 := by
  have hbytes : (renamedFile ' ' 'R' (by decide) (by decide)).bytes =
      [' '.toUInt8, 'R'.toUInt8, ' '.toUInt8, 'c'.toUInt8] ++
        0 :: (['a'.toUInt8, 'b'.toUInt8] ++ 0 :: []) := by
    decide
  rw [hbytes, parseStatusPorcelainZ, parseEntries_entry (by decide), if_neg (by decide),
    parseEntries_entry (by decide), if_neg (by decide), parseEntries]
  decide

end Ax.Daemon
