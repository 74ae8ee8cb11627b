import Ax.Workspace.DesiredState

/-!
# What normalised paths denote

`normalize_path`, which `reconcile`, `dispatch` and `lifecycle` have in the same words, puts
the components of a path on a stack.  A `..` removes the last component, and stays only if there
is none: so the second `..` of `../..` removes the first.

A path leads up by some number of directories and then down by some names.  Normalising it
keeps the names, and of the number only whether it is odd.

Main results:

- Theorem `normalizePath_spec`: normalised paths are in normal form, and they lead where the
  path does exactly if the path is absolute or leads up by at most one directory.
- Theorem `normalizePath_two_up`: a path that leads up by two directories.
-/

namespace Ax

/-! ## Paths from their components -/

namespace Path

/-- A component behind the start of a path. -/
structure IsPlain (segment : String) : Prop where
  notFiller : isFiller segment = false
  slash : '/' ∉ segment.toList

variable {start parts : List String} {x : String}

lemma IsPlain.ne_empty (h : IsPlain x) : x ≠ "" := by
  rintro rfl
  exact absurd h.notFiller (by decide)

lemma IsPlain.ne_dot (h : IsPlain x) : x ≠ "." := by
  rintro rfl
  exact absurd h.notFiller (by decide)

lemma IsPlain.not_isAbsolute (h : IsPlain x) : isAbsolute x = false := by
  refine decide_eq_false fun hhead => h.slash ?_
  exact List.mem_of_mem_head? hhead

lemma rdropWhile_isFiller (h : ∀ x ∈ parts, IsPlain x) : parts.rdropWhile isFiller = parts :=
  List.rdropWhile_eq_self_iff.mpr fun hne => by
    simp [(h _ (List.getLast_mem hne)).notFiller]

lemma segments_intercalate (hne : parts ≠ []) (h : ∀ x ∈ parts, '/' ∉ x.toList) :
    segments ("/".intercalate parts) = parts := by
  have hsplit : (['/'].intercalate (parts.map String.toList)).splitOn '/' =
      parts.map String.toList :=
    List.splitOn_intercalate '/' (by simpa using h) (by simpa using hne)
  rw [segments, String.toList_intercalate]
  refine (congrArg _ hsplit).trans ?_
  simp

lemma isAbsolute_intercalate (hx : x ≠ "") (rest : List String) :
    isAbsolute ("/".intercalate (x :: rest)) = isAbsolute x := by
  have hne : x.toList ≠ [] := by rwa [Ne, String.toList_eq_nil_iff]
  cases rest with
  | nil => rw [String.intercalate_singleton]
  | cons y rest =>
    simp only [isAbsolute, String.intercalate_cons_cons, String.toList_append, List.append_assoc,
      List.head?_append_of_ne_nil _ hne]

section

variable (hstart : start = [] ∨ start = [""])
include hstart

/-- A path that is put together from components has these components. -/
theorem body_ofSegments (h : ∀ x ∈ parts, IsPlain x) :
    body (ofSegments start parts) = (start, parts) := by
  cases parts with
  | nil => rcases hstart with rfl | rfl <;> decide
  | cons x rest =>
    have hplain := h x (.head rest)
    rcases hstart with rfl | rfl
    · have hpath : ofSegments [] (x :: rest) = "/".intercalate (x :: rest) := if_neg (by simp)
      rw [body, hpath, segments_intercalate (by simp) fun y hy => (h y hy).slash]
      simp only [isAbsolute_intercalate hplain.ne_empty, hplain.not_isAbsolute,
        if_neg hplain.ne_dot, Bool.false_eq_true, if_false, rdropWhile_isFiller h]
    · have hpath : ofSegments [""] (x :: rest) = "/".intercalate ("" :: x :: rest) :=
        if_neg (by simp)
      have hslash : ∀ y ∈ "" :: x :: rest, '/' ∉ y.toList :=
        List.forall_mem_cons.mpr ⟨by simp, fun y hy => (h y hy).slash⟩
      rw [body, isAbsolute_ofSegments, hpath, segments_intercalate (by simp) hslash]
      simp only [if_true, rdropWhile_isFiller h]

lemma components_ofSegments (h : ∀ x ∈ parts, IsPlain x) :
    components (ofSegments start parts) = start ++ parts := by
  rw [components, body_ofSegments hstart h]
  refine congrArg _ (List.filter_eq_self.mpr fun x hx => ?_)
  simp [(h x hx).notFiller]

lemma parent_ofSegments_nil : parent (ofSegments start []) = none := by
  rcases hstart with rfl | rfl <;> decide

lemma parent_ofSegments_concat (h : ∀ y ∈ parts ++ [x], IsPlain y) :
    parent (ofSegments start (parts ++ [x])) = some (ofSegments start parts) := by
  have hparts : ∀ y ∈ parts, IsPlain y := fun y hy => h y (List.mem_append_left _ hy)
  rw [parent, body_ofSegments hstart h]
  split
  · rename_i hbody
    simp at hbody
  · rename_i hbody
    cases hbody
    rw [List.dropLast_concat, rdropWhile_isFiller hparts]

lemma join_ofSegments (hparts : ∀ y ∈ parts, IsPlain y) (hx : IsPlain x) :
    join (ofSegments start parts) x = ofSegments start (parts ++ [x]) := by
  rw [join, hx.not_isAbsolute, if_neg Bool.false_ne_true]
  rcases List.eq_nil_or_concat' parts with rfl | ⟨init, y, rfl⟩
  · rcases hstart with rfl | rfl <;> simp [ofSegments]
  · have hy : IsPlain y := hparts y (by simp)
    have hne : y.toList ≠ [] := by
      rw [Ne, String.toList_eq_nil_iff]
      exact hy.ne_empty
    have hpath : ∀ rest, rest ≠ [] → ofSegments start rest = "/".intercalate (start ++ rest) :=
      fun rest hrest => if_neg fun h => hrest h.2
    have hlast : (ofSegments start (init ++ [y])).toList.getLast? = y.toList.getLast? := by
      rw [hpath _ (by simp), ← List.append_assoc]
      by_cases hinit : start ++ init = []
      · rw [hinit, List.nil_append, String.intercalate_singleton]
      · rw [String.intercalate_append_of_ne_nil hinit (by simp), String.intercalate_singleton,
          String.toList_append, List.getLast?_append_of_ne_nil _ hne]
    have hend : ¬(y.toList.getLast? = none ∨ y.toList.getLast? = some '/') := by
      rintro (hnone | hslash)
      · exact hne (List.getLast?_eq_none_iff.mp hnone)
      · exact hy.slash (List.mem_of_getLast? hslash)
    rw [hlast, if_neg hend, hpath (init ++ [y]) (by simp), hpath (init ++ [y] ++ [x]) (by simp),
      ← List.append_assoc start (init ++ [y])]
    exact (String.intercalate_append_of_ne_nil (m := [x]) (by simp) (by simp)).symm

end

lemma slash_of_mem_segments {path : String} (h : x ∈ segments path) : '/' ∉ x.toList := by
  obtain ⟨cs, hcs, rfl⟩ := List.mem_map.mp h
  intro hslash
  rw [String.toList_ofList] at hslash
  simpa using Text.eq_false_of_mem_splitOnP hcs '/' hslash

def steps (path : String) : List String :=
  (components path).filter fun segment => !isFiller segment

lemma body_cases (path : String) :
    (body path).2 ⊆ segments path ∧ (isAbsolute path = true ∧ (body path).1 = [""] ∨
      isAbsolute path = false ∧ ((body path).1 = [] ∨ (body path).1 = ["."])) := by
  unfold body
  cases hsegments : segments path with
  | nil => simp [segments, List.splitOn] at hsegments
  | cons first rest =>
    have hrest := (List.rdropWhile_prefix isFiller rest).subset
    dsimp only
    split_ifs with habs hdot
    · exact ⟨List.subset_cons_of_subset _ hrest, .inl ⟨habs, rfl⟩⟩
    · exact ⟨List.subset_cons_of_subset _ hrest, .inr ⟨by simpa using habs, .inr rfl⟩⟩
    · exact ⟨(List.rdropWhile_prefix isFiller _).subset, .inr ⟨by simpa using habs, .inl rfl⟩⟩

lemma components_cases (path : String) :
    (∀ x ∈ steps path, IsPlain x) ∧
      (isAbsolute path = true ∧ components path = "" :: steps path ∨
        isAbsolute path = false ∧
          (components path = steps path ∨ components path = "." :: steps path)) := by
  obtain ⟨hsub, hstart⟩ := body_cases path
  have hsteps : steps path = (body path).2.filter fun segment => !isFiller segment := by
    rw [steps, components, List.filter_append, List.filter_filter]
    rcases hstart with ⟨-, h⟩ | ⟨-, h | h⟩ <;> simp [h, isFiller]
  refine ⟨fun x hx => ?_, ?_⟩
  · obtain ⟨hmem, hfiller⟩ := List.mem_filter.mp (hsteps ▸ hx)
    exact ⟨by simpa using hfiller, slash_of_mem_segments (hsub hmem)⟩
  · rw [components, ← hsteps]
    rcases hstart with ⟨habs, h⟩ | ⟨habs, h | h⟩ <;> simp [h, habs]

lemma steps_ofSegments (hstart : start = [] ∨ start = [""]) (h : ∀ x ∈ parts, IsPlain x) :
    steps (ofSegments start parts) = parts := by
  have hfilter : parts.filter (fun segment => !isFiller segment) = parts :=
    List.filter_eq_self.mpr fun x hx => by simp [(h x hx).notFiller]
  rw [steps, components_ofSegments hstart h, List.filter_append, hfilter]
  rcases hstart with rfl | rfl <;> rfl

end Path

namespace Workspaces

open Ax.Path

/-! ## Where paths lead -/

def followStep (here : List String) (segment : String) : List String :=
  if segment = "" then []
  else if segment = "." then here
  else if segment = ".." then here.dropLast
  else here ++ [segment]

def follow (base : List String) (path : String) : List String :=
  (components path).foldl followStep base

/-- By how many directories components lead up, and the names by which they lead down. -/
def reduceStep (found : Nat × List String) (segment : String) : Nat × List String :=
  if segment = ".." then
    if found.2 = [] then (found.1 + 1, []) else (found.1, found.2.dropLast)
  else (found.1, found.2 ++ [segment])

def reduce (path : String) : Nat × List String :=
  (steps path).foldl reduceStep (0, [])

def climbs (path : String) : Nat :=
  (reduce path).1

/-- Components that lead down. -/
def Names (names : List String) : Prop :=
  ∀ x ∈ names, IsPlain x ∧ x ≠ ".."

variable {absolute : Bool} {parts rest : List String} {segment : String}
  {found : Nat × List String}

lemma names_reduceStep (h : Names found.2) (hsegment : IsPlain segment) :
    Names (reduceStep found segment).2 := by
  unfold reduceStep
  split_ifs with hup
  · simp [Names]
  · exact fun x hx => h x (List.mem_of_mem_dropLast hx)
  · intro x hx
    rcases List.mem_append.mp hx with hx | hx
    · exact h x hx
    · rw [List.mem_singleton.mp hx]
      exact ⟨hsegment, hup⟩

/-- A loop over components that only depends on where they lead. -/
theorem foldl_steps {α : Type} {f : α → String → α} {g : Nat × List String → α}
    (hf : ∀ found segment, Names found.2 → IsPlain segment →
      f (g found) segment = g (reduceStep found segment)) (path : String) :
    (steps path).foldl f (g (0, [])) = g (reduce path) := by
  have hfold : ∀ (rest : List String) (found : Nat × List String), (∀ x ∈ rest, IsPlain x) →
      Names found.2 → rest.foldl f (g found) = g (rest.foldl reduceStep found) := by
    intro rest
    induction rest with
    | nil => exact fun _ _ _ => rfl
    | cons segment rest ih =>
      intro found hrest h
      obtain ⟨hsegment, hrest⟩ := List.forall_mem_cons.mp hrest
      rw [List.foldl_cons, List.foldl_cons, hf found segment h hsegment]
      exact ih _ hrest (names_reduceStep h hsegment)
  exact hfold _ _ (components_cases path).1 (List.forall_mem_nil _)

lemma names_reduce (path : String) : Names (reduce path).2 := by
  have hnil : Names ((0, []) : Nat × List String).2 := List.forall_mem_nil _
  refine List.foldlRecOn (motive := fun found : Nat × List String => Names found.2) (steps path)
    reduceStep hnil fun found h segment hmem => ?_
  exact names_reduceStep h ((components_cases path).1 segment hmem)

lemma followStep_rdrop (hsegment : IsPlain segment) (here : List String)
    (found : Nat × List String) :
    followStep (here.rdrop found.1 ++ found.2) segment =
      here.rdrop (reduceStep found segment).1 ++ (reduceStep found segment).2 := by
  obtain ⟨n, names⟩ := found
  rw [followStep, if_neg hsegment.ne_empty, if_neg hsegment.ne_dot, reduceStep]
  by_cases hup : segment = ".."
  · rw [if_pos hup, if_pos hup]
    by_cases hnames : names = []
    · subst hnames
      simp only [if_true, List.append_nil, List.rdrop, List.dropLast_eq_take, List.take_take,
        List.length_take]
      exact congrArg (List.take · here) (by omega)
    · simp [hnames, List.dropLast_append_of_ne_nil hnames]
  · simp [hup]

lemma follow_eq (base : List String) (path : String) :
    follow base path =
      (if isAbsolute path then [] else base).rdrop (reduce path).1 ++ (reduce path).2 := by
  obtain ⟨-, hcases⟩ := components_cases path
  have hsteps (here : List String) : (steps path).foldl followStep here =
      here.rdrop (reduce path).1 ++ (reduce path).2 := by
    have hfold := foldl_steps (g := fun found => here.rdrop found.1 ++ found.2)
      (fun found _ _ h => followStep_rdrop h here found) path
    rwa [List.rdrop_zero, List.append_nil] at hfold
  rw [follow]
  rcases hcases with ⟨habs, h⟩ | ⟨habs, h | h⟩
  · rw [h, habs, if_pos rfl, ← hsteps]
    rfl
  · rw [h, habs, if_neg Bool.false_ne_true, ← hsteps]
  · rw [h, habs, if_neg Bool.false_ne_true, ← hsteps]
    rfl

/-! ## The stack of components -/

/-- One round of the loop of `normalize_path`. -/
def normalizeStep (absolute : Bool) (out segment : String) : String :=
  if segment = "" then join out "/"
  else if segment = "." then out
  else if segment = ".." then
    match parent out with
    | some parent => parent
    | none => if absolute then out else join out ".."
  else join out segment

def startOf (absolute : Bool) : List String :=
  if absolute then [""] else []

def stack (absolute : Bool) (found : Nat × List String) : List String :=
  List.replicate (if absolute then 0 else found.1 % 2) ".." ++ found.2

lemma startOf_cases (absolute : Bool) : startOf absolute = [] ∨ startOf absolute = [""] := by
  cases absolute <;> simp [startOf]

lemma isPlain_up : IsPlain ".." :=
  ⟨by decide, by decide⟩

lemma isPlain_stack (absolute : Bool) (h : Names found.2) :
    ∀ x ∈ stack absolute found, IsPlain x := by
  intro x hx
  rcases List.mem_append.mp hx with hup | hname
  · rw [List.eq_of_mem_replicate hup]
    exact isPlain_up
  · exact (h x hname).1

lemma normalizeStep_stack (h : Names found.2) (hsegment : IsPlain segment) :
    normalizeStep absolute (ofSegments (startOf absolute) (stack absolute found)) segment =
      ofSegments (startOf absolute) (stack absolute (reduceStep found segment)) := by
  have hstart := startOf_cases absolute
  have hplain := isPlain_stack absolute h
  rw [normalizeStep, if_neg hsegment.ne_empty, if_neg hsegment.ne_dot]
  obtain ⟨n, names⟩ := found
  by_cases hup : segment = ".."
  · rw [if_pos hup, reduceStep, if_pos hup]
    rcases List.eq_nil_or_concat' names with rfl | ⟨init, y, rfl⟩
    · -- A `..` stays on an empty stack of a relative path, and the next one takes it away.
      rw [if_pos rfl]
      cases absolute with
      | true =>
        have hempty (m : Nat) : stack true (m, []) = [] := rfl
        rw [hempty, hempty, parent_ofSegments_nil hstart]
        rfl
      | false =>
        rcases Nat.mod_two_eq_zero_or_one n with heven | hodd
        · have hempty : stack false (n, []) = [] := by simp [stack, heven]
          have hsingle : stack false (n + 1, []) = [] ++ [".."] := by
            simp [stack, Nat.add_mod, heven]
          rw [hempty, parent_ofSegments_nil hstart, hsingle]
          exact join_ofSegments hstart (List.forall_mem_nil _) isPlain_up
        · have hsingle : stack false (n, []) = [] ++ [".."] := by simp [stack, hodd]
          have hempty : stack false (n + 1, []) = [] := by simp [stack, Nat.add_mod, hodd]
          rw [hsingle] at hplain ⊢
          rw [parent_ofSegments_concat hstart hplain, hempty]
    · have hconcat : stack absolute (n, init ++ [y]) = stack absolute (n, init) ++ [y] :=
        (List.append_assoc _ _ _).symm
      rw [hconcat] at hplain ⊢
      have hne : init ++ [y] ≠ [] := by simp
      rw [parent_ofSegments_concat hstart hplain, List.dropLast_concat]
      simp only [if_neg hne]
  · rw [if_neg hup, join_ofSegments hstart hplain hsegment, reduceStep, if_neg hup, stack, stack,
      List.append_assoc]

lemma ofSegments_eq_empty_iff (h : ∀ x ∈ parts, IsPlain x) :
    ofSegments (startOf absolute) parts = "" ↔ absolute = false ∧ parts = [] := by
  constructor
  · intro hempty
    have hsteps := steps_ofSegments (startOf_cases absolute) h
    rw [hempty] at hsteps
    cases absolute with
    | true =>
      have habs : isAbsolute (ofSegments (startOf true) parts) = true := isAbsolute_ofSegments parts
      rw [hempty] at habs
      exact absurd habs (by decide)
    | false => exact ⟨rfl, hsteps.symm⟩
  · rintro ⟨rfl, rfl⟩
    rfl

/-- The path with the given components. -/
def ofParts (absolute : Bool) (parts : List String) : String :=
  if absolute = false ∧ parts = [] then "." else ofSegments (startOf absolute) parts

lemma normalizePath_eq (path : String) :
    normalizePath path = ofParts (isAbsolute path) (stack (isAbsolute path) (reduce path)) := by
  have hout : (components path).foldl (normalizeStep (isAbsolute path)) "" =
      ofSegments (startOf (isAbsolute path)) (stack (isAbsolute path) (reduce path)) := by
    obtain ⟨-, hcases⟩ := components_cases path
    have hfold := foldl_steps
      (g := fun found => ofSegments (startOf (isAbsolute path)) (stack (isAbsolute path) found))
      (fun _ _ => normalizeStep_stack) path
    rw [← hfold]
    rcases hcases with ⟨habs, h⟩ | ⟨habs, h | h⟩
    all_goals
      rw [h, habs]
      rfl
  have hdef : normalizePath path =
      let out := (components path).foldl (normalizeStep (isAbsolute path)) ""
      if out = "" then (if isAbsolute path then "/" else ".") else out := rfl
  rw [hdef, hout, ofParts]
  simp only [ofSegments_eq_empty_iff (isPlain_stack _ (names_reduce path))]
  split_ifs with hempty habs
  · exact absurd habs (by simp [hempty.1])
  · rfl
  · rfl

lemma isAbsolute_ofParts (h : ∀ x ∈ parts, IsPlain x) :
    isAbsolute (ofParts absolute parts) = absolute := by
  unfold ofParts
  split
  · rename_i hnil
    rw [hnil.1]
    decide
  · cases absolute with
    | true => exact isAbsolute_ofSegments parts
    | false =>
      refine Bool.eq_false_iff.mpr fun habs => ?_
      have hbody := body_of_isAbsolute habs
      rw [body_ofSegments (startOf_cases false) h] at hbody
      cases hbody

lemma steps_ofParts (h : ∀ x ∈ parts, IsPlain x) : steps (ofParts absolute parts) = parts := by
  unfold ofParts
  split
  · rename_i hnil
    rw [hnil.2]
    decide
  · exact steps_ofSegments (startOf_cases absolute) h

/-! ## Normalised paths -/

lemma reduce_of_steps {path : String} {n : Nat} {names : List String} (hn : n ≤ 1)
    (h : steps path = List.replicate n ".." ++ names) (hnames : Names names) :
    reduce path = (n, names) := by
  have hdown : ∀ rest init : List String, Names rest →
      rest.foldl reduceStep (n, init) = (n, init ++ rest) := by
    intro rest
    induction rest with
    | nil => simp
    | cons segment rest ih =>
      intro init hrest
      obtain ⟨hsegment, hrest⟩ := List.forall_mem_cons.mp hrest
      have hstep : reduceStep (n, init) segment = (n, init ++ [segment]) := if_neg hsegment.2
      rw [List.foldl_cons, hstep, ih _ hrest, List.append_assoc, List.singleton_append]
  have hup : (List.replicate n "..").foldl reduceStep (0, []) = (n, []) := by
    obtain rfl | rfl : n = 0 ∨ n = 1 := by omega
    · rfl
    · rfl
  rw [reduce, h, List.foldl_append, hup, hdown _ _ hnames, List.nil_append]

lemma reduce_normalizePath (path : String) :
    isAbsolute (normalizePath path) = isAbsolute path ∧
      reduce (normalizePath path) =
        (if isAbsolute path then 0 else (reduce path).1 % 2, (reduce path).2) := by
  have hplain := isPlain_stack (isAbsolute path) (names_reduce path)
  rw [normalizePath_eq]
  refine ⟨isAbsolute_ofParts hplain, reduce_of_steps ?_ ?_ (names_reduce path)⟩
  · split <;> omega
  · rw [steps_ofParts hplain, stack]

def Normal (path : String) : Prop :=
  path = "." ∨ ∃ start n names, components path = start ++ (List.replicate n ".." ++ names) ∧
    (start = [] ∨ start = [""]) ∧ "." ∉ names ∧ ".." ∉ names

lemma normal_normalizePath (path : String) : Normal (normalizePath path) := by
  have hnames := names_reduce path
  rw [normalizePath_eq, ofParts]
  split
  · exact .inl rfl
  · exact .inr ⟨_, _, _, components_ofSegments (startOf_cases _) (isPlain_stack _ hnames),
      startOf_cases _, fun hdot => (hnames _ hdot).1.ne_dot rfl, fun hup => (hnames _ hup).2 rfl⟩

/-- Normalised paths lead where the path does if that leads up by at most one directory. -/
theorem normalizePath_spec (path : String) :
    ((∀ base, climbs path ≤ base.length →
        follow base (normalizePath path) = follow base path) ↔
      isAbsolute path = true ∨ climbs path ≤ 1) ∧
    Normal (normalizePath path) ∧ normalizePath (normalizePath path) = normalizePath path := by
  obtain ⟨habs, hreduce⟩ := reduce_normalizePath path
  refine ⟨⟨fun h => ?_, fun h base _ => ?_⟩, normal_normalizePath path, ?_⟩
  · by_cases hpath : isAbsolute path = true
    · exact .inl hpath
    -- A base that the path leads up to the root of.
    · have hsame := h (List.replicate (climbs path) "") (by simp)
      rw [follow_eq, follow_eq, habs, hreduce, if_neg hpath, if_neg hpath] at hsame
      have hlength := congrArg List.length hsame
      simp only [List.length_append, List.rdrop, List.length_take, List.length_replicate,
        climbs] at hlength
      exact .inr (by unfold climbs; omega)
  · rw [follow_eq, follow_eq, habs, hreduce]
    by_cases hpath : isAbsolute path = true
    · simp [hpath]
    · have hone : (reduce path).1 ≤ 1 := h.resolve_left hpath
      rw [if_neg hpath, if_neg hpath, Nat.mod_eq_of_lt (Nat.lt_succ_of_le hone)]
  · rw [normalizePath_eq (normalizePath path), habs, hreduce, normalizePath_eq path]
    cases isAbsolute path <;> simp [stack]

/-- From `/x/y`, the path `../../a` leads to `/a` and its normal form to `/x/y/a`. -/
theorem normalizePath_two_up :
    normalizePath "../../a" = "a" ∧ follow ["x", "y"] "../../a" = ["a"] ∧
      follow ["x", "y"] (normalizePath "../../a") = ["x", "y", "a"] := by
  decide

end Workspaces
end Ax
