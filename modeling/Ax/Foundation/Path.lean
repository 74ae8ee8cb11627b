import Ax.Foundation.Text

/-!
# Unix paths

Path operations with the conventions of the Rust standard library on Unix, on
paths that are valid text.  A path is its string; the operations work on its
segments between separators.  Empty segments and inner segments `.` do not
count as components, a leading `.` does.
-/

namespace Ax.Path

/-- `Path::is_absolute`. -/
def isAbsolute (path : String) : Bool :=
  path.toList.head? = some '/'

/-- `Path::join`: an absolute second path replaces the first. -/
def join (path other : String) : String :=
  if isAbsolute other then other
  else if path.toList.getLast? = none ∨ path.toList.getLast? = some '/' then path ++ other
  else path ++ "/" ++ other

def segments (path : String) : List String :=
  (path.toList.splitOn '/').map String.ofList

def isFiller (segment : String) : Bool :=
  segment = "" || segment = "."

/-- A path as what it starts with (the root, a leading `.`, or nothing) and the
segments after it, cut behind the last component. -/
def body (path : String) : List String × List String :=
  match segments path with
  | [] => ([], [])
  | first :: rest =>
    if isAbsolute path then ([""], rest.rdropWhile isFiller)
    else if first = "." then (["."], rest.rdropWhile isFiller)
    else ([], (first :: rest).rdropWhile isFiller)

def ofSegments (start rest : List String) : String :=
  if start = [""] ∧ rest = [] then "/"
  else "/".intercalate (start ++ rest)

/-- `Path::parent`. -/
def parent (path : String) : Option String :=
  match body path with
  | (start, []) => if start = ["."] then some "" else none
  | (start, rest) => some (ofSegments start (rest.dropLast.rdropWhile isFiller))

/-- `Path::file_name`. -/
def fileName (path : String) : Option String :=
  match (body path).2.getLast? with
  | none => none
  | some last => if last = ".." then none else some last

/-- `Path::components`, which decide whether two paths are equal: repeated separators and
inner segments `.` do not count, segments `..` do. -/
def components (path : String) : List String :=
  (body path).1 ++ (body path).2.filter fun segment => !isFiller segment

/-- The names that a path goes through. -/
def names (path : String) : List String :=
  (segments path).filter fun segment => !isFiller segment

/-- A relative path that never climbs. -/
def Descends (path : String) : Prop :=
  isAbsolute path = false ∧ ".." ∉ segments path

instance (path : String) : Decidable (Descends path) :=
  inferInstanceAs (Decidable (_ ∧ _))

example : parent "/a//b/./c" = some "/a//b" ∧ parent "/a" = some "/" ∧ parent "/" = none := by
  decide

example : components "/a//b/./c" = components "/a/b/c" ∧
    components "/a/x/../b" ≠ components "/a/b" := by
  decide

lemma segments_of_notMem {name : String} (hslash : '/' ∉ name.toList) : segments name = [name] := by
  have hsplit : name.toList.splitOn '/' = [name.toList] :=
    List.splitOnP_eq_singleton fun c hc => beq_false_of_ne fun heq => hslash (heq ▸ hc)
  rw [segments, hsplit]
  simp

lemma isAbsolute_of_notMem {name : String} (hslash : '/' ∉ name.toList) :
    isAbsolute name = false := by
  refine decide_eq_false fun hhead => hslash ?_
  exact List.mem_of_mem_head? hhead

lemma descends_of_notMem {name : String} (hslash : '/' ∉ name.toList) (hname : name ≠ "..") :
    Descends name := by
  refine ⟨isAbsolute_of_notMem hslash, ?_⟩
  rw [segments_of_notMem hslash]
  simpa using hname.symm

lemma names_of_notMem {name : String} (hslash : '/' ∉ name.toList)
    (hname : isFiller name = false) : names name = [name] := by
  rw [names, segments_of_notMem hslash]
  simp [hname]

lemma segments_append_slash (x y : String) :
    segments (x ++ "/" ++ y) = segments x ++ segments y := by
  have hsplit : (x.toList ++ '/' :: y.toList).splitOn '/' =
      x.toList.splitOn '/' ++ y.toList.splitOn '/' :=
    List.splitOnP_append_cons x.toList y.toList (by simp)
  have hlist : (x ++ "/" ++ y).toList = x.toList ++ '/' :: y.toList := by simp
  rw [segments, hlist, hsplit, List.map_append]
  rfl

lemma names_append_slash (x y : String) : names (x ++ "/" ++ y) = names x ++ names y := by
  rw [names, segments_append_slash, List.filter_append]
  rfl

/-- The names of a relative path come after those of the directory that it is joined to. -/
theorem names_join {path : String} (dir : String) (hrelative : isAbsolute path = false) :
    names (join dir path) = names dir ++ names path := by
  rw [join, hrelative, if_neg Bool.false_ne_true]
  split
  · rename_i hend
    rcases hend with hnil | hlast
    · have hdir : dir = "" := String.toList_injective (List.getLast?_eq_none_iff.mp hnil)
      simp [hdir, names, segments, isFiller]
    · -- The directory ends with its own separator.
      obtain ⟨cs, hcs⟩ := List.getLast?_eq_some_iff.mp hlast
      have hdir : dir = String.ofList cs ++ "/" ++ "" := by
        apply String.toList_injective
        simpa using hcs
      have hnone : names "" = [] := by decide
      rw [hdir, String.append_empty, names_append_slash, ← String.append_empty (s := _ ++ "/"),
        names_append_slash, hnone, List.append_nil]
  · exact names_append_slash dir path

end Ax.Path
