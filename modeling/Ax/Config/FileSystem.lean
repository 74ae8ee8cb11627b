import Ax.Foundation.FileTree
import Ax.Config.Local

/-!
# Configuration files in a file system

A file system without symbolic links, with a working directory and a home directory, as
the loaders see it.

Main results:

- Definition `FileSystem.disk`: what the loaders see of a file system.
-/

namespace Ax

namespace Path

lemma eq_empty_of_segments {path : String} {rest : List String}
    (h : segments path = "" :: rest) (hrelative : isAbsolute path = false) : path = "" := by
  apply String.toList_inj.mp
  unfold segments at h
  unfold isAbsolute at hrelative
  cases hlist : path.toList with
  | nil => rfl
  | cons c cs =>
    rw [hlist] at h hrelative
    have hc : c ≠ '/' := by simpa using hrelative
    rw [List.splitOn, List.splitOnP_cons_eq_if_modifyHead, if_neg (by simpa using hc)] at h
    cases hsplit : List.splitOnP (fun x => x == '/') cs with
    | nil => simp [hsplit] at h
    | cons first others =>
      simp only [hsplit, List.modifyHead_cons, List.map_cons, List.cons.injEq] at h
      have hfirst := congrArg String.toList h.1
      simp at hfirst

lemma isFiller_of_parent {path : String} (h : parent path = none) (hne : path ≠ "") :
    isAbsolute path = true ∧ ∀ segment ∈ segments path, isFiller segment = true := by
  have hbody : (body path).2 = [] ∧ (body path).1 ≠ ["."] := by
    unfold parent at h
    split at h
    · rename_i start hbody
      rw [hbody]
      refine ⟨rfl, ?_⟩
      rintro rfl
      cases h
    · cases h
  obtain ⟨hrest, hstart⟩ := hbody
  cases hsegments : segments path with
  | nil => simp [segments, List.splitOn] at hsegments
  | cons first rest =>
    unfold body at hrest hstart
    rw [hsegments] at hrest hstart
    dsimp only at hrest hstart
    split at hrest
    · rename_i habs
      have hfirst : first = "" := by
        have hhead : path.toList.head? = some '/' := by simpa [isAbsolute] using habs
        unfold segments at hsegments
        cases hlist : path.toList with
        | nil => simp [hlist] at hhead
        | cons c cs =>
          rw [hlist] at hsegments hhead
          obtain rfl : c = '/' := by simpa using hhead
          rw [List.splitOn, List.splitOnP_cons_eq_if_modifyHead, if_pos (by simp)] at hsegments
          simp only [List.map_cons, List.cons.injEq] at hsegments
          exact hsegments.1.symm
      refine ⟨habs, ?_⟩
      rintro segment hsegment
      rcases List.mem_cons.mp hsegment with rfl | hsegment
      · rw [hfirst]
        rfl
      · exact List.rdropWhile_eq_nil_iff.mp hrest segment hsegment
    · rename_i habs
      rw [if_neg habs] at hstart
      split at hrest
      · rename_i hdot
        rw [if_pos hdot] at hstart
        exact absurd rfl hstart
      · rename_i hdot
        have hfirst := List.rdropWhile_eq_nil_iff.mp hrest first List.mem_cons_self
        have hempty : first = "" := by simpa [isFiller, hdot] using hfirst
        subst hempty
        exact absurd (eq_empty_of_segments hsegments (by simpa using habs)) hne

end Path

namespace Config

structure FileSystem where
  entries : List (String × FileTree (Except String Json))
  currentDir : Except IoError String
  home : Option String
  isAbsolute_currentDir : ∀ dir, currentDir = .ok dir → Path.isAbsolute dir = true

namespace FileSystem

def root (fs : FileSystem) : FileTree (Except String Json) :=
  .dir fs.entries

def locate (fs : FileSystem) (path : String) : Except PathError (List String) :=
  if path = "" then .error .notFound
  else if Path.isAbsolute path then fs.root.followAll [] (Path.segments path)
  else
    match fs.currentDir with
    | .error _ => .error .notFound
    | .ok cwd => fs.root.followAll [] (Path.segments cwd ++ Path.segments path)

def read (fs : FileSystem) (path : String) : Except IoError (Except String Json) :=
  match fs.locate path with
  | .error .notFound => .error ⟨.notFound, "No such file or directory (os error 2)"⟩
  | .error .notADirectory => .error ⟨.other, "Not a directory (os error 20)"⟩
  | .ok location =>
    match fs.root.node? location with
    | some (.file document) => .ok document
    | some (.dir _) => .error ⟨.other, "Is a directory (os error 21)"⟩
    | none => .error ⟨.notFound, "No such file or directory (os error 2)"⟩

def isFile (fs : FileSystem) (path : String) : Bool :=
  match fs.locate path with
  | .error _ => false
  | .ok location =>
    match fs.root.node? location with
    | some (.file _) => true
    | _ => false

lemma read_of_parent (fs : FileSystem) (path : String) (h : Path.parent path = none) :
    ∃ e, fs.read path = .error e := by
  by_cases hne : path = ""
  · subst hne
    exact ⟨_, rfl⟩
  · obtain ⟨habs, hfiller⟩ := Path.isFiller_of_parent h hne
    have hlocate : fs.locate path = .ok [] := by
      rw [locate, if_neg hne, if_pos habs]
      exact FileTree.followAll_of_isFiller rfl hfiller
    rw [read, hlocate]
    exact ⟨_, rfl⟩

def disk (fs : FileSystem) : Disk where
  read := fs.read
  isFile := fs.isFile
  currentDir := fs.currentDir
  home := fs.home
  isAbsolute_currentDir := fs.isAbsolute_currentDir
  unreadable := fs.read_of_parent

def project (name : String) (cfg : Config) (rest : List (String × FileTree (Except String Json))) :
    String × FileTree (Except String Json) :=
  (name, .dir ((defaultConfigDir,
    .dir [(defaultConfigFile, .file (.ok (configCodec.encode cfg)))]) :: rest))

lemma isAbsolute_root (dir : String)
    (h : (.ok "/" : Except IoError String) = .ok dir) : Path.isAbsolute dir = true := by
  cases h
  rfl

def ofEntries (home : Option String) (entries : List (String × FileTree (Except String Json))) :
    FileSystem where
  entries := entries
  currentDir := .ok "/"
  home := home
  isAbsolute_currentDir := isAbsolute_root

end FileSystem
end Config
end Ax
