import Ax.Foundation.Text

/-!
# Words, lines and numbers

Taking texts apart as the Rust standard library does: `str::split_whitespace`, `str::lines`,
`str::strip_prefix` and `str::parse` of unsigned numbers, and the decimal form of natural
numbers.

Main results:

- Theorem `linesOf_intercalate`: the lines of a text that was put together from lines.
- Theorem `parseNat_repr`: numbers are read back up to their bound.
-/

namespace Ax.Text

/-! ## Words -/

/-- `str::split_whitespace`, on characters. -/
def wordsOf (cs : List Char) : List (List Char) :=
  (cs.splitOnP isWhitespace).filter (· ≠ [])

/-- `str::split_whitespace`. -/
def words (s : String) : List String :=
  (wordsOf s.toList).map String.ofList

@[simp]
lemma wordsOf_nil : wordsOf [] = [] := by
  simp [wordsOf]

variable {c : Char} {cs l : List Char} {ls : List (List Char)}

lemma wordsOf_append_cons (hc : isWhitespace c = true) (x y : List Char) :
    wordsOf (x ++ c :: y) = wordsOf x ++ wordsOf y := by
  rw [wordsOf, List.splitOnP_append_cons x y hc, List.filter_append]
  rfl

lemma wordsOf_cons (hc : isWhitespace c = true) (cs : List Char) :
    wordsOf (c :: cs) = wordsOf cs := by
  simpa using wordsOf_append_cons hc [] cs

lemma wordsOf_dropWhile (cs : List Char) : wordsOf (cs.dropWhile isWhitespace) = wordsOf cs := by
  induction cs with
  | nil => rfl
  | cons c cs ih =>
    by_cases hc : isWhitespace c = true
    · rw [List.dropWhile_cons_of_pos hc, ih, wordsOf_cons hc]
    · rw [List.dropWhile_cons_of_neg hc]

lemma wordsOf_of_forall (hne : cs ≠ []) (h : ∀ c ∈ cs, isWhitespace c = false) :
    wordsOf cs = [cs] := by
  rw [wordsOf, List.splitOnP_eq_singleton h, List.filter_cons_of_pos (by simpa using hne),
    List.filter_nil]

lemma eq_false_of_mem_splitOnP {p : Char → Bool} {w : List Char} (h : w ∈ cs.splitOnP p) :
    ∀ c ∈ w, p c = false := by
  induction cs generalizing w with
  | nil =>
    rw [List.splitOnP_nil, List.mem_singleton] at h
    simp [h]
  | cons x xs ih =>
    rw [List.splitOnP_cons_eq_if_modifyHead] at h
    split at h
    · rcases List.mem_cons.mp h with rfl | h
      · simp
      · exact ih h
    · rename_i hx
      obtain ⟨r, rs, hr⟩ := List.exists_cons_of_ne_nil (List.splitOnP_ne_nil p xs)
      rw [hr, List.modifyHead_cons] at h
      rcases List.mem_cons.mp h with rfl | h
      · exact List.forall_mem_cons.mpr ⟨by simpa using hx, ih (hr ▸ List.mem_cons_self)⟩
      · exact ih (hr ▸ List.mem_cons_of_mem r h)

lemma isWhitespace_of_mem_wordsOf {w : List Char} (h : w ∈ wordsOf cs) :
    ∀ c ∈ w, isWhitespace c = false :=
  eq_false_of_mem_splitOnP (List.mem_filter.mp h).1

lemma wordsOf_eq_self_iff (hne : cs ≠ []) :
    wordsOf cs = [cs] ↔ ∀ c ∈ cs, isWhitespace c = false := by
  constructor
  · intro h
    exact isWhitespace_of_mem_wordsOf (h ▸ List.mem_singleton_self cs)
  · exact wordsOf_of_forall hne

/-! ## Lines -/

def stripReturn (line : List Char) : List Char :=
  if line.getLast? = some '\r' then line.dropLast else line

/-- `str::lines`, on characters: a last line without an end of line is taken as it is. -/
def linesOf (cs : List Char) : List (List Char) :=
  let pieces := cs.splitOn '\n'
  let last := pieces.getLast?.getD []
  pieces.dropLast.map stripReturn ++ if last = [] then [] else [last]

/-- The lines of a text that was put together from lines without line ends. -/
theorem linesOf_intercalate (hne : ls ≠ []) (hnewline : ∀ l ∈ ls, '\n' ∉ l)
    (hreturn : ∀ l ∈ ls, l.getLast? ≠ some '\r') (hlast : ∀ l ∈ ls, l ≠ []) :
    linesOf (['\n'].intercalate ls) = ls := by
  unfold linesOf
  dsimp only
  rw [List.splitOn_intercalate '\n' hnewline hne, List.getLast?_eq_some_getLast hne,
    Option.getD_some, if_neg (hlast _ (List.getLast_mem hne))]
  have hstrip : ls.dropLast.map stripReturn = ls.dropLast := by
    rw [List.map_congr_left (g := id), List.map_id]
    intro l hl
    exact if_neg (hreturn l (List.mem_of_mem_dropLast hl))
  rw [hstrip, List.dropLast_append_getLast hne]

def Ended (l : List Char) : Prop :=
  ∃ front last, l = front ++ [last] ∧ isWhitespace last = false

lemma dropWhile_append_of_ended (h : Ended l) (rest : List Char) :
    (l ++ rest).dropWhile isWhitespace = l.dropWhile isWhitespace ++ rest := by
  obtain ⟨front, last, rfl, hlast⟩ := h
  have hne : (front ++ [last]).dropWhile isWhitespace ≠ [] := by
    rw [Ne, List.dropWhile_eq_nil_iff]
    intro hall
    simpa [hlast] using hall last (by simp)
  rw [List.dropWhile_append, if_neg (by simpa using hne)]

lemma Ended.dropWhile (h : Ended l) : Ended (l.dropWhile isWhitespace) := by
  obtain ⟨front, last, rfl, hlast⟩ := h
  by_cases hall : ∀ c ∈ front, isWhitespace c = true
  · refine ⟨[], last, ?_, hlast⟩
    rw [List.dropWhile_append_of_pos hall]
    simp [hlast]
  · refine ⟨front.dropWhile isWhitespace, last, ?_, hlast⟩
    rw [List.dropWhile_append, if_neg]
    simpa using hall

lemma Ended.append (h : Ended l) (front : List Char) : Ended (front ++ l) := by
  obtain ⟨init, last, rfl, hlast⟩ := h
  exact ⟨front ++ init, last, (List.append_assoc _ _ _).symm, hlast⟩

lemma Ended.rdropWhile (h : Ended l) : l.rdropWhile isWhitespace = l := by
  obtain ⟨init, last, rfl, hlast⟩ := h
  exact List.rdropWhile_concat_neg _ _ _ (by simp [hlast])

lemma intercalate_cons_eq (l : List Char) (ls : List (List Char)) :
    ['\n'].intercalate (l :: ls) = l ++ ls.flatMap ('\n' :: ·) := by
  induction ls generalizing l with
  | nil => simp
  | cons other ls ih => simp [List.intercalate_cons_cons, ih other]

lemma intercalate_append_newline (l : List Char) (ls : List (List Char)) :
    ['\n'].intercalate (l :: ls) ++ ['\n'] = (l :: ls).flatMap (· ++ ['\n']) := by
  induction ls generalizing l with
  | nil => simp
  | cons other ls ih =>
    rw [List.flatMap_cons, ← ih other, List.intercalate_cons_cons]
    simp

lemma ended_intercalate (h : ∀ line ∈ l :: ls, Ended line) :
    Ended (['\n'].intercalate (l :: ls)) := by
  induction ls generalizing l with
  | nil => simpa using h l
  | cons other ls ih =>
    rw [List.intercalate_cons_cons]
    exact (ih fun line hline => h line (List.mem_cons_of_mem _ hline)).append _

lemma linesOf_trimChars (hended : ∀ line ∈ l :: ls, Ended line)
    (hnewline : ∀ line ∈ l :: ls, '\n' ∉ line) :
    linesOf (trimChars ((l :: ls).flatMap (· ++ ['\n']))) =
      l.dropWhile isWhitespace :: ls := by
  have hl : Ended l := hended l List.mem_cons_self
  have hended' : ∀ line ∈ l.dropWhile isWhitespace :: ls, Ended line := by
    rintro line (_ | ⟨_, hline⟩)
    · exact hl.dropWhile
    · exact hended line (List.mem_cons_of_mem _ hline)
  have htrim : trimChars ((l :: ls).flatMap (· ++ ['\n'])) =
      ['\n'].intercalate (l.dropWhile isWhitespace :: ls) := by
    rw [trimChars, ← intercalate_append_newline, intercalate_cons_eq, List.append_assoc,
      dropWhile_append_of_ended hl, ← List.append_assoc, ← intercalate_cons_eq,
      List.rdropWhile_concat_pos _ _ _ (by decide), (ended_intercalate hended').rdropWhile]
  rw [htrim]
  refine linesOf_intercalate (List.cons_ne_nil _ _) ?_ ?_ ?_
  · rintro line (_ | ⟨_, hline⟩)
    · exact fun h => hnewline l List.mem_cons_self ((List.dropWhile_suffix _).subset h)
    · exact hnewline line (List.mem_cons_of_mem _ hline)
  · intro line hline hreturn
    obtain ⟨init, last, rfl, hlast⟩ := hended' line hline
    rw [List.getLast?_concat] at hreturn
    obtain rfl := Option.some.inj hreturn
    exact absurd hlast (by decide)
  · intro line hline hnil
    obtain ⟨init, last, rfl, -⟩ := hended' line hline
    exact absurd hnil (by simp)

/-! ## Beginnings -/

/-- `str::strip_prefix`. -/
def stripStart (start s : String) : Option String :=
  if start.toList.isPrefixOf s.toList then some (String.ofList (s.toList.drop start.length))
  else none

lemma stripStart_append (start rest : String) : stripStart start (start ++ rest) = some rest := by
  have hpre : start.toList.isPrefixOf (start.toList ++ rest.toList) = true :=
    List.isPrefixOf_iff_prefix.mpr (List.prefix_append _ _)
  rw [stripStart, String.toList_append, if_pos hpre, ← String.length_toList,
    List.drop_left, String.ofList_toList]

/-! ## Numbers -/

/-- `str::parse` of unsigned numbers below a bound. -/
def parseNat (bound : Nat) (s : String) : Option Nat :=
  let digits := if s.toList.head? = some '+' then s.toList.tail else s.toList
  if digits ≠ [] ∧ digits.all Char.isDigit then
    let n := Nat.ofDigitChars 10 digits 0
    if n < bound then some n else none
  else none

lemma eq_of_repr_eq {m n : Nat} (h : Nat.repr m = Nat.repr n) : m = n := by
  have hdigits := congrArg String.toList h
  rw [Nat.toList_repr, Nat.toList_repr] at hdigits
  have hvalue := congrArg (Nat.ofDigitChars 10 · 0) hdigits
  simpa using hvalue

lemma isDigit_of_mem_repr {n : Nat} (h : c ∈ (Nat.repr n).toList) : c.isDigit = true := by
  rw [Nat.toList_repr] at h
  exact Nat.isDigit_of_mem_toDigits (by decide) (by decide) h

lemma isWhitespace_of_isDigit (h : c.isDigit = true) : isWhitespace c = false := by
  simp only [Char.isDigit, Bool.and_eq_true, decide_eq_true_eq, ge_iff_le,
    UInt32.le_iff_toNat_le] at h
  have hlow : 48 ≤ c.toNat := h.1
  have hhigh : c.toNat ≤ 57 := h.2
  unfold isWhitespace
  simp only [Bool.or_eq_false_iff, Bool.and_eq_false_iff, decide_eq_false_iff_not]
  omega

lemma wordsOf_repr (n : Nat) : wordsOf (Nat.repr n).toList = [(Nat.repr n).toList] := by
  refine wordsOf_of_forall ?_ fun c hc => isWhitespace_of_isDigit (isDigit_of_mem_repr hc)
  rw [Nat.toList_repr]
  exact Nat.toDigits_ne_nil

/-- Numbers are read back up to their bound. -/
theorem parseNat_repr (bound n : Nat) :
    parseNat bound (Nat.repr n) = if n < bound then some n else none := by
  have hsign : (Nat.repr n).toList.head? ≠ some '+' := by
    intro h
    exact absurd (isDigit_of_mem_repr (List.mem_of_head? h)) (by decide)
  have hdigits : (Nat.repr n).toList.all Char.isDigit = true :=
    List.all_eq_true.mpr fun c hc => isDigit_of_mem_repr hc
  have hne : (Nat.repr n).toList ≠ [] := by
    rw [Nat.toList_repr]
    exact Nat.toDigits_ne_nil
  simp only [parseNat, if_neg hsign, if_pos (And.intro hne hdigits)]
  rw [Nat.toList_repr, Nat.ofDigitChars_ten_toDigits]

end Ax.Text
