import Ax.Foundation.Text

/-!
# Regular expressions with leftmost-first matching

A small matcher for the regular expressions of the modelled program.  The
results of matching at one position are listed in order of preference, as a
backtracking engine visits them, so the first result of the leftmost matching
position is the match such an engine reports.

Main results:

- Theorem `head?_matches?_star`: a repetition prefers the longest match.
- Theorem `capture_eq_some`: the capture at the first position with a match.
-/

namespace Ax

/-- A position in a text: the character before it and the characters after it. -/
structure Cursor where
  prev : Option Char
  rest : List Char
deriving DecidableEq

/-- Regular expressions over Unicode characters. -/
inductive Regex
  | empty
  | char (p : Char → Bool)
  | seq (a b : Regex)
  | alt (a b : Regex)
  | star (a : Regex)
  | wordBoundary
  | textStart

namespace Regex

/-- Greedy repetition of `f`, which must consume at least one character in
every round; `fuel` bounds the number of rounds. -/
def repeatGreedy (f : Cursor → List Cursor) : Nat → Cursor → List Cursor
  | 0, c => [c]
  | fuel + 1, c =>
    ((f c).filter fun d => d.rest.length < c.rest.length).flatMap
      (repeatGreedy f fuel) ++ [c]

/-- The word-boundary assertion `\b`. -/
def atWordBoundary (u : Unicode) (c : Cursor) : Bool :=
  let before := c.prev.any u.isWord
  let after := c.rest.head?.any u.isWord
  before != after

def matches? (u : Unicode) : Regex → Cursor → List Cursor
  | empty, c => [c]
  | char p, c =>
    match c.rest with
    | [] => []
    | x :: xs => if p x then [⟨some x, xs⟩] else []
  | seq a b, c => (matches? u a c).flatMap (matches? u b)
  | alt a b, c => matches? u a c ++ matches? u b c
  | star a, c => repeatGreedy (matches? u a) c.rest.length c
  | wordBoundary, c => if atWordBoundary u c then [c] else []
  | textStart, c => if c.prev.isNone then [c] else []

def positions : Option Char → List Char → List Cursor
  | prev, [] => [⟨prev, []⟩]
  | prev, x :: xs => ⟨prev, x :: xs⟩ :: positions (some x) xs

/-- `Regex::is_match`. -/
def isMatch (u : Unicode) (r : Regex) (text : String) : Bool :=
  (positions none text.toList).any fun c => !(matches? u r c).isEmpty

/-- The group `body` of the leftmost match of `before` followed by `body`. -/
def capture (u : Unicode) (before body : Regex) (text : String) : Option String :=
  (positions none text.toList).findSome? fun c =>
    (matches? u before c).findSome? fun d =>
      (matches? u body d).head?.map fun e =>
        String.ofList (d.rest.take (d.rest.length - e.rest.length))

/-! ## Abbreviations for the usual pattern elements -/

/-- The expression that matches the given expressions one after the other. -/
def concat : List Regex → Regex
  | [] => empty
  | r :: rs => seq r (concat rs)

/-- The alternation of the given expressions, the first one preferred. -/
def oneOf : List Regex → Regex
  | [] => char fun _ => false
  | [r] => r
  | r :: rs => alt r (oneOf rs)

/-- One or more repetitions, greedy. -/
def plus (r : Regex) : Regex :=
  seq r (star r)

/-- Exactly `n` repetitions. -/
def times (n : Nat) (r : Regex) : Regex :=
  concat (List.replicate n r)

/-- At most `n` repetitions, as many as possible. -/
def upTo : Nat → Regex → Regex
  | 0, _ => empty
  | n + 1, r => alt (seq r (upTo n r)) empty

/-- A literal text. -/
def lit (s : String) : Regex :=
  concat (s.toList.map fun c => char fun d => d = c)

/-- Equality of characters up to simple case folding, for an ASCII pattern
character.  Only `k` and `s` have partners outside ASCII. -/
def foldEq (c d : Char) : Bool :=
  d.toLower = c.toLower || (c.toLower = 'k' && d.toNat = 0x212A) ||
    (c.toLower = 's' && d.toNat = 0x17F)

/-- A literal text under the flag `(?i)`. -/
def litFold (s : String) : Regex :=
  concat (s.toList.map fun c => char (foldEq c))

/-! ## Sequences of character classes -/

/-- The text starts with characters of the given classes. -/
def accepts : List (Char → Bool) → List Char → Bool
  | [], _ => true
  | _ :: _, [] => false
  | p :: ps, x :: xs => p x && accepts ps xs

lemma accepts_append {ps : List (Char → Bool)} {cs : List Char} (h : ps.length ≤ cs.length)
    (rest : List Char) : accepts ps (cs ++ rest) = accepts ps cs := by
  induction ps generalizing cs with
  | nil => simp [accepts]
  | cons p ps ih =>
    cases cs with
    | nil => simp at h
    | cons x xs => simp [accepts, ih (Nat.le_of_succ_le_succ h)]

lemma accepts_append_left (ps qs : List (Char → Bool)) (cs : List Char) :
    accepts (ps ++ qs) cs = (accepts ps cs && accepts qs (cs.drop ps.length)) := by
  induction ps generalizing cs with
  | nil => simp [accepts]
  | cons p ps ih =>
    cases cs with
    | nil => simp [accepts]
    | cons x xs => simp [accepts, ih, Bool.and_assoc]

end Regex

def Cursor.advance : Nat → Cursor → Cursor
  | 0, c => c
  | _ + 1, ⟨prev, []⟩ => ⟨prev, []⟩
  | n + 1, ⟨_, x :: xs⟩ => advance n ⟨some x, xs⟩

@[simp]
lemma Cursor.advance_rest (n : Nat) (c : Cursor) : (c.advance n).rest = c.rest.drop n := by
  induction n generalizing c with
  | zero => rfl
  | succ n ih =>
    obtain ⟨prev, cs⟩ := c
    cases cs with
    | nil => rfl
    | cons x xs => exact ih _

lemma Cursor.advance_advance (m n : Nat) (c : Cursor) :
    (c.advance m).advance n = c.advance (m + n) := by
  induction m generalizing c with
  | zero => simp [advance]
  | succ m ih =>
    obtain ⟨prev, cs⟩ := c
    cases cs with
    | nil =>
      have hend : ∀ k, (⟨prev, []⟩ : Cursor).advance k = ⟨prev, []⟩ := by
        intro k
        cases k <;> rfl
      rw [hend, hend, hend]
    | cons x xs =>
      rw [Nat.succ_add]
      exact ih _

namespace Regex

variable {u : Unicode}

lemma matches?_chars (ps : List (Char → Bool)) (c : Cursor) :
    matches? u (concat (ps.map char)) c =
      if accepts ps c.rest then [c.advance ps.length] else [] := by
  induction ps generalizing c with
  | nil => simp [concat, matches?, accepts, Cursor.advance]
  | cons p ps ih =>
    obtain ⟨prev, cs⟩ := c
    cases cs with
    | nil => simp [concat, matches?, accepts]
    | cons x xs =>
      by_cases hx : p x = true
      · simp [concat, matches?, accepts, hx, ih, Cursor.advance]
      · simp [concat, matches?, accepts, hx]

lemma matches?_concat_chars (pss : List (List (Char → Bool))) (c : Cursor) :
    matches? u (concat (pss.map fun ps => concat (ps.map char))) c =
      matches? u (concat (pss.flatten.map char)) c := by
  induction pss generalizing c with
  | nil => rfl
  | cons ps pss ih =>
    rw [List.map_cons, concat, matches?, matches?_chars, matches?_chars, List.flatten_cons,
      accepts_append_left, List.length_append]
    by_cases hps : accepts ps c.rest = true
    · rw [hps, if_pos rfl, List.flatMap_singleton, ih, matches?_chars, Cursor.advance_rest,
        Cursor.advance_advance, Bool.true_and]
    · simp [hps]

/-- A repetition prefers the longest match. -/
theorem head?_matches?_star (p : Char → Bool) (c : Cursor) :
    (matches? u (star (char p)) c).head? = some (c.advance (c.rest.takeWhile p).length) := by
  obtain ⟨prev, cs⟩ := c
  unfold matches?
  induction cs generalizing prev with
  | nil => rfl
  | cons x xs ih =>
    by_cases hx : p x = true
    · have hnext : matches? u (char p) ⟨prev, x :: xs⟩ = [⟨some x, xs⟩] := by
        simp [matches?, hx]
      simp only [List.length_cons, repeatGreedy, hnext, List.takeWhile_cons, hx, if_true]
      simp [ih, Cursor.advance, List.head?_append]
    · have hnone : matches? u (char p) ⟨prev, x :: xs⟩ = [] := by
        simp [matches?, hx]
      simp [repeatGreedy, hnone, hx, Cursor.advance]

/-! ## Captures -/

lemma findSome?_positions_append {β : Type} {f : Cursor → Option β} {pre cs : List Char}
    (h : ∀ s prev, s ≠ [] → s <:+ pre → f ⟨prev, s ++ cs⟩ = none) (prev : Option Char) :
    ∃ prev', (positions prev (pre ++ cs)).findSome? f = (positions prev' cs).findSome? f := by
  induction pre generalizing prev with
  | nil => exact ⟨prev, rfl⟩
  | cons x pre ih =>
    have hfirst := h (x :: pre) prev (List.cons_ne_nil x pre) List.suffix_rfl
    obtain ⟨prev', hrest⟩ := ih (fun s q hs hsuffix =>
      h s q hs (hsuffix.trans (List.suffix_cons x pre))) (some x)
    refine ⟨prev', ?_⟩
    rw [List.cons_append, positions, List.findSome?_cons, ← List.cons_append, hfirst]
    exact hrest

lemma findSome?_of_head? {α β : Type} {f : α → Option β} {l : List α} {a : α} {b : β}
    (ha : l.head? = some a) (hb : f a = some b) : l.findSome? f = some b := by
  cases l with
  | nil => cases ha
  | cons x l =>
    obtain rfl := Option.some.inj ha
    rw [List.findSome?_cons, hb]

/-- The capture at the first position where the expression before the group matches,
if its preferred match is followed by a match of the group. -/
theorem capture_eq_some {before body : Regex} {pre cs : List Char} {m n : Nat}
    (hskip : ∀ s prev, s ≠ [] → s <:+ pre → matches? u before ⟨prev, s ++ cs⟩ = [])
    (hbefore : ∀ prev, (matches? u before ⟨prev, cs⟩).head? = some (Cursor.advance m ⟨prev, cs⟩))
    (hbody : ∀ prev, (matches? u body (Cursor.advance m ⟨prev, cs⟩)).head? =
      some (Cursor.advance (m + n) ⟨prev, cs⟩)) (hlength : m + n ≤ cs.length) :
    capture u before body (String.ofList (pre ++ cs)) =
      some (String.ofList ((cs.drop m).take n)) := by
  unfold capture
  rw [String.toList_ofList]
  obtain ⟨prev, hfound⟩ : ∃ prev, (positions none (pre ++ cs)).findSome? (fun c =>
      (matches? u before c).findSome? fun d => (matches? u body d).head?.map fun e =>
        String.ofList (d.rest.take (d.rest.length - e.rest.length))) =
      (positions prev cs).findSome? _ :=
    findSome?_positions_append
      (fun s prev hs hsuffix => by rw [hskip s prev hs hsuffix]; rfl) none
  rw [hfound]
  refine findSome?_of_head? (a := ⟨prev, cs⟩) (by cases cs <;> rfl) ?_
  refine findSome?_of_head? (hbefore prev) ?_
  rw [hbody prev, Option.map_some]
  simp only [Cursor.advance_rest, List.length_drop]
  rw [show cs.length - m - (cs.length - (m + n)) = n by omega]

end Regex
end Ax
