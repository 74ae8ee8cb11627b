import Mathlib.Data.List.DropRight
import Mathlib.Data.List.Infix

/-!
# Text

String operations with the conventions of the Rust standard library: trimming by the Unicode
white-space property, substring search, ASCII case conversion and the quoted debug form of a string.
Case mapping and printability of characters outside ASCII are large tables of the Unicode database;
they are a parameter here, so every result holds for every version of those tables.

Main results:

- Theorem `trim_trim`: trimming is idempotent.
- Theorem `trim_of_forall`: a text without white space is trimmed.
-/

namespace Ax

structure Unicode where
  /-- Full lower-case mapping of one character. -/
  toLowercase : Char → List Char
  /-- Characters that a quoted string shows as an escape: unprintable ones and
  grapheme extenders. -/
  needsEscape : Char → Bool
  /-- Word characters, the class `\w`. -/
  isWord : Char → Bool

def Unicode.ascii : Unicode where
  toLowercase c := [c.toLower]
  needsEscape c := c.toNat < 32 || c.toNat = 127
  isWord c := c.isAlphanum || c = '_'

namespace Text

/-- The characters with the Unicode property White_Space. -/
def isWhitespace (c : Char) : Bool :=
  let n := c.toNat
  (9 ≤ n && n ≤ 13) || n = 0x20 || n = 0x85 || n = 0xA0 || n = 0x1680 ||
    (0x2000 ≤ n && n ≤ 0x200A) || n = 0x2028 || n = 0x2029 || n = 0x202F ||
    n = 0x205F || n = 0x3000

def trimChars (cs : List Char) : List Char :=
  (cs.dropWhile isWhitespace).rdropWhile isWhitespace

/-- `str::trim`. -/
def trim (s : String) : String :=
  String.ofList (trimChars s.toList)

lemma dropWhile_rdropWhile_dropWhile (p : Char → Bool) (cs : List Char) :
    ((cs.dropWhile p).rdropWhile p).dropWhile p = (cs.dropWhile p).rdropWhile p := by
  rw [List.dropWhile_eq_self_iff]
  intro hlen
  have hpre : (cs.dropWhile p).rdropWhile p <+: cs.dropWhile p :=
    List.rdropWhile_prefix p _
  have hpos : 0 < (cs.dropWhile p).length :=
    lt_of_lt_of_le hlen hpre.length_le
  rw [hpre.getElem hlen]
  have hne : cs.dropWhile p ≠ [] := List.ne_nil_of_length_pos hpos
  have hhead := List.head_dropWhile_not p hne
  rwa [List.head_eq_getElem, ← Bool.not_eq_true] at hhead

lemma trimChars_trimChars (cs : List Char) : trimChars (trimChars cs) = trimChars cs := by
  unfold trimChars
  rw [dropWhile_rdropWhile_dropWhile, List.rdropWhile_idempotent]

/-- Trimming is idempotent. -/
@[simp]
theorem trim_trim (s : String) : trim (trim s) = trim s := by
  simp [trim, trimChars_trimChars]

lemma trim_of_ends {s : String} (hhead : ∀ c, s.toList.head? = some c → isWhitespace c = false)
    (hlast : ∀ c, s.toList.getLast? = some c → isWhitespace c = false) : trim s = s := by
  have hfront : s.toList.dropWhile isWhitespace = s.toList :=
    List.dropWhile_eq_self_iff.mpr fun hlen => by
      simp [hhead _ (List.head?_eq_getElem? ▸ List.getElem?_eq_getElem hlen)]
  have hback : s.toList.rdropWhile isWhitespace = s.toList :=
    List.rdropWhile_eq_self_iff.mpr fun hne => by simp [hlast _ (List.getLast?_eq_some_getLast hne)]
  rw [trim, trimChars, hfront, hback, String.ofList_toList]

lemma isWhitespace_of_getLast?_trim {s : String} {c : Char}
    (h : (trim s).toList.getLast? = some c) : isWhitespace c = false := by
  rw [trim, String.toList_ofList, trimChars] at h
  have hne : (s.toList.dropWhile isWhitespace).rdropWhile isWhitespace ≠ [] := by
    rintro hnil
    simp [hnil] at h
  rw [List.getLast?_eq_some_getLast hne] at h
  have hnot := List.rdropWhile_last_not isWhitespace _ hne
  rw [Option.some.inj h] at hnot
  simpa using hnot

/-- A text without white space is trimmed. -/
theorem trim_of_forall {s : String} (h : ∀ c ∈ s.toList, isWhitespace c = false) : trim s = s :=
  trim_of_ends (fun c hc => h c (List.mem_of_head? hc))
    (fun c hc => h c (List.mem_of_getLast? hc))

/-- `str::contains` with a string pattern. -/
def contains (s pattern : String) : Bool :=
  decide (pattern.toList <:+: s.toList)

/-- `str::to_ascii_lowercase`. -/
def toAsciiLowercase (s : String) : String :=
  String.ofList (s.toList.map Char.toLower)

def escapeDebug (u : Unicode) (c : Char) : List Char :=
  if c = '\x00' then ['\\', '0']
  else if c = '\t' then ['\\', 't']
  else if c = '\r' then ['\\', 'r']
  else if c = '\n' then ['\\', 'n']
  else if c = '\\' then ['\\', '\\']
  else if c = '"' then ['\\', '"']
  else if u.needsEscape c then
    ['\\', 'u', '\x7b'] ++ Nat.toDigits 16 c.toNat ++ ['\x7d']
  else [c]

/-- The `{:?}` form of a string. -/
def debugStr (u : Unicode) (s : String) : String :=
  String.ofList (['"'] ++ s.toList.flatMap (escapeDebug u) ++ ['"'])

end Text
end Ax
