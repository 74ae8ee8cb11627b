import Ax.Foundation.BTreeMap

/-!
# Encodings of records

A record is stored as a JSON object with one entry for each of its fields.  A
field may be left out when it has its default value, and is then read back as
that.  Encoder and decoder of a record are built together from its fields, and
with them the proof that decoding undoes encoding.  The text form of JSON values
is not looked at.

Main results:

- Theorem `valueOf_present`: the value of a field in an object without repeated names.
- Definition `Record.codec`: the codec of a record whose field names differ.
-/

namespace Ax

inductive Json
  | null
  | bool (b : Bool)
  | num (n : Int)
  | str (s : String)
  | arr (items : List Json)
  | obj (entries : List (String × Json))

variable {α β ρ : Type}

/-! ## Values -/

/-- An encoding of values, never by `null`, that decoding undoes. -/
structure Codec (α : Type) where
  encode : α → Json
  decode : Json → Except String α
  decode_encode : ∀ a, decode (encode a) = .ok a
  encode_ne_null : ∀ a, encode a ≠ .null

namespace Codec

/-- Texts. -/
def string : Codec String where
  encode := .str
  decode
    | .str s => .ok s
    | _ => .error "expected a string"
  decode_encode _ := rfl
  encode_ne_null _ := nofun

def int : Codec Int where
  encode := .num
  decode
    | .num n => .ok n
    | _ => .error "expected an integer"
  decode_encode _ := rfl
  encode_ne_null _ := nofun

/-- Numbers below a bound that are not negative. -/
def fin (bound : Nat) : Codec (Fin bound) where
  encode a := .num a.val
  decode
    | .num n =>
      if h : 0 ≤ n ∧ n.toNat < bound then .ok ⟨n.toNat, h.2⟩ else .error "number out of range"
    | _ => .error "expected an integer"
  decode_encode a := by simp
  encode_ne_null _ := nofun

def int32 : Codec Int32 where
  encode a := .num a.toInt
  decode
    | .num n =>
      if -2147483648 ≤ n ∧ n < 2147483648 then .ok (.ofInt n)
      else .error "number out of range"
    | _ => .error "expected an integer"
  decode_encode a :=
    (if_pos ⟨a.le_toInt, a.toInt_lt⟩).trans (congrArg Except.ok a.ofInt_toInt)
  encode_ne_null _ := nofun

/-- Truth values. -/
def bool : Codec Bool where
  encode := .bool
  decode
    | .bool b => .ok b
    | _ => .error "expected a boolean"
  decode_encode _ := rfl
  encode_ne_null _ := nofun

def text (format : α → String) (parse : String → Option α)
    (h : ∀ a, parse (format a) = some a) : Codec α where
  encode a := .str (format a)
  decode
    | .str s => (parse s).elim (.error s!"unexpected text {s}") .ok
    | _ => .error "expected a string"
  decode_encode a := by simp [h]
  encode_ne_null _ := nofun

lemma mapM_decode_map_encode (c : Codec α) (as : List α) :
    (as.map c.encode).mapM c.decode = .ok as := by
  induction as with
  | nil => rfl
  | cons a as ih =>
    rw [List.map_cons, List.mapM_cons, c.decode_encode, ih]
    rfl

def list (c : Codec α) : Codec (List α) where
  encode as := .arr (as.map c.encode)
  decode
    | .arr items => items.mapM c.decode
    | _ => .error "expected a sequence"
  decode_encode := c.mapM_decode_map_encode
  encode_ne_null _ := nofun

lemma mapM_decode_entries (c : Codec α) (entries : List (String × α)) :
    (entries.map fun entry => (entry.1, c.encode entry.2)).mapM
      (fun entry => (c.decode entry.2).map fun a => (entry.1, a)) = .ok entries := by
  induction entries with
  | nil => rfl
  | cons entry rest ih =>
    rw [List.map_cons, List.mapM_cons, ih, c.decode_encode]
    rfl

lemma foldl_insert_toList (m : BTreeMap String α) :
    m.toList.foldl (fun m entry => m.insert entry.1 entry.2) ∅ = m := by
  refine BTreeMap.ext_get? fun k => ?_
  rw [BTreeMap.get?_foldl_insert _ (BTreeMap.nodup_map_fst_toList m), BTreeMap.find?_toList]
  simp

def mapping (c : Codec α) : Codec (BTreeMap String α) where
  encode m := .obj (m.toList.map fun entry => (entry.1, c.encode entry.2))
  decode
    | .obj entries =>
      (entries.mapM fun entry => (c.decode entry.2).map fun a => (entry.1, a)).map
        fun read => read.foldl (fun m entry => m.insert entry.1 entry.2) ∅
    | _ => .error "expected a map"
  decode_encode m := by
    dsimp only
    rw [mapM_decode_entries]
    exact congrArg Except.ok (foldl_insert_toList m)
  encode_ne_null _ := nofun

end Codec

/-! ## Fields -/

def present (fields : List (String × Option Json)) : List (String × Json) :=
  fields.filterMap fun field => field.2.map fun value => (field.1, value)

def valueOf (entries : List (String × Json)) (name : String) : Except String (Option Json) :=
  match entries.filter fun entry => entry.1 = name with
  | [] => .ok none
  | [entry] => .ok (some entry.2)
  | _ => .error s!"duplicate field `{name}`"

lemma filter_present_of_notMem {fields : List (String × Option Json)} {name : String}
    (h : name ∉ fields.map Prod.fst) :
    (present fields).filter (fun entry => entry.1 = name) = [] := by
  rw [List.filter_eq_nil_iff]
  intro entry hmem
  obtain ⟨field, hfield, hentry⟩ := List.mem_filterMap.mp hmem
  obtain ⟨value, _, rfl⟩ := Option.map_eq_some_iff.mp hentry
  simp only [decide_eq_true_eq]
  rintro rfl
  exact h (List.mem_map_of_mem hfield)

/-- The value of a field in an object without repeated names. -/
theorem valueOf_present {fields : List (String × Option Json)} {name : String}
    {value : Option Json} (hnodup : (fields.map Prod.fst).Nodup) (hmem : (name, value) ∈ fields) :
    valueOf (present fields) name = .ok value := by
  have hfilter : (present fields).filter (fun entry => entry.1 = name) =
      (value.map fun v => (name, v)).toList := by
    induction fields with
    | nil => cases hmem
    | cons field rest ih =>
      obtain ⟨hnew, hrest⟩ := List.nodup_cons.mp hnodup
      have hsplit : present (field :: rest) =
          (field.2.map fun v => (field.1, v)).toList ++ present rest := by
        unfold present
        cases hvalue : field.2 with
        | none => rw [List.filterMap_cons_none (by rw [hvalue]; rfl)]; rfl
        | some v => rw [List.filterMap_cons_some (by rw [hvalue]; rfl)]; rfl
      rw [hsplit, List.filter_append]
      rcases List.mem_cons.mp hmem with rfl | hlater
      · rw [filter_present_of_notMem hnew]
        cases value <;> simp
      · have hne : field.1 ≠ name := by
          rintro rfl
          exact hnew (List.mem_map.mpr ⟨_, hlater, rfl⟩)
        rw [ih hrest hlater]
        cases field.2 <;> simp [hne]
  unfold valueOf
  rw [hfilter]
  cases value <;> rfl

structure Field (α : Type) where
  name : String
  encode : α → Option Json
  decode : Option Json → Except String α
  decode_encode : ∀ a, decode (encode a) = .ok a

namespace Field

def required (name : String) (c : Codec α) : Field α where
  name := name
  encode a := some (c.encode a)
  decode
    | none => .error s!"missing field `{name}`"
    | some value => c.decode value
  decode_encode := c.decode_encode

def raw (name : String) : Field Json where
  name := name
  encode value := some value
  decode
    | none => .error s!"missing field `{name}`"
    | some value => .ok value
  decode_encode _ := rfl

def defaulted (name : String) (c : Codec α) (default : α) : Field α where
  name := name
  encode a := some (c.encode a)
  decode
    | none => .ok default
    | some value => c.decode value
  decode_encode := c.decode_encode

def skipped [DecidableEq α] (name : String) (c : Codec α) (default : α) : Field α where
  name := name
  encode a := if a = default then none else some (c.encode a)
  decode
    | none => .ok default
    | some value => c.decode value
  decode_encode a := by
    by_cases h : a = default
    · simp [h]
    · simp [h, c.decode_encode]

/-- A field that is left out when a test holds, which holds of its default value only. -/
def skippedIf (name : String) (c : Codec α) (skip : α → Bool) (default : α)
    (h : ∀ a, skip a = true → a = default) : Field α where
  name := name
  encode a := if skip a then none else some (c.encode a)
  decode
    | none => .ok default
    | some value => c.decode value
  decode_encode a := by
    by_cases hskip : skip a = true
    · rw [if_pos hskip]
      exact congrArg Except.ok (h a hskip).symm
    · simp [hskip, c.decode_encode]

/-- A field that is left out when it has no value.  A `null` stands for no value. -/
def optional (name : String) (c : Codec α) : Field (Option α) where
  name := name
  encode a := a.map c.encode
  decode
    | none | some .null => .ok none
    | some value => (c.decode value).map some
  decode_encode a := by
    cases a with
    | none => rfl
    | some a =>
      have hnull := c.encode_ne_null a
      have hvalue := c.decode_encode a
      cases hencode : c.encode a <;> simp_all [Except.map]

variable (name : String)

@[simp]
lemma name_required (c : Codec α) : (required name c).name = name :=
  rfl

@[simp]
lemma name_raw : (raw name).name = name :=
  rfl

@[simp]
lemma name_defaulted (c : Codec α) (default : α) : (defaulted name c default).name = name :=
  rfl

@[simp]
lemma name_skipped [DecidableEq α] (c : Codec α) (default : α) :
    (skipped name c default).name = name :=
  rfl

@[simp]
lemma name_skippedIf (c : Codec α) (skip : α → Bool) (default : α)
    (h : ∀ a, skip a = true → a = default) : (skippedIf name c skip default h).name = name :=
  rfl

@[simp]
lemma name_optional (c : Codec α) : (optional name c).name = name :=
  rfl

end Field

/-! ## Records -/

/-- A part of type `α` of a record of type `ρ`: the fields it is written to, how it is
read from the entries of an object, and what it is.  It is read back from every object
that has its fields among others with different names. -/
structure Record (ρ α : Type) where
  names : List String
  fields : ρ → List (String × Option Json)
  read : List (String × Json) → Except String α
  part : ρ → α
  names_fields : ∀ r, (fields r).map Prod.fst = names
  read_present : ∀ r all, (all.map Prod.fst).Nodup → fields r ⊆ all →
    read (present all) = .ok (part r)

namespace Record

def start (a : α) : Record ρ α where
  names := []
  fields _ := []
  read _ := .ok a
  part _ := a
  names_fields _ := rfl
  read_present _ _ _ _ := rfl

def field (R : Record ρ (α → β)) (f : Field α) (get : ρ → α) : Record ρ β where
  names := R.names ++ [f.name]
  fields r := R.fields r ++ [(f.name, f.encode (get r))]
  read entries := do
    let build ← R.read entries
    let value ← valueOf entries f.name
    let a ← f.decode value
    return build a
  part r := R.part r (get r)
  names_fields r := by simp [R.names_fields]
  read_present r all hnodup hsub := by
    obtain ⟨hbefore, hfield⟩ := List.append_subset.mp hsub
    have hmem : (f.name, f.encode (get r)) ∈ all := hfield (List.mem_singleton_self _)
    rw [R.read_present r all hnodup hbefore, valueOf_present hnodup hmem]
    simp only [bind, Except.bind, f.decode_encode]
    rfl

@[simp]
lemma names_start (a : α) : (start a : Record ρ α).names = [] :=
  rfl

@[simp]
lemma names_field (R : Record ρ (α → β)) (f : Field α) (get : ρ → α) :
    (R.field f get).names = R.names ++ [f.name] :=
  rfl

/-- The codec of a record all of whose fields are given under different names. -/
def codec (R : Record ρ ρ) (hpart : ∀ r, R.part r = r) (hnames : R.names.Nodup) : Codec ρ where
  encode r := .obj (present (R.fields r))
  decode
    | .obj entries => R.read entries
    | _ => .error "expected an object"
  decode_encode r := by
    have hnodup : ((R.fields r).map Prod.fst).Nodup := by
      rw [R.names_fields]
      exact hnames
    have hread := R.read_present r (R.fields r) hnodup (List.Subset.refl _)
    rw [hpart] at hread
    exact hread
  encode_ne_null _ := nofun

end Record

end Ax
