import Ax.Usage.Aggregator

/-!
# Usage by model

The table of models is kept by moving the share of a request from one entry to another when
the request is reported with another model.  So an entry counts the requests whose last record
has its model, and the records without a request, unless a request was first reported without
a model: then its share stays under the empty name.

Main results:

- Theorem `byModel_exact`: the table is exact if no request gains a model.
- Theorem `byModel_inexact_gainedModel`: a request that gains one.
-/

namespace Ax.Usage

variable {records : List ParsedRecord} {record : ParsedRecord} {m key : String}

/-! ## What a model is used for -/

def ParsedRecord.shareOf (m : String) (record : ParsedRecord) : Tokens × Int :=
  if record.model = m then (record.tokens, 1) else 0

def requestShare (records : List ParsedRecord) (m key : String) : Tokens × Int :=
  ((lastUsage records key).map (ParsedRecord.shareOf m)).getD 0

def usageOf (records : List ParsedRecord) (m : String) : Tokens × Int :=
  ∑ key ∈ keys records, requestShare records m key +
    ((keyless records).map (ParsedRecord.shareOf m)).sum

def ExactByModel (records : List ParsedRecord) (models : List ModelTotals) : Prop :=
  ∀ mt : ModelTotals, mt ∈ models ↔
    mt.turns ≠ 0 ∧ (mt.totals, mt.turns) = usageOf records mt.model

def GainsModel (records : List ParsedRecord) (record : ParsedRecord) : Prop :=
  record.hasUsage = true ∧ record.requestKey ≠ "" ∧ record.model ≠ "" ∧
    ∃ prev ∈ lastUsage records record.requestKey, prev.model = ""

def Counted (share : Tokens × Int) : Prop :=
  0 ≤ share.2 ∧ (share.2 = 0 → share = 0)

lemma counted_zero : Counted 0 :=
  ⟨le_rfl, fun _ => rfl⟩

lemma Counted.add {a b : Tokens × Int} (ha : Counted a) (hb : Counted b) : Counted (a + b) := by
  have hsum : (a + b).2 = a.2 + b.2 := rfl
  have hnonneg := ha.1
  have hnonneg' := hb.1
  refine ⟨by omega, fun hzero => ?_⟩
  rw [ha.2 (by omega), hb.2 (by omega), add_zero]

lemma shareOf_self (record : ParsedRecord) :
    record.shareOf record.model = (record.tokens, 1) :=
  if_pos rfl

lemma shareOf_of_ne (h : m ≠ record.model) : record.shareOf m = 0 :=
  if_neg (Ne.symm h)

lemma counted_shareOf (m : String) (record : ParsedRecord) : Counted (record.shareOf m) := by
  unfold ParsedRecord.shareOf
  split
  · exact ⟨zero_le_one, fun h => absurd h one_ne_zero⟩
  · exact counted_zero

lemma counted_requestShare (records : List ParsedRecord) (m key : String) :
    Counted (requestShare records m key) := by
  unfold requestShare
  cases lastUsage records key with
  | none => exact counted_zero
  | some record => exact counted_shareOf m record

def othersOf (records : List ParsedRecord) (m key : String) : Tokens × Int :=
  ∑ other ∈ (keys records).erase key, requestShare records m other +
    ((keyless records).map (ParsedRecord.shareOf m)).sum

lemma counted_othersOf (records : List ParsedRecord) (m key : String) :
    Counted (othersOf records m key) := by
  refine Counted.add ?_ ?_
  · exact Finset.sum_induction _ Counted (fun _ _ => Counted.add) counted_zero
      fun other _ => counted_requestShare records m other
  · refine List.sum_induction Counted (fun _ _ => Counted.add) counted_zero fun share hshare => ?_
    obtain ⟨record, -, rfl⟩ := List.mem_map.mp hshare
    exact counted_shareOf m record

lemma usageOf_eq_add (hkey : key ≠ "") :
    usageOf records m = requestShare records m key + othersOf records m key := by
  rw [usageOf, othersOf, ← add_assoc]
  by_cases hmem : key ∈ keys records
  · rw [Finset.add_sum_erase _ _ hmem]
  · rw [Finset.erase_eq_of_notMem hmem, requestShare, lastUsage_of_notMem hkey hmem]
    simp

lemma usageOf_append_keyless (husage : record.hasUsage = true) (hkey : record.requestKey = "") :
    usageOf (records ++ [record]) m = record.shareOf m + usageOf records m := by
  have hsame : ∀ key ∈ keys records,
      requestShare (records ++ [record]) m key = requestShare records m key := by
    intro key hmem
    have hne : key ≠ record.requestKey := hkey ▸ Finset.ne_of_mem_erase hmem
    rw [requestShare, lastUsage_append_usage husage, Function.update_of_ne hne, requestShare]
  rw [usageOf, keys_append_keyless husage hkey, Finset.sum_congr rfl hsame,
    keyless_append_keyless husage hkey, List.map_append, List.sum_append, List.map_singleton,
    List.sum_singleton, ← add_assoc, ← usageOf, add_comm]

lemma usageOf_append_keyed (husage : record.hasUsage = true) (hkey : record.requestKey ≠ "") :
    usageOf (records ++ [record]) m =
      record.shareOf m + othersOf records m record.requestKey := by
  have hsame : ∀ key ∈ (keys records).erase record.requestKey,
      requestShare (records ++ [record]) m key = requestShare records m key := by
    intro key hmem
    rw [requestShare, lastUsage_append_usage husage,
      Function.update_of_ne (Finset.ne_of_mem_erase hmem), requestShare]
  rw [usageOf_eq_add hkey, requestShare, lastUsage_append_usage husage, Function.update_self,
    othersOf, keys_append_keyed husage hkey, Finset.erase_insert_eq_erase,
    Finset.sum_congr rfl hsame, keyless_append_keyed husage hkey, ← othersOf]
  rfl

/-! ## The table of models -/

def entryOf (m : String) (share : Tokens × Int) : Option ModelTotals :=
  if share.2 = 0 then none else some ⟨m, share.2, share.1⟩

namespace Aggregator

/-- The table has the given shares. -/
def Tabulates (agg : Aggregator) (f : String → Tokens × Int) : Prop :=
  ∀ m : String, agg.byModel[m]? = entryOf m (f m)

variable {agg : Aggregator} {f : String → Tokens × Int} {model : String} {d : Tokens × Int}
  {change : ModelTotals → ModelTotals}

lemma Tabulates.ensureModel (h : agg.Tabulates f) (hf : Counted (f model)) :
    agg.ensureModel model = ⟨model, (f model).2, (f model).1⟩ := by
  rw [Aggregator.ensureModel, h, entryOf]
  split
  · next hzero =>
      rw [hf.2 hzero]
      rfl
  · rfl

/-- A share is added to an entry. -/
theorem Tabulates.withModel (h : agg.Tabulates f) (hf : Counted (f model))
    (hchange : ∀ mt : ModelTotals, change mt = ⟨mt.model, mt.turns + d.2, mt.totals + d.1⟩)
    (hturns : (f model + d).2 ≠ 0) :
    (agg.withModel model change).Tabulates (Function.update f model (f model + d)) := by
  intro m
  rw [Aggregator.withModel, BTreeMap.get?_insert, Function.update_apply, h.ensureModel hf, hchange]
  split
  · next hm => rw [hm, entryOf, if_neg hturns]; rfl
  · exact h m

/-- A share is taken from an entry, which is dropped if nothing is left. -/
theorem Tabulates.moveOut (h : agg.Tabulates f) (hf : Counted (f model))
    (hchange : ∀ mt : ModelTotals, change mt = ⟨mt.model, mt.turns + d.2, mt.totals + d.1⟩)
    (hleft : Counted (f model + d)) :
    ((agg.withModel model change).dropUnused model).Tabulates
      (Function.update f model (f model + d)) := by
  have hentry : (agg.withModel model change).ensureModel model =
      ⟨model, (f model + d).2, (f model + d).1⟩ := by
    rw [Aggregator.ensureModel, Aggregator.withModel, BTreeMap.get?_insert_self, h.ensureModel hf,
      hchange]
    rfl
  intro m
  simp only [Aggregator.dropUnused, hentry]
  split
  · next hunused =>
      rw [BTreeMap.get?_erase, Function.update_apply]
      split
      · rw [entryOf, if_pos hunused.1]
      · next hm => rw [Aggregator.withModel, BTreeMap.get?_insert, if_neg hm, h m]
  · next hused =>
      have hturns : (f model + d).2 ≠ 0 := fun hzero => hused ⟨hzero, by rw [hleft.2 hzero]; rfl⟩
      exact h.withModel hf hchange hturns m

def Knows (records : List ParsedRecord) (agg : Aggregator) : Prop :=
  ∀ key : String, key ≠ "" → agg.requests[key]?.map (fun state => (state.model, state.tokens)) =
    (lastUsage records key).map fun record => (record.model, record.tokens)

lemma Knows.ingest (h : Knows records agg) (record : ParsedRecord) :
    Knows (records ++ [record]) (agg.ingest record).1 := by
  intro key hne
  cases husage : record.hasUsage with
  | false =>
    rw [requests_ingest_of_not record (by simp [husage]), h key hne, lastUsage, lastUsage,
      usages_append_noUsage husage]
  | true =>
    rw [lastUsage_append_usage husage, Function.update_apply]
    by_cases hrequest : record.requestKey = ""
    · rw [requests_ingest_of_not record (by simp [hrequest]), h key hne, hrequest, if_neg hne]
    · rw [requests_ingest husage hrequest, BTreeMap.get?_insert]
      split
      · rfl
      · exact h key hne

variable {prev : ParsedRecord} (hf : ∀ m : String, Counted (f m))

include hf

lemma Tabulates.add (h : agg.Tabulates f)
    (hchange : ∀ mt : ModelTotals,
      change mt = ⟨mt.model, mt.turns + 1, mt.totals + record.tokens⟩) :
    (agg.withModel record.model change).Tabulates fun m => record.shareOf m + f m := by
  have hturns : (f record.model + (record.tokens, 1)).2 ≠ 0 := by
    have hnonneg := (hf record.model).1
    rw [Prod.snd_add]
    omega
  intro m
  rw [h.withModel (hf record.model) hchange hturns m]
  change _ = entryOf m (record.shareOf m + f m)
  by_cases hm : m = record.model
  · rw [hm, Function.update_self, shareOf_self, add_comm]
  · rw [Function.update_of_ne hm, shareOf_of_ne hm, zero_add]

lemma Tabulates.first (h : agg.Tabulates f) :
    (agg.applyUsageDelta "" 0 record.model record.tokens 1).Tabulates
      fun m => record.shareOf m + f m := by
  rw [applyUsageDelta, if_pos (.inl rfl), sub_zero]
  exact Tabulates.add hf h fun _ => rfl

lemma Tabulates.again (h : agg.Tabulates fun m => prev.shareOf m + f m)
    (hkept : prev.model = "" → record.model = "") :
    (agg.applyUsageDelta prev.model prev.tokens record.model record.tokens 0).Tabulates
      fun m => record.shareOf m + f m := by
  have hshare := shareOf_self prev
  have hcounted := (counted_shareOf prev.model prev).add (hf prev.model)
  have hagg : Tabulates { agg with
      cumulative := agg.cumulative + (record.tokens - prev.tokens), turns := agg.turns + 0 }
        fun m => prev.shareOf m + f m := h
  by_cases hsame : prev.model = record.model
  · -- The entry stays, with the tokens of the new record.
    have hturns : (prev.shareOf prev.model + f prev.model + (record.tokens - prev.tokens, 0)).2 ≠
        0 := by
      have hnonneg := (hf prev.model).1
      rw [hshare, Prod.snd_add, Prod.snd_add]
      omega
    rw [applyUsageDelta, if_pos (.inr hsame), ← hsame]
    intro m
    refine (hagg.withModel hcounted (fun _ => rfl) hturns m).trans ?_
    change _ = entryOf m (record.shareOf m + f m)
    by_cases hm : m = prev.model
    · rw [hm, Function.update_self, hshare, hsame, shareOf_self, add_right_comm]
      simp
    · rw [Function.update_of_ne hm, shareOf_of_ne hm, shareOf_of_ne (hsame ▸ hm)]
  · -- The share leaves its entry before it is counted for the new model.
    have hmoves : ¬(prev.model = "" ∨ prev.model = record.model) := by
      rintro (hnone | hmodel)
      · exact hsame (hnone.trans (hkept hnone).symm)
      · exact hsame hmodel
    have hleft : prev.shareOf prev.model + f prev.model + (-prev.tokens, -1) = f prev.model := by
      rw [hshare, add_right_comm]
      simp
    rw [applyUsageDelta, if_neg hmoves]
    refine Tabulates.add hf (fun m => ?_) fun _ => rfl
    refine (hagg.moveOut hcounted (fun mt => ?_) (hleft.symm ▸ hf prev.model) m).trans ?_
    · rw [← sub_eq_add_neg, ← sub_eq_add_neg]
    · by_cases hm : m = prev.model
      · rw [hm, Function.update_self, hleft]
      · rw [Function.update_of_ne hm, shareOf_of_ne hm, zero_add]

omit hf

lemma Tabulates.ingest (h : agg.Tabulates (usageOf records)) (hknows : Knows records agg)
    (hkept : ¬GainsModel records record) :
    (agg.ingest record).1.Tabulates (usageOf (records ++ [record])) := by
  cases husage : record.hasUsage with
  | false =>
    have hsame : usageOf (records ++ [record]) = usageOf records := by
      funext m
      simp only [usageOf, requestShare, lastUsage, keys, keyless, usages_append_noUsage husage]
    intro m
    rw [hsame, ← h m]
    simp [Aggregator.ingest, husage]
  | true =>
    have hnoted : ∀ requests : BTreeMap String AssistantRequestState,
        Tabulates { agg.noteSession record with
          currentTokens := record.tokens, currentModel := record.model, requests := requests }
            (usageOf records) := by
      intro requests m
      rw [← h m, ← byModel_noteSession agg record]
    by_cases hkey : record.requestKey = ""
    · have hcounted : ∀ m : String, Counted (usageOf records m) := by
        intro m
        have hothers := counted_othersOf records m ""
        rwa [othersOf, Finset.erase_eq_of_notMem (empty_notMem_keys records)] at hothers
      intro m
      rw [usageOf_append_keyless husage hkey]
      simp only [Aggregator.ingest, husage, hkey, Bool.not_true, Bool.false_eq_true, if_false,
        if_true, byModel_addMcp]
      exact Tabulates.first hcounted (hnoted _) m
    · have hcounted := fun m => counted_othersOf records m record.requestKey
      have hbefore : usageOf records = fun m =>
          requestShare records m record.requestKey + othersOf records m record.requestKey :=
        funext fun m => usageOf_eq_add hkey
      have hknown := hknows record.requestKey hkey
      intro m
      rw [usageOf_append_keyed husage hkey]
      simp only [Aggregator.ingest, husage, hkey, requests_noteSession,
        Std.ExtTreeMap.contains_eq_isSome_getElem?, Bool.not_true, Bool.false_eq_true, if_false,
        byModel_addMcp]
      simp only [requestShare] at hbefore
      cases hlast : lastUsage records record.requestKey with
      | none =>
        rw [hlast, Option.map_none, Option.map_eq_none_iff] at hknown
        simp only [hlast, Option.map_none, Option.getD_none, zero_add] at hbefore
        simp only [hknown, Option.getD_none, Option.isSome_none, Bool.false_eq_true, if_false]
        exact Tabulates.first hcounted (hbefore ▸ hnoted _) m
      | some prev =>
        rw [hlast, Option.map_some, Option.map_eq_some_iff] at hknown
        obtain ⟨state, hstate, heq⟩ := hknown
        obtain ⟨hmodel, htokens⟩ := Prod.mk.inj heq
        have hgains : prev.model = "" → record.model = "" := by
          intro hnone
          by_contra hsome
          exact hkept ⟨husage, hkey, hsome, prev, hlast, hnone⟩
        simp only [hlast, Option.map_some, Option.getD_some] at hbefore
        simp only [hstate, Option.getD_some, Option.isSome_some, if_true, hmodel, htokens]
        exact Tabulates.again hcounted (hbefore ▸ hnoted _) hgains m

end Aggregator

/-! ## Any records -/

def KeepsModels (records : List ParsedRecord) : Prop :=
  ∀ (before : List ParsedRecord) (record : ParsedRecord),
    before ++ [record] <+: records → ¬GainsModel before record

lemma keepsModels_of_models (h : ∀ record ∈ records, record.model ≠ "") :
    KeepsModels records := by
  rintro before record hstart ⟨-, -, -, prev, hlast, hnone⟩
  have husage : prev ∈ usages before := List.mem_of_mem_filter (List.mem_of_getLast? hlast)
  have hprev : prev ∈ before := List.mem_of_mem_filter husage
  exact h prev (hstart.subset (List.mem_append_left _ hprev)) hnone

lemma tabulates_ingestAll (hkept : KeepsModels records) :
    Aggregator.Knows records (Aggregator.ingestAll records).1 ∧
      (Aggregator.ingestAll records).1.Tabulates (usageOf records) := by
  induction records using List.reverseRecOn with
  | nil =>
    refine ⟨fun key _ => ?_, fun m => ?_⟩
    · simp [Aggregator.ingestAll, Aggregator.ingestFrom, lastUsage, usages]
    · rfl
  | append_singleton records record ih =>
    obtain ⟨hknows, htable⟩ := ih fun before last hstart =>
      hkept before last (hstart.trans (List.prefix_append _ _))
    rw [Aggregator.ingestAll, Aggregator.ingestFrom_append]
    exact ⟨hknows.ingest record, htable.ingest hknows (hkept records record (List.prefix_refl _))⟩

/-- The table of models counts every request for the model of its last record, and every record
without a request for its model, and has no other entries, if no request that was last reported
without a model gains one. -/
theorem byModel_exact (hkept : KeepsModels records) (transcriptPath : String) :
    ExactByModel records ((Aggregator.ingestAll records).1.snapshot transcriptPath).byModel := by
  obtain ⟨-, htable⟩ := tabulates_ingestAll hkept
  intro mt
  rw [Aggregator.snapshot, BTreeMap.mem_vals_iff]
  constructor
  · rintro ⟨m, hget⟩
    rw [htable m, entryOf] at hget
    split at hget
    · cases hget
    · next hturns =>
        cases hget
        exact ⟨hturns, rfl⟩
  · rintro ⟨hturns, hshare⟩
    refine ⟨mt.model, ?_⟩
    rw [htable, ← hshare, entryOf, if_neg hturns]

def changedModel : List ParsedRecord :=
  [{ requestId := "r", model := "m", tokens := ⟨10, 0, 0, 0⟩, hasUsage := true },
    { requestId := "r", model := "n", tokens := ⟨30, 0, 0, 0⟩, hasUsage := true }]

theorem byModel_exact_changedModel :
    ExactByModel changedModel ((Aggregator.ingestAll changedModel).1.snapshot "").byModel :=
  byModel_exact (keepsModels_of_models (by decide)) ""

def gainedModel : List ParsedRecord :=
  [{ requestId := "r", tokens := ⟨10, 0, 0, 0⟩, hasUsage := true },
    { requestId := "r", model := "m", tokens := ⟨30, 0, 0, 0⟩, hasUsage := true }]

/-- The model of the request has no turn and a part of its tokens; the rest stays under the
empty name. -/
theorem byModel_inexact_gainedModel :
    ((Aggregator.ingestAll gainedModel).1.snapshot "").byModel =
        [⟨"", 1, ⟨10, 0, 0, 0⟩⟩, ⟨"m", 0, ⟨20, 0, 0, 0⟩⟩] ∧
      usageOf gainedModel "m" = (⟨30, 0, 0, 0⟩, 1) ∧ usageOf gainedModel "" = 0 := by
  decide +kernel

end Ax.Usage
