import Mathlib.Algebra.BigOperators.Group.Finset.Piecewise
import Mathlib.Tactic.Abel
import Ax.Foundation.MapSums
import Ax.Proto.Types

/-!
# The usage aggregator

One aggregator reads one transcript.  A record may repeat a request that was
seen before, with newer counts; the aggregator then replaces what the request
counted for, and answers by how much its totals changed.  Token counts are
integers and do not overflow.

Main results:

- Theorem `ingestAll_coalesces`: after any records, the totals are those of the last
  record of every request and of all records without a request.
-/

namespace Ax.Usage

/-! ## Token counts -/

@[ext]
structure Tokens where
  input : Int
  output : Int
  cacheRead : Int
  cacheCreation : Int
deriving DecidableEq, Repr

namespace Tokens

def total (t : Tokens) : Int :=
  t.input + t.output + t.cacheRead + t.cacheCreation

instance : Zero Tokens := ⟨⟨0, 0, 0, 0⟩⟩

instance : Add Tokens :=
  ⟨fun a b => ⟨a.input + b.input, a.output + b.output, a.cacheRead + b.cacheRead,
    a.cacheCreation + b.cacheCreation⟩⟩

instance : Sub Tokens :=
  ⟨fun a b => ⟨a.input - b.input, a.output - b.output, a.cacheRead - b.cacheRead,
    a.cacheCreation - b.cacheCreation⟩⟩

instance : Neg Tokens :=
  ⟨fun a => ⟨-a.input, -a.output, -a.cacheRead, -a.cacheCreation⟩⟩

instance : AddCommGroup Tokens where
  add_assoc a b c := by ext <;> exact add_assoc _ _ _
  zero_add a := by ext <;> exact zero_add _
  add_zero a := by ext <;> exact add_zero _
  add_comm a b := by ext <;> exact add_comm _ _
  neg_add_cancel a := by ext <;> exact neg_add_cancel _
  sub_eq_add_neg a b := by ext <;> exact sub_eq_add_neg _ _
  nsmul := nsmulRec
  zsmul := zsmulRec

end Tokens

/-- Estimates of what the MCP server adds to the context. -/
@[ext]
structure MCPProxyMetrics where
  total : Int
  promptTokens : Int
  promptSignals : Int
  toolUseTokens : Int
  toolUseTurns : Int
deriving DecidableEq, Repr

namespace MCPProxyMetrics

instance : Zero MCPProxyMetrics := ⟨⟨0, 0, 0, 0, 0⟩⟩

/-- The source's `add_mcp`. -/
instance : Add MCPProxyMetrics :=
  ⟨fun a b => ⟨a.total + b.total, a.promptTokens + b.promptTokens,
    a.promptSignals + b.promptSignals, a.toolUseTokens + b.toolUseTokens,
    a.toolUseTurns + b.toolUseTurns⟩⟩

/-- The source's `sub_mcp`. -/
instance : Sub MCPProxyMetrics :=
  ⟨fun a b => ⟨a.total - b.total, a.promptTokens - b.promptTokens,
    a.promptSignals - b.promptSignals, a.toolUseTokens - b.toolUseTokens,
    a.toolUseTurns - b.toolUseTurns⟩⟩

instance : Neg MCPProxyMetrics :=
  ⟨fun a => ⟨-a.total, -a.promptTokens, -a.promptSignals, -a.toolUseTokens, -a.toolUseTurns⟩⟩

instance : AddCommGroup MCPProxyMetrics where
  add_assoc a b c := by ext <;> exact add_assoc _ _ _
  zero_add a := by ext <;> exact zero_add _
  add_zero a := by ext <;> exact add_zero _
  add_comm a b := by ext <;> exact add_comm _ _
  neg_add_cancel a := by ext <;> exact neg_add_cancel _
  sub_eq_add_neg a b := by ext <;> exact sub_eq_add_neg _ _
  nsmul := nsmulRec
  zsmul := zsmulRec

end MCPProxyMetrics

structure ModelTotals where
  model : String
  turns : Int
  totals : Tokens
deriving DecidableEq, Repr

def ModelTotals.share (mt : ModelTotals) : Tokens × Int :=
  (mt.totals, mt.turns)

/-! ## Records -/

/-- A line of a transcript. -/
structure ParsedRecord where
  sessionId : String := ""
  cwd : String := ""
  timestamp : Option Timestamp := none
  agentId : String := ""
  requestId : String := ""
  messageId : String := ""
  model : String := ""
  tokens : Tokens := 0
  mcpProxy : MCPProxyMetrics := 0
  hasUsage : Bool := false
  workspaceHint : String := ""
deriving DecidableEq, Repr

def ParsedRecord.requestKey (record : ParsedRecord) : String :=
  if record.requestId ≠ "" then "request:" ++ record.requestId
  else if record.messageId ≠ "" then "message:" ++ record.messageId
  else ""

structure AssistantRequestState where
  model : String := ""
  tokens : Tokens := 0
  usesMcp : Bool := false
  mcpProxy : MCPProxyMetrics := 0
deriving DecidableEq, Repr

/-- By how much a record changed the totals. -/
structure IngestResult where
  usageObserved : Bool := false
  tokensDelta : Tokens := 0
  mcpDelta : MCPProxyMetrics := 0
  turnDelta : Int := 0
deriving DecidableEq, Repr

/-- The additive part of a record's effect. -/
def IngestResult.delta (result : IngestResult) : Tokens × MCPProxyMetrics × Int :=
  (result.tokensDelta, result.mcpDelta, result.turnDelta)

/-! ## The aggregator -/

structure Aggregator where
  sessionId : String := ""
  sessionStart : Option Timestamp := none
  lastActivity : Option Timestamp := none
  cumulative : Tokens := 0
  cumulativeMcp : MCPProxyMetrics := 0
  byModel : BTreeMap String ModelTotals := ∅
  currentTokens : Tokens := 0
  currentMcp : MCPProxyMetrics := 0
  currentModel : String := ""
  turns : Int := 0
  requests : BTreeMap String AssistantRequestState := ∅

namespace Aggregator

def ensureModel (agg : Aggregator) (model : String) : ModelTotals :=
  agg.byModel[model]?.getD { model := model, turns := 0, totals := 0 }

def withModel (agg : Aggregator) (model : String) (change : ModelTotals → ModelTotals) :
    Aggregator :=
  { agg with byModel := agg.byModel.insert model (change (agg.ensureModel model)) }

def dropUnused (agg : Aggregator) (model : String) : Aggregator :=
  let mt := agg.ensureModel model
  if mt.turns = 0 ∧ mt.totals = 0 then { agg with byModel := agg.byModel.erase model } else agg

/-- Replaces `prevTokens` of one model by `nextTokens` of another in the totals. -/
def applyUsageDelta (agg : Aggregator) (prevModel : String) (prevTokens : Tokens)
    (nextModel : String) (nextTokens : Tokens) (turnDelta : Int) : Aggregator :=
  let agg := { agg with
    cumulative := agg.cumulative + (nextTokens - prevTokens)
    turns := agg.turns + turnDelta }
  if prevModel = "" ∨ prevModel = nextModel then
    agg.withModel nextModel fun mt =>
      { mt with totals := mt.totals + (nextTokens - prevTokens), turns := mt.turns + turnDelta }
  else
    let agg := agg.withModel prevModel fun mt =>
      { mt with totals := mt.totals - prevTokens, turns := mt.turns - 1 }
    (agg.dropUnused prevModel).withModel nextModel fun mt =>
      { mt with totals := mt.totals + nextTokens, turns := mt.turns + 1 }

/-- Adds to the MCP totals; `current` becomes the current estimate. -/
def addMcp (agg : Aggregator) (delta current : MCPProxyMetrics) : Aggregator :=
  if delta ≠ 0 then
    { agg with cumulativeMcp := agg.cumulativeMcp + delta, currentMcp := current }
  else
    agg

def nextRequestState (state : AssistantRequestState) (record : ParsedRecord) :
    AssistantRequestState :=
  let usesMcp := state.usesMcp || decide (0 < record.mcpProxy.toolUseTurns)
  { model := record.model
    tokens := record.tokens
    usesMcp := usesMcp
    mcpProxy :=
      if usesMcp then
        { total := record.tokens.total, promptTokens := 0, promptSignals := 0,
          toolUseTokens := record.tokens.total, toolUseTurns := 1 }
      else
        0 }

def noteSession (agg : Aggregator) (record : ParsedRecord) : Aggregator :=
  let agg := if record.sessionId ≠ "" then { agg with sessionId := record.sessionId } else agg
  match record.timestamp with
  | some ts => { agg with sessionStart := agg.sessionStart.or (some ts), lastActivity := some ts }
  | none => agg

def ingest (agg : Aggregator) (record : ParsedRecord) : Aggregator × IngestResult :=
  let agg := agg.noteSession record
  if !record.hasUsage then
    (agg.addMcp record.mcpProxy record.mcpProxy,
      { usageObserved := record.hasUsage, mcpDelta := record.mcpProxy })
  else
    let agg := { agg with currentTokens := record.tokens, currentModel := record.model }
    let key := record.requestKey
    if key = "" then
      -- A record without a request is a turn of its own.
      let agg := agg.applyUsageDelta "" 0 record.model record.tokens 1
      (agg.addMcp record.mcpProxy record.mcpProxy,
        { usageObserved := record.hasUsage, tokensDelta := record.tokens,
          mcpDelta := record.mcpProxy, turnDelta := 1 })
    else
      let turnDelta : Int := if agg.requests.contains key then 0 else 1
      let prev := agg.requests[key]?.getD {}
      let next := nextRequestState prev record
      let agg := { agg with requests := agg.requests.insert key next }
      let agg := agg.applyUsageDelta prev.model prev.tokens record.model record.tokens turnDelta
      let mcpDelta := next.mcpProxy - prev.mcpProxy
      (agg.addMcp mcpDelta next.mcpProxy,
        { usageObserved := record.hasUsage, tokensDelta := record.tokens - prev.tokens,
          mcpDelta := mcpDelta, turnDelta := turnDelta })

def ingestFrom (agg : Aggregator) : List ParsedRecord → Aggregator × List IngestResult
  | [] => (agg, [])
  | record :: records =>
    let (next, result) := agg.ingest record
    let (last, results) := next.ingestFrom records
    (last, result :: results)

def ingestAll (records : List ParsedRecord) : Aggregator × List IngestResult :=
  ({} : Aggregator).ingestFrom records

/-- The state of an aggregator as others see it. -/
structure Snapshot where
  sessionId : String := ""
  transcriptPath : String := ""
  sessionStart : Option Timestamp := none
  lastActivity : Option Timestamp := none
  cumulativeTotals : Tokens := 0
  cumulativeMcp : MCPProxyMetrics := 0
  byModel : List ModelTotals := []
  currentContext : Tokens := 0
  currentMcp : MCPProxyMetrics := 0
  currentModel : String := ""
  turns : Int := 0
  available : Bool := false
deriving DecidableEq, Repr

/-- The source's `snapshot`.  The models come in the order of the table, that of their names. -/
def snapshot (agg : Aggregator) (transcriptPath : String) : Snapshot :=
  { sessionId := agg.sessionId
    transcriptPath := transcriptPath
    sessionStart := agg.sessionStart
    lastActivity := agg.lastActivity
    cumulativeTotals := agg.cumulative
    cumulativeMcp := agg.cumulativeMcp
    byModel := agg.byModel.vals
    currentContext := agg.currentTokens
    currentMcp := agg.currentMcp
    currentModel := agg.currentModel
    turns := agg.turns
    available := decide (0 < agg.turns) || agg.sessionId ≠ "" }

end Aggregator

/-! ## One record -/

namespace Aggregator

variable (agg : Aggregator) (record : ParsedRecord)

def totals : Tokens × MCPProxyMetrics × Int :=
  (agg.cumulative, agg.cumulativeMcp, agg.turns)

def modelTotals : Tokens × Int :=
  BTreeMap.sumOf ModelTotals.share agg.byModel

@[simp]
lemma totals_noteSession : (agg.noteSession record).totals = agg.totals := by
  simp only [noteSession, totals]
  split <;> split <;> rfl

@[simp]
lemma byModel_noteSession : (agg.noteSession record).byModel = agg.byModel := by
  simp only [noteSession]
  split <;> split <;> rfl

@[simp]
lemma requests_noteSession : (agg.noteSession record).requests = agg.requests := by
  simp only [noteSession]
  split <;> split <;> rfl

variable (delta current : MCPProxyMetrics)

@[simp]
lemma byModel_addMcp : (agg.addMcp delta current).byModel = agg.byModel := by
  simp only [addMcp]
  split <;> rfl

@[simp]
lemma requests_addMcp : (agg.addMcp delta current).requests = agg.requests := by
  simp only [addMcp]
  split <;> rfl

lemma totals_addMcp : (agg.addMcp delta current).totals = agg.totals + (0, delta, 0) := by
  simp only [addMcp, totals]
  split
  · simp
  · next hzero =>
      have hdelta : delta = 0 := not_not.mp hzero
      simp [hdelta]

variable (model : String)

@[simp]
lemma requests_dropUnused : (agg.dropUnused model).requests = agg.requests := by
  simp only [dropUnused]
  split <;> rfl

@[simp]
lemma totals_dropUnused : (agg.dropUnused model).totals = agg.totals := by
  simp only [dropUnused]
  split <;> rfl

@[simp]
lemma requests_withModel (change : ModelTotals → ModelTotals) :
    (agg.withModel model change).requests = agg.requests :=
  rfl

@[simp]
lemma totals_withModel (change : ModelTotals → ModelTotals) :
    (agg.withModel model change).totals = agg.totals :=
  rfl

@[simp]
lemma requests_applyUsageDelta (prevModel nextModel : String) (prevTokens nextTokens : Tokens)
    (turnDelta : Int) :
    (agg.applyUsageDelta prevModel prevTokens nextModel nextTokens turnDelta).requests =
      agg.requests := by
  simp only [applyUsageDelta]
  split <;> simp

lemma totals_applyUsageDelta (prevModel nextModel : String) (prevTokens nextTokens : Tokens)
    (turnDelta : Int) :
    (agg.applyUsageDelta prevModel prevTokens nextModel nextTokens turnDelta).totals =
      agg.totals + (nextTokens - prevTokens, 0, turnDelta) := by
  simp only [applyUsageDelta]
  split
  · rw [totals_withModel]
    simp [totals]
  · rw [totals_withModel, totals_dropUnused, totals_withModel]
    simp [totals]

variable {agg}

lemma modelTotals_withModel {change : ModelTotals → ModelTotals} {d : Tokens × Int}
    (hchange : ∀ mt : ModelTotals, (change mt).share = mt.share + d) :
    (agg.withModel model change).modelTotals = agg.modelTotals + d :=
  BTreeMap.sumOf_alter agg.byModel model rfl (hchange _)

lemma amountAt_of_unused {model : String}
    (hunused : (agg.ensureModel model).turns = 0 ∧ (agg.ensureModel model).totals = 0) :
    BTreeMap.amountAt ModelTotals.share agg.byModel model = 0 := by
  cases hget : agg.byModel[model]? with
  | none => simp [BTreeMap.amountAt, hget]
  | some mt =>
    simp only [ensureModel, hget, Option.getD_some] at hunused
    simp [BTreeMap.amountAt, hget, ModelTotals.share, hunused]

@[simp]
lemma modelTotals_dropUnused : (agg.dropUnused model).modelTotals = agg.modelTotals := by
  simp only [dropUnused]
  split
  · next hunused =>
      rw [modelTotals, BTreeMap.sumOf_erase, amountAt_of_unused hunused, sub_zero]
      rfl
  · rfl

lemma modelTotals_applyUsageDelta {prevModel nextModel : String}
    {prevTokens nextTokens : Tokens} {turnDelta : Int} (hturn : prevModel ≠ "" → turnDelta = 0) :
    (agg.applyUsageDelta prevModel prevTokens nextModel nextTokens turnDelta).modelTotals =
      agg.modelTotals + (nextTokens - prevTokens, turnDelta) := by
  simp only [applyUsageDelta]
  split
  · exact modelTotals_withModel nextModel fun mt => rfl
  · next hchanged =>
      have hmoved : ((-prevTokens, -1) : Tokens × Int) + (nextTokens, 1) =
          (nextTokens - prevTokens, turnDelta) := by
        rw [hturn fun hnone => hchanged (Or.inl hnone)]
        exact Prod.ext (neg_add_eq_sub _ _) rfl
      rw [modelTotals_withModel nextModel (d := (nextTokens, 1)) fun mt => rfl,
        modelTotals_dropUnused,
        modelTotals_withModel prevModel (d := (-prevTokens, -1)) fun mt => by
          simp [ModelTotals.share, sub_eq_add_neg],
        add_assoc, hmoved]
      rfl

variable (agg : Aggregator)

lemma totals_ingest (record : ParsedRecord) :
    (agg.ingest record).1.totals = agg.totals + (agg.ingest record).2.delta := by
  simp only [ingest]
  split
  · simp [totals_addMcp, IngestResult.delta]
  · have hnote := totals_noteSession agg record
    simp only [totals] at hnote
    split
    · rw [totals_addMcp, totals_applyUsageDelta]
      simp [totals, hnote, IngestResult.delta]
    · rw [totals_addMcp, totals_applyUsageDelta]
      simp [totals, hnote, IngestResult.delta]

lemma modelTotals_ingest (record : ParsedRecord) :
    (agg.ingest record).1.modelTotals =
      agg.modelTotals +
        ((agg.ingest record).2.tokensDelta, (agg.ingest record).2.turnDelta) := by
  simp only [ingest]
  split
  · simp [modelTotals]
  · split
    · rw [modelTotals, byModel_addMcp, ← modelTotals, modelTotals_applyUsageDelta (by simp)]
      simp [modelTotals]
    · rw [modelTotals, byModel_addMcp, ← modelTotals, modelTotals_applyUsageDelta]
      · simp [modelTotals]
      · -- A request that is new has no model yet.
        intro hmodel
        rw [if_pos]
        by_contra hnew
        apply hmodel
        rw [Std.ExtTreeMap.contains_iff_mem] at hnew
        rw [Std.ExtTreeMap.getElem?_eq_none hnew, Option.getD_none]

variable {record : ParsedRecord}

lemma ingest_keyless (husage : record.hasUsage = true) (hkey : record.requestKey = "")
    (agg : Aggregator) :
    (agg.ingest record).2.tokensDelta = record.tokens ∧ (agg.ingest record).2.turnDelta = 1 := by
  simp [ingest, husage, hkey]

lemma ingest_keyed (husage : record.hasUsage = true) (hkey : record.requestKey ≠ "")
    (agg : Aggregator) :
    (agg.ingest record).2.tokensDelta =
        record.tokens - BTreeMap.amountAt AssistantRequestState.tokens agg.requests
          record.requestKey ∧
      (agg.ingest record).2.turnDelta = if record.requestKey ∈ agg.requests then 0 else 1 := by
  have hprev (state? : Option AssistantRequestState) :
      (state?.getD {}).tokens = (state?.map AssistantRequestState.tokens).getD 0 := by
    cases state? <;> rfl
  simp [ingest, husage, hkey, BTreeMap.amountAt, hprev]

lemma ingest_noUsage (husage : record.hasUsage = false) (agg : Aggregator) :
    (agg.ingest record).2.tokensDelta = 0 ∧ (agg.ingest record).2.turnDelta = 0 := by
  simp [ingest, husage]

lemma requests_ingest_of_not (record : ParsedRecord)
    (hnot : ¬ (record.hasUsage = true ∧ record.requestKey ≠ "")) (agg : Aggregator) :
    (agg.ingest record).1.requests = agg.requests := by
  simp only [ingest]
  split
  · simp
  · split
    · simp
    · next husage hkey => exact absurd ⟨by simpa using husage, hkey⟩ hnot

lemma requests_ingest (husage : record.hasUsage = true) (hkey : record.requestKey ≠ "")
    (agg : Aggregator) :
    (agg.ingest record).1.requests =
      agg.requests.insert record.requestKey
        (nextRequestState (agg.requests[record.requestKey]?.getD {}) record) := by
  simp [ingest, husage, hkey]

/-! ## Any records -/

lemma ingestFrom_append (records : List ParsedRecord) (record : ParsedRecord) :
    agg.ingestFrom (records ++ [record]) =
      (((agg.ingestFrom records).1.ingest record).1,
        (agg.ingestFrom records).2 ++ [((agg.ingestFrom records).1.ingest record).2]) := by
  induction records generalizing agg with
  | nil => rfl
  | cons head tail ih => simp [ingestFrom, ih]

lemma totals_ingestFrom (records : List ParsedRecord) :
    (agg.ingestFrom records).1.totals =
      agg.totals + ((agg.ingestFrom records).2.map IngestResult.delta).sum := by
  induction records generalizing agg with
  | nil => simp [ingestFrom]
  | cons record records ih =>
    rw [ingestFrom, List.map_cons, List.sum_cons, ← add_assoc, ← totals_ingest]
    exact ih _

end Aggregator

def usages (records : List ParsedRecord) : List ParsedRecord :=
  records.filter ParsedRecord.hasUsage

def keyless (records : List ParsedRecord) : List ParsedRecord :=
  (usages records).filter fun record => record.requestKey = ""

def keys (records : List ParsedRecord) : Finset String :=
  ((usages records).map ParsedRecord.requestKey).toFinset.erase ""

def lastUsage (records : List ParsedRecord) (key : String) : Option ParsedRecord :=
  ((usages records).filter fun record => record.requestKey = key).getLast?

def lastTokens (records : List ParsedRecord) (key : String) : Tokens :=
  (((usages records).filter fun record => record.requestKey = key).getLast?.map
    ParsedRecord.tokens).getD 0

structure Coalesced (records : List ParsedRecord) (agg : Aggregator)
    (results : List IngestResult) : Prop where
  tokens : agg.cumulative =
    ∑ key ∈ keys records, lastTokens records key + ((keyless records).map ParsedRecord.tokens).sum
  turns : agg.turns = (keys records).card + (keyless records).length
  tokenDeltas : (results.map IngestResult.tokensDelta).sum = agg.cumulative
  mcpDeltas : (results.map IngestResult.mcpDelta).sum = agg.cumulativeMcp
  turnDeltas : (results.map IngestResult.turnDelta).sum = agg.turns
  modelTokens : (agg.byModel.vals.map ModelTotals.totals).sum = agg.cumulative
  modelTurns : (agg.byModel.vals.map ModelTotals.turns).sum = agg.turns

lemma empty_notMem_keys (records : List ParsedRecord) : "" ∉ keys records :=
  Finset.notMem_erase _ _

section Append

variable {records : List ParsedRecord} {record : ParsedRecord}

lemma usages_append_noUsage (husage : record.hasUsage = false) :
    usages (records ++ [record]) = usages records := by
  simp [usages, husage]

variable (husage : record.hasUsage = true)
include husage

lemma usages_append_usage : usages (records ++ [record]) = usages records ++ [record] := by
  simp [usages, husage]

lemma keyless_append_keyless (hkey : record.requestKey = "") :
    keyless (records ++ [record]) = keyless records ++ [record] := by
  simp [keyless, usages_append_usage husage, hkey]

lemma keyless_append_keyed (hkey : record.requestKey ≠ "") :
    keyless (records ++ [record]) = keyless records := by
  simp [keyless, usages_append_usage husage, hkey]

lemma keys_append_keyless (hkey : record.requestKey = "") :
    keys (records ++ [record]) = keys records := by
  ext key
  simp only [keys, usages_append_usage husage, Finset.mem_erase, List.mem_toFinset,
    List.map_append, List.mem_append, List.map_cons, List.map_nil, List.mem_singleton, hkey]
  tauto

lemma keys_append_keyed (hkey : record.requestKey ≠ "") :
    keys (records ++ [record]) = insert record.requestKey (keys records) := by
  ext key
  simp only [keys, usages_append_usage husage, Finset.mem_erase, Finset.mem_insert,
    List.mem_toFinset, List.map_append, List.mem_append, List.map_cons, List.map_nil,
    List.mem_singleton]
  constructor
  · rintro ⟨hne, hmem | rfl⟩
    · exact Or.inr ⟨hne, hmem⟩
    · exact Or.inl rfl
  · rintro (rfl | ⟨hne, hmem⟩)
    · exact ⟨hkey, Or.inr rfl⟩
    · exact ⟨hne, Or.inl hmem⟩

lemma lastUsage_append_usage :
    lastUsage (records ++ [record]) =
      Function.update (lastUsage records) record.requestKey (some record) := by
  funext key
  rw [Function.update_apply]
  by_cases hkey : key = record.requestKey
  · simp [lastUsage, usages_append_usage husage, hkey]
  · simp [lastUsage, usages_append_usage husage, hkey, Ne.symm hkey]

lemma lastTokens_append_usage :
    lastTokens (records ++ [record]) =
      Function.update (lastTokens records) record.requestKey record.tokens := by
  funext key
  rw [lastTokens, ← lastUsage, lastUsage_append_usage husage, Function.update_apply,
    Function.update_apply]
  split <;> rfl

end Append

lemma lastUsage_of_notMem {records : List ParsedRecord} {key : String}
    (hkey : key ≠ "") (hnot : key ∉ keys records) : lastUsage records key = none := by
  have hnone : (usages records).filter (fun record => record.requestKey = key) = [] := by
    rw [List.filter_eq_nil_iff]
    intro record hrecord
    simp only [decide_eq_true_eq]
    rintro rfl
    exact hnot (Finset.mem_erase.mpr ⟨hkey, List.mem_toFinset.mpr (List.mem_map_of_mem hrecord)⟩)
  simp [lastUsage, hnone]

lemma lastTokens_of_notMem {records : List ParsedRecord} {key : String}
    (hkey : key ≠ "") (hnot : key ∉ keys records) : lastTokens records key = 0 := by
  rw [lastTokens, ← lastUsage, lastUsage_of_notMem hkey hnot]
  rfl

lemma sum_insert_update {M : Type} [AddCommGroup M] {s : Finset String} {f : String → M}
    {key : String} (v : M) (hnew : key ∉ s → f key = 0) :
    ∑ k ∈ insert key s, Function.update f key v k = ∑ k ∈ s, f k + (v - f key) := by
  by_cases hmem : key ∈ s
  · rw [Finset.insert_eq_of_mem hmem, Finset.sum_update_of_mem hmem,
      Finset.sum_eq_add_sum_sdiff_singleton_of_mem hmem f]
    abel
  · rw [Finset.sum_insert hmem, Function.update_self, Finset.sum_update_of_notMem hmem, hnew hmem,
      sub_zero, add_comm]

lemma sum_map_pair {α M N : Type} [AddCommMonoid M] [AddCommMonoid N] (f : α → M) (g : α → N)
    (l : List α) : (l.map fun a => (f a, g a)).sum = ((l.map f).sum, (l.map g).sum) := by
  induction l with
  | nil => rfl
  | cons a l ih => simp [ih]

lemma sum_map_delta (results : List IngestResult) :
    (results.map IngestResult.delta).sum =
      ((results.map IngestResult.tokensDelta).sum, (results.map IngestResult.mcpDelta).sum,
        (results.map IngestResult.turnDelta).sum) := by
  rw [← sum_map_pair, ← sum_map_pair]
  rfl

lemma sum_map_share (models : List ModelTotals) :
    (models.map ModelTotals.share).sum =
      ((models.map ModelTotals.totals).sum, (models.map ModelTotals.turns).sum) :=
  sum_map_pair _ _ models

namespace Aggregator

structure Remembers (records : List ParsedRecord) (agg : Aggregator) : Prop where
  mem_iff : ∀ key : String, key ∈ agg.requests ↔ key ∈ keys records
  tokens : ∀ key : String, key ≠ "" →
    BTreeMap.amountAt AssistantRequestState.tokens agg.requests key = lastTokens records key

lemma Remembers.ingest {records : List ParsedRecord} {agg : Aggregator}
    (h : Remembers records agg) (record : ParsedRecord) :
    Remembers (records ++ [record]) (agg.ingest record).1 := by
  cases husage : record.hasUsage with
  | false =>
    have hsame := requests_ingest_of_not record (by simp [husage]) agg
    constructor
    · intro key
      rw [hsame, h.mem_iff, keys, keys, usages_append_noUsage husage]
    · intro key hkey
      rw [hsame, h.tokens key hkey, lastTokens, lastTokens, usages_append_noUsage husage]
  | true =>
    by_cases hrequest : record.requestKey = ""
    · have hsame := requests_ingest_of_not record (by simp [hrequest]) agg
      constructor
      · intro key
        rw [hsame, h.mem_iff, keys_append_keyless husage hrequest]
      · intro key hkey
        rw [hsame, h.tokens key hkey, lastTokens_append_usage husage, hrequest,
          Function.update_of_ne hkey]
    · have hnext := requests_ingest husage hrequest agg
      constructor
      · intro key
        rw [hnext, Std.ExtTreeMap.mem_insert, h.mem_iff, keys_append_keyed husage hrequest,
          Finset.mem_insert, Std.LawfulEqOrd.compare_eq_iff_eq, eq_comm]
      · intro key hkey
        rw [hnext, BTreeMap.amountAt_insert, h.tokens key hkey, lastTokens_append_usage husage,
          Function.update_apply]
        rfl

lemma requests_ingestAll (records : List ParsedRecord) :
    Remembers records (ingestAll records).1 := by
  induction records using List.reverseRecOn with
  | nil => exact ⟨fun key => by simp [ingestAll, ingestFrom, keys, usages],
      fun key _ => by simp [ingestAll, ingestFrom, lastTokens, usages]⟩
  | append_singleton records record ih =>
    rw [ingestAll, ingestFrom_append]
    exact ih.ingest record

lemma cumulative_ingestAll (records : List ParsedRecord) :
    (ingestAll records).1.cumulative =
        ∑ key ∈ keys records, lastTokens records key +
          ((keyless records).map ParsedRecord.tokens).sum ∧
      (ingestAll records).1.turns = (keys records).card + (keyless records).length := by
  induction records using List.reverseRecOn with
  | nil => exact ⟨rfl, rfl⟩
  | append_singleton records record ih =>
    obtain ⟨htokens, hturns⟩ := ih
    have hremembers := requests_ingestAll records
    rw [ingestAll, ingestFrom_append, ← ingestAll]
    have hadds := totals_ingest (ingestAll records).1 record
    simp only [totals, IngestResult.delta, Prod.mk_add_mk, Prod.mk.injEq] at hadds
    rw [hadds.1, hadds.2.2, htokens, hturns]
    cases husage : record.hasUsage with
    | false =>
      obtain ⟨htokensDelta, hturnDelta⟩ := ingest_noUsage husage (ingestAll records).1
      simp only [htokensDelta, hturnDelta, keys, keyless, lastTokens,
        usages_append_noUsage husage, add_zero, and_self]
    | true =>
      by_cases hkey : record.requestKey = ""
      · obtain ⟨htokensDelta, hturnDelta⟩ := ingest_keyless husage hkey (ingestAll records).1
        rw [htokensDelta, hturnDelta, keys_append_keyless husage hkey,
          keyless_append_keyless husage hkey, lastTokens_append_usage husage, hkey,
          Finset.sum_update_of_notMem (empty_notMem_keys _), List.map_append,
          List.sum_append, List.length_append]
        exact ⟨by simp [add_assoc], by push_cast; exact add_assoc _ _ _⟩
      · obtain ⟨htokensDelta, hturnDelta⟩ := ingest_keyed husage hkey (ingestAll records).1
        rw [htokensDelta, hturnDelta, keys_append_keyed husage hkey,
          keyless_append_keyed husage hkey, lastTokens_append_usage husage,
          sum_insert_update _ (lastTokens_of_notMem hkey), hremembers.tokens _ hkey]
        refine ⟨add_right_comm _ _ _, ?_⟩
        by_cases hmem : record.requestKey ∈ keys records
        · rw [if_pos ((hremembers.mem_iff _).mpr hmem), Finset.insert_eq_of_mem hmem, add_zero]
        · rw [if_neg (mt (hremembers.mem_iff _).mp hmem), Finset.card_insert_of_notMem hmem]
          push_cast
          exact add_right_comm _ _ _

lemma modelTotals_ingestFrom (agg : Aggregator) (records : List ParsedRecord)
    (h : agg.modelTotals = (agg.cumulative, agg.turns)) :
    (agg.ingestFrom records).1.modelTotals =
      ((agg.ingestFrom records).1.cumulative, (agg.ingestFrom records).1.turns) := by
  induction records generalizing agg with
  | nil => exact h
  | cons record records ih =>
    have hadds := totals_ingest agg record
    simp only [totals, IngestResult.delta, Prod.mk_add_mk, Prod.mk.injEq] at hadds
    have hnext : (agg.ingest record).1.modelTotals =
        ((agg.ingest record).1.cumulative, (agg.ingest record).1.turns) := by
      rw [modelTotals_ingest, h, hadds.1, hadds.2.2, Prod.mk_add_mk]
    exact ih (agg.ingest record).1 hnext

/-- After any records, every request counts once. -/
theorem ingestAll_coalesces (records : List ParsedRecord) :
    Coalesced records (ingestAll records).1 (ingestAll records).2 := by
  obtain ⟨htokens, hturns⟩ := cumulative_ingestAll records
  have hdeltas := totals_ingestFrom {} records
  have hmodels := modelTotals_ingestFrom {} records rfl
  rw [← ingestAll, sum_map_delta] at hdeltas
  rw [← ingestAll, modelTotals, BTreeMap.sumOf, sum_map_share] at hmodels
  simp only [totals, Prod.mk_add_mk, Prod.mk.injEq, zero_add] at hdeltas hmodels
  exact {
    tokens := htokens
    turns := hturns
    tokenDeltas := hdeltas.1.symm
    mcpDeltas := hdeltas.2.1.symm
    turnDeltas := hdeltas.2.2.symm
    modelTokens := hmodels.1
    modelTurns := hmodels.2 }

end Aggregator
end Ax.Usage
