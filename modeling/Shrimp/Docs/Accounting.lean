import Shrimp.Docs.FeishuPublisher

/-!
# What becomes of the charts (`doc_output/feishu_publisher.py`)

`publish_with_charts` either leaves all charts as they are, with one reason for all,
or calls the chart publisher once for each of them, and then every chart is a result
or is skipped.  Each call meets the documents and the service as they are then.

## Main definitions

* `Feishu.ofPublisher` — the calls are answered by the chart publisher.
* `Feishu.charts`, `Feishu.Upgrades` — the charts a position upgrades, and whether
  they are upgraded.
* `Accounted` — every chart is a result or is skipped.

## Main results

* `accounted_upgrade` — the calls of any list of charts account for it.
* `accounted_publishWithCharts` — **every chart is accounted for once.**
-/

namespace Shrimp
namespace Docs

/-- The chart a call is about: its code and its source. -/
def ChartCall.chart : ChartCall → Text × Text
  | fill _ chartCode _ source => (chartCode, source)
  | publish _ chartCode source _ _ => (chartCode, source)

/-- The code of a result. -/
def PublishResult.code (r : PublishResult) : Text := r.chartCode.toList

namespace Feishu

/-- A published text whose charts go through a chart publisher: `lark` and `blocks` are
the service and the document each of its calls meets, `describe` is `str` of an
exception. -/
def ofPublisher (url : Text) (fetch : Except String (List String)) (isPrintable : Char → Bool)
    (describe : ChartError → String) (lark : ℕ → Lark) (blocks : ℕ → List Block) : Feishu where
  url := url
  fetch := fetch
  answer k
    | .fill whiteboardToken chartCode chartType source =>
      ((lark k).fillExistingWhiteboard isPrintable whiteboardToken (String.ofList chartCode)
        chartType (String.ofList source)).mapError describe
    | .publish _ chartCode source chartType position =>
      ((lark k).publishChart isPrintable (blocks k) (String.ofList chartCode)
        (String.ofList source) chartType position).result.mapError describe

variable (feishu : Feishu)

/-- The charts a position upgrades. -/
def charts (content : Text) (position : String) : List (Text × Text) :=
  if position = "auto" then extractAllAnnotatedCharts content
  else extractUpgradableCharts content

/-- **The charts are upgraded**: the URL has a token and, for `auto`, the fetch succeeds
and finds a whiteboard for every chart. -/
def Upgrades (content : Text) (position : String) : Prop :=
  extractDocToken feishu.url ≠ none ∧ (position = "auto" →
    ∃ tokens, feishu.fetch = .ok tokens ∧ (charts content position).length ≤ tokens.length)

/-- Which of the calls succeed, from call `k` on. -/
def succeedsFrom (k : ℕ) (calls : List ChartCall) : List Bool :=
  (calls.zipIdx k).map fun c => (feishu.answer c.2 c.1).isOk

theorem succeedsFrom_cons (k : ℕ) (call : ChartCall) (calls : List ChartCall) :
    feishu.succeedsFrom k (call :: calls) =
      (feishu.answer k call).isOk :: feishu.succeedsFrom (k + 1) calls := rfl

/-- The results carry the codes of their charts. -/
def KeepsCodes (feishu : Feishu) : Prop :=
  ∀ k call r, feishu.answer k call = .ok r → r.code = call.chart.1

theorem keepsCodes_ofPublisher (url : Text) (fetch : Except String (List String))
    (isPrintable : Char → Bool) (describe : ChartError → String) (lark : ℕ → Lark)
    (blocks : ℕ → List Block) :
    (ofPublisher url fetch isPrintable describe lark blocks).KeepsCodes := by
  have hok : ∀ {x : Except ChartError PublishResult} {r : PublishResult},
      x.mapError describe = .ok r → x = .ok r := by
    intro x r h
    cases x with
    | error e => cases h
    | ok r' => exact congrArg Except.ok (Except.ok.inj h)
  intro k call r h
  cases call with
  | fill whiteboardToken chartCode chartType source =>
    rw [PublishResult.code, Lark.chartCode_of_fillExistingWhiteboard (hok h),
      String.toList_ofList]
    rfl
  | publish docToken chartCode source chartType position =>
    rw [PublishResult.code, Lark.chartCode_of_publishChart (hok h), String.toList_ofList]
    rfl

end Feishu

/-! ### The account -/

/-- The charts of the calls that have succeeded, or of those that have failed. -/
def chosen (charts : List (Text × Text)) (succeeded : List Bool) (ok : Bool) :
    List (Text × Text) :=
  ((charts.zip succeeded).filter fun c => c.2 = ok).map Prod.fst

/-- **Every chart is accounted for once**: there is one call for each chart, in the
order of the document; a chart is a result when its call succeeds, else it is skipped,
and both lists are in order. -/
structure Accounted (u : Upgrade) (charts : List (Text × Text)) (succeeded : List Bool) :
    Prop where
  calls : u.calls.map ChartCall.chart = charts
  one_each : succeeded.length = charts.length
  results : u.chartResults.map PublishResult.code = (chosen charts succeeded true).map Prod.fst
  skipped : u.skipped.map Prod.fst = (chosen charts succeeded false).map Prod.fst
  inOrder : ∀ ok, (chosen charts succeeded ok).Sublist charts
  once : (chosen charts succeeded true ++ chosen charts succeeded false).Perm charts

/-- Nothing is called, and one entry stands for all charts. -/
structure LeftAlone (u : Upgrade) : Prop where
  calls : u.calls = []
  results : u.chartResults = []
  skipped : ∃ reason, u.skipped = [("*".toList, reason)]

section

variable {charts : List (Text × Text)} {succeeded : List Bool}

theorem chosen_cons (c : Text × Text) (b ok : Bool) :
    chosen (c :: charts) (b :: succeeded) ok =
      if b = ok then c :: chosen charts succeeded ok else chosen charts succeeded ok := by
  unfold chosen
  rw [List.zip_cons_cons, List.filter_cons]
  by_cases h : b = ok
  · simp [h]
  · simp [h]

theorem map_fst_zip_succeeded (h : succeeded.length = charts.length) :
    (charts.zip succeeded).map Prod.fst = charts :=
  List.map_fst_zip h.ge

theorem sublist_chosen (h : succeeded.length = charts.length) (ok : Bool) :
    (chosen charts succeeded ok).Sublist charts := by
  have hsub : (chosen charts succeeded ok).Sublist ((charts.zip succeeded).map Prod.fst) :=
    List.filter_sublist.map Prod.fst
  rwa [map_fst_zip_succeeded h] at hsub

/-- **The two kinds of charts are all charts.** -/
theorem perm_chosen (h : succeeded.length = charts.length) :
    (chosen charts succeeded true ++ chosen charts succeeded false).Perm charts := by
  have hperm := (List.filter_append_perm (fun c => decide (c.2 = true))
    (charts.zip succeeded)).map Prod.fst
  rw [map_fst_zip_succeeded h, List.map_append] at hperm
  have hfalse : ∀ c : (Text × Text) × Bool, (!decide (c.2 = true)) = decide (c.2 = false) := by
    rintro ⟨c, ok⟩
    cases ok <;> rfl
  simp only [hfalse] at hperm
  exact hperm

end

section

variable {feishu : Feishu}

/-- What is returned and skipped by calls from the `k`-th on. -/
theorem codes_of_calls (hcodes : feishu.KeepsCodes) (calls : List (Text × ChartCall))
    (hcalls : ∀ c ∈ calls, c.2.chart.1 = c.1) (reason : String) (k : ℕ) :
    ((calls.zipIdx k).filterMap fun ((_, call), k) =>
        (feishu.answer k call).toOption).map PublishResult.code =
      (chosen (calls.map fun c => c.2.chart)
        (feishu.succeedsFrom k (calls.map Prod.snd)) true).map Prod.fst ∧
    ((calls.zipIdx k).filterMap fun ((code, call), k) =>
        match feishu.answer k call with
        | .ok _ => none
        | .error e => some (code, reason ++ " failed: " ++ e)).map Prod.fst =
      (chosen (calls.map fun c => c.2.chart)
        (feishu.succeedsFrom k (calls.map Prod.snd)) false).map Prod.fst := by
  induction calls generalizing k with
  | nil => exact ⟨rfl, rfl⟩
  | cons c calls ih =>
    obtain ⟨hresults, hskipped⟩ := ih (fun c hc => hcalls c (List.mem_cons_of_mem _ hc)) (k + 1)
    obtain ⟨code, call⟩ := c
    have hcode : call.chart.1 = code := hcalls (code, call) List.mem_cons_self
    simp only [List.map_cons, List.zipIdx_cons, List.filterMap_cons, Feishu.succeedsFrom_cons,
      chosen_cons]
    -- the call makes a result, or is skipped under the code of its chart
    cases hans : feishu.answer k call with
    | ok r =>
      have hr := hcodes k call r hans
      have hok : (Except.ok r : Except String PublishResult).isOk = true := rfl
      rw [hok, if_pos rfl, if_neg (by decide)]
      refine ⟨?_, hskipped⟩
      rw [List.map_cons, ← hresults, ← hr]
      rfl
    | error e =>
      have hok : (Except.error e : Except String PublishResult).isOk = false := rfl
      rw [hok, if_pos rfl, if_neg (by decide)]
      refine ⟨hresults, ?_⟩
      rw [List.map_cons, List.map_cons, ← hskipped, hcode]

/-- **The calls of a list of charts account for it.** -/
theorem accounted_upgrade (hcodes : feishu.KeepsCodes) (docToken : Text) (reason : String)
    (calls : List (Text × ChartCall)) (hcalls : ∀ c ∈ calls, c.2.chart.1 = c.1) :
    Accounted (feishu.upgrade docToken reason calls) (calls.map fun c => c.2.chart)
      (feishu.succeedsFrom 0 (calls.map Prod.snd)) := by
  have hlen : (feishu.succeedsFrom 0 (calls.map Prod.snd)).length =
      (calls.map fun c => c.2.chart).length := by
    rw [Feishu.succeedsFrom, List.length_map, List.length_zipIdx, List.length_map,
      List.length_map]
  obtain ⟨hresults, hskipped⟩ := codes_of_calls hcodes calls hcalls reason 0
  exact {
    calls := List.map_map
    one_each := hlen
    results := hresults
    skipped := hskipped
    inOrder := sublist_chosen hlen
    once := perm_chosen hlen }

end

/-- Charts paired with boards, no fewer than there are charts, are all paired. -/
theorem map_chart_fills {charts : List (Text × Text)} {tokens : List String}
    (h : charts.length ≤ tokens.length) :
    ((charts.zip tokens).map fun ((code, source), token) =>
      (code, ChartCall.fill token code (chartCodeType code) source)).map (fun c => c.2.chart) =
        charts := by
  rw [List.map_map]
  exact List.map_fst_zip h

theorem map_chart_publishes (charts : List (Text × Text)) (docToken : Text) (position : String) :
    (charts.map fun (code, source) => (code, ChartCall.publish docToken code source
      (chartCodeType code) position)).map (fun c => c.2.chart) = charts := by
  rw [List.map_map]
  exact List.map_id charts

section

variable {feishu : Feishu} {isPrintable : Char → Bool} {content : Text} {position : String}

/-- **When the charts are upgraded**, there is a call for each of them. -/
theorem publishWithCharts_of_upgrades (h : feishu.Upgrades content position) :
    ∃ docToken reason calls,
      feishu.publishWithCharts isPrintable content position =
        feishu.upgrade docToken reason calls ∧
      calls.map (fun c => c.2.chart) = Feishu.charts content position ∧
      ∀ c ∈ calls, c.2.chart.1 = c.1 := by
  obtain ⟨docToken, hurl⟩ := Option.ne_none_iff_exists'.mp h.1
  unfold Feishu.publishWithCharts Feishu.charts
  rw [hurl]
  by_cases hpos : position = "auto"
  · obtain ⟨tokens, hfetch, hle⟩ := h.2 hpos
    rw [Feishu.charts, if_pos hpos] at hle
    simp only [if_pos hpos, hfetch, if_neg (Nat.not_lt.mpr hle)]
    refine ⟨docToken, _, _, rfl, map_chart_fills hle, ?_⟩
    intro c hc
    obtain ⟨⟨⟨code, source⟩, token⟩, -, rfl⟩ := List.mem_map.mp hc
    rfl
  · simp only [if_neg hpos]
    refine ⟨docToken, _, _, rfl, map_chart_publishes .., ?_⟩
    intro c hc
    obtain ⟨⟨code, source⟩, -, rfl⟩ := List.mem_map.mp hc
    rfl

/-- **Else they are all skipped.** -/
theorem publishWithCharts_of_not_upgrades (h : ¬feishu.Upgrades content position) :
    ∃ docToken reason, feishu.publishWithCharts isPrintable content position =
      feishu.skipAll docToken reason := by
  unfold Feishu.publishWithCharts
  cases hurl : extractDocToken feishu.url with
  | none => exact ⟨none, _, rfl⟩
  | some docToken =>
    have hdoc : extractDocToken feishu.url ≠ none := by
      rw [hurl]
      exact Option.some_ne_none docToken
    by_cases hpos : position = "auto"
    · simp only [if_pos hpos]
      cases hfetch : feishu.fetch with
      | error e => exact ⟨_, _, rfl⟩
      | ok tokens =>
        by_cases hlen : tokens.length < (extractAllAnnotatedCharts content).length
        · exact ⟨_, _, if_pos hlen⟩
        · refine absurd ⟨hdoc, fun _ => ⟨tokens, hfetch, ?_⟩⟩ h
          rw [Feishu.charts, if_pos hpos]
          exact Nat.not_lt.mp hlen
    · exact absurd ⟨hdoc, fun hauto => absurd hauto hpos⟩ h

end

/-- **Every chart is accounted for once.**  The charts are all upgraded, one call for
each, or nothing is called and one entry stands for all. -/
theorem accounted_publishWithCharts (url : Text) (fetch : Except String (List String))
    (isPrintable : Char → Bool) (describe : ChartError → String) (lark : ℕ → Lark)
    (blocks : ℕ → List Block) (content : Text) (position : String) :
    let feishu := Feishu.ofPublisher url fetch isPrintable describe lark blocks
    let u := feishu.publishWithCharts isPrintable content position
    (feishu.Upgrades content position →
      Accounted u (Feishu.charts content position) (feishu.succeedsFrom 0 u.calls)) ∧
    (¬feishu.Upgrades content position → LeftAlone u) := by
  intro feishu u
  have hcodes : feishu.KeepsCodes :=
    Feishu.keepsCodes_ofPublisher url fetch isPrintable describe lark blocks
  refine ⟨fun h => ?_, fun h => ?_⟩
  · obtain ⟨docToken, reason, calls, heq, hcharts, hcalls⟩ := publishWithCharts_of_upgrades h
    have hu : u = feishu.upgrade docToken reason calls := heq
    rw [hu, ← hcharts]
    exact accounted_upgrade hcodes docToken reason calls hcalls
  · obtain ⟨docToken, reason, heq⟩ := publishWithCharts_of_not_upgrades h
    have hu : u = feishu.skipAll docToken reason := heq
    rw [hu]
    exact ⟨rfl, rfl, reason, rfl⟩

end Docs
end Shrimp
