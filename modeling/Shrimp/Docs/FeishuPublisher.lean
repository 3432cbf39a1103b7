import Shrimp.Docs.ChartPublisher
import Shrimp.Docs.Mermaid
import Shrimp.Lib.First

/-!
# Upgrading the charts of a document (`doc_output/feishu_publisher.py`)

`publish_with_charts` publishes a markdown text and upgrades its annotated mermaid
fences to whiteboards.  With `position="auto"` Feishu has made a blank whiteboard of
every fence by itself, and the annotated sources are pushed to the whiteboards one
by one: the first to the first, the second to the second.  Fences without an
annotation have a whiteboard too, so one of them shifts all that follow.

What `publish` and the chart publisher answer is a parameter.

## Main definitions

* `extractAllAnnotatedCharts`, `extractUpgradableCharts` — the charts of a text.
* `Feishu` — what the services answer on a published text.
* `publishWithCharts` — `FeishuPublisher.publish_with_charts`.
* `Inline` — a whiteboard for every mermaid fence, in the order of the document.
* `Faithful` — every source goes to the whiteboard of its own fence.
* `Aligned` — no fence without an annotation stands before an annotated one.

## Main results

* `aligned_iff_prefix` — the annotated fences are the first ones when their places
  begin the places of all fences.
* `faithful_iff` — **the pairing is faithful exactly when nothing is pushed or the
  annotated fences are the first fences.**
-/

namespace Shrimp
namespace Docs

/-! ### The charts of a text -/

/-- `_UPGRADE_CHART_CODES`. -/
def upgradeChartCodes : List Text := ["D-ARCH".toList, "D-SEQ".toList, "D-DAG".toList]

/-- `_CHART_CODE_TYPE`. -/
def chartCodeTypes : List (Text × String) := [
  ("D-ARCH".toList, "flowchart"), ("D-SEQ".toList, "sequence"), ("D-DAG".toList, "flowchart"),
  ("D-CLASS".toList, "er-diagram"), ("D-STATE".toList, "state-machine"),
  ("D-DECISION".toList, "flowchart"), ("D-MIND".toList, "mindmap"),
  ("D-GANTT".toList, "flowchart"), ("D-ERR".toList, "flowchart")]

/-- The chart type of a code; `_DEFAULT_CHART_TYPE` of an unknown one. -/
def chartCodeType (code : Text) : String := (chartCodeTypes.lookup code).getD "flowchart"

/-- The source of an annotated fence, with the line break at its end put back. -/
def AnnotatedChart.source (c : AnnotatedChart) : Text := c.body ++ ['\n']

/-- `extract_all_annotated_charts`. -/
def extractAllAnnotatedCharts (markdown : Text) : List (Text × Text) :=
  (annotatedCharts markdown).map fun c => (c.code, c.source)

/-- `extract_upgradable_charts`. -/
def extractUpgradableCharts (markdown : Text) : List (Text × Text) :=
  (extractAllAnnotatedCharts markdown).filter fun c => c.1 ∈ upgradeChartCodes

def isAlnum (c : Char) : Bool :=
  ('A' ≤ c ∧ c ≤ 'Z') ∨ ('a' ≤ c ∧ c ≤ 'z') ∨ ('0' ≤ c ∧ c ≤ '9')

/-- `_extract_doc_token`: what stands behind the first `/docx/` that has a letter or a
digit behind it. -/
def extractDocToken : Text → Option Text
  | [] => none
  | c :: url =>
    match afterPrefix "/docx/".toList (c :: url) with
    | some rest =>
      if rest.takeWhile isAlnum ≠ [] then some (rest.takeWhile isAlnum) else extractDocToken url
    | none => extractDocToken url

/-! ### The publisher -/

/-- A call of the chart publisher. -/
inductive ChartCall
  /-- `fill_existing_whiteboard`. -/
  | fill (whiteboardToken : String) (chartCode : Text) (chartType : String) (source : Text)
  /-- `publish_chart`. -/
  | publish (docToken chartCode source : Text) (chartType position : String)
  deriving DecidableEq

/-- What is answered on a published text. -/
structure Feishu where
  /-- What `publish` returns. -/
  url : Text
  /-- The tokens of the whiteboard tags `docs_fetch` returns, or its error. -/
  fetch : Except String (List String)
  /-- What the chart publisher answers to its calls, the first, the second, … -/
  answer : ℕ → ChartCall → Except String PublishResult

/-- What `publish_with_charts` returns, with the calls it has made. -/
structure Upgrade where
  url : Text
  docToken : Option Text
  calls : List ChartCall
  chartResults : List PublishResult
  skipped : List (Text × String)

namespace Feishu

variable (feishu : Feishu)

/-- Make the calls of the charts one after another: a call that fails is skipped. -/
def upgrade (docToken : Text) (reason : String) (calls : List (Text × ChartCall)) : Upgrade where
  url := feishu.url
  docToken := some docToken
  calls := calls.map Prod.snd
  chartResults := calls.zipIdx.filterMap fun ((_, call), k) => (feishu.answer k call).toOption
  skipped := calls.zipIdx.filterMap fun ((code, call), k) =>
    match feishu.answer k call with
    | .ok _ => none
    | .error e => some (code, reason ++ " failed: " ++ e)

/-- Leave all charts as they are. -/
def skipAll (docToken : Option Text) (reason : String) : Upgrade :=
  ⟨feishu.url, docToken, [], [], [("*".toList, reason)]⟩

/-- `publish_with_charts`. -/
def publishWithCharts (isPrintable : Char → Bool) (content : Text) (position : String) : Upgrade :=
  match extractDocToken feishu.url with
  | none => feishu.skipAll none ("could not extract doc_token from URL: " ++
      reprStr isPrintable (String.ofList feishu.url))
  | some docToken =>
    if position = "auto" then
      let upgradables := extractAllAnnotatedCharts content
      match feishu.fetch with
      | .error e => feishu.skipAll (some docToken) ("docs +fetch failed: " ++ e)
      | .ok existingTokens =>
        if existingTokens.length < upgradables.length then
          feishu.skipAll (some docToken) ("Feishu auto-created only " ++
            toString existingTokens.length ++ " whiteboards but " ++
            toString upgradables.length ++ " upgradable mermaid blocks " ++
            "were found in source — pairing skipped to avoid mismatch")
        else
          feishu.upgrade docToken "fill_existing_whiteboard" <|
            (upgradables.zip existingTokens).map fun ((code, source), token) =>
              (code, .fill token code (chartCodeType code) source)
    else
      feishu.upgrade docToken "publish_chart" <|
        (extractUpgradableCharts content).map fun (code, source) =>
          (code, .publish docToken code source (chartCodeType code) position)

end Feishu

/-! ### Whiteboards and fences -/

/-- The whiteboards Feishu has made of a published text: one for every mermaid fence,
in the order of the document. -/
structure Inline where
  /-- The places of the mermaid fences. -/
  fences : List ℕ
  inOrder : fences.Pairwise (· < ·)
  /-- The whiteboards made of them. -/
  tokens : List String
  distinct : tokens.Nodup
  one_each : tokens.length = fences.length

/-- The whiteboard was made of the fence at this place. -/
def Inline.MadeOf (boards : Inline) (token : String) (place : ℕ) : Prop :=
  ∃ k : ℕ, boards.tokens[k]? = some token ∧ boards.fences[k]? = some place

/-- **The pairing is faithful**: the source of every annotated fence that is pushed
goes to the whiteboard made of that fence; and where charts are not pushed, they are
reported. -/
structure Faithful (boards : Inline) (content : Text) (u : Upgrade) : Prop where
  own : ∀ (k : ℕ) (call : ChartCall), u.calls[k]? = some call → ∃ c token,
    (annotatedCharts content)[k]? = some c ∧
      call = .fill token c.code (chartCodeType c.code) c.source ∧ boards.MadeOf token c.place
  reported : u.calls = [] → annotatedCharts content ≠ [] → u.skipped ≠ []

/-- **The annotated fences are the first fences**: each is a fence of the document,
and no fence without an annotation stands before it. -/
def Aligned (boards : Inline) (content : Text) : Prop :=
  ∀ c ∈ annotatedCharts content, c.place ∈ boards.fences ∧
    ∀ place ∈ boards.fences, place < c.place → ∃ c' ∈ annotatedCharts content, c'.place = place

/-- Nothing is pushed: there is no token in the URL, the fetch fails, or there are
fewer whiteboards than annotated fences. -/
def PushesNothing (feishu : Feishu) (content : Text) : Prop :=
  extractDocToken feishu.url = none ∨
    match feishu.fetch with
    | .error _ => True
    | .ok tokens => tokens.length < (annotatedCharts content).length

/-! ### The pairing -/

section

variable {boards : Inline} {feishu : Feishu} {content : Text}

/-- The places of the annotated fences begin the places of the fences. -/
theorem aligned_iff_prefix :
    Aligned boards content ↔
      (annotatedCharts content).map AnnotatedChart.place <+: boards.fences := by
  have hsorted := List.pairwise_map.mpr (pairwise_annotatedCharts content)
  rw [prefix_iff_of_pairwise hsorted boards.inOrder]
  simp only [Aligned, List.mem_map, forall_exists_index, and_imp, forall_apply_eq_imp_iff₂]

/-- The board a chart is paired with was made of its fence when the fences agree. -/
theorem madeOf_iff {k : ℕ} {token : String} {place : ℕ} (h : boards.tokens[k]? = some token) :
    boards.MadeOf token place ↔ boards.fences[k]? = some place := by
  constructor
  · rintro ⟨j, hj, hplace⟩
    obtain ⟨hlt, rfl⟩ := List.getElem?_eq_some_iff.mp h
    obtain ⟨hlt', heq⟩ := List.getElem?_eq_some_iff.mp hj
    obtain rfl := (boards.distinct.getElem_inj_iff).mp heq
    exact hplace
  · exact fun hplace => ⟨k, h, hplace⟩

theorem calls_of_pushes (isPrintable : Char → Bool)
    (hfetch : ∀ tokens, feishu.fetch = .ok tokens → tokens = boards.tokens)
    (hpush : ¬PushesNothing feishu content) :
    (annotatedCharts content).length ≤ boards.tokens.length ∧
      (feishu.publishWithCharts isPrintable content "auto").calls =
        ((annotatedCharts content).zip boards.tokens).map fun (c, token) =>
          .fill token c.code (chartCodeType c.code) c.source := by
  unfold PushesNothing at hpush
  obtain ⟨hurl, hpush⟩ := not_or.mp hpush
  obtain ⟨docToken, hdoc⟩ := Option.ne_none_iff_exists'.mp hurl
  cases hf : feishu.fetch with
  | error e => simp [hf] at hpush
  | ok tokens =>
    rw [hf] at hpush
    obtain rfl := hfetch tokens hf
    have hle := Nat.le_of_not_lt hpush
    refine ⟨hle, ?_⟩
    have hlength : ¬boards.tokens.length < (extractAllAnnotatedCharts content).length := by
      rw [extractAllAnnotatedCharts, List.length_map]
      exact hpush
    simp only [Feishu.publishWithCharts, hdoc, hf, if_pos, if_neg hlength, Feishu.upgrade]
    simp only [extractAllAnnotatedCharts, List.zip_map_left, List.map_map]
    rfl

theorem getElem?_calls (isPrintable : Char → Bool)
    (hfetch : ∀ tokens, feishu.fetch = .ok tokens → tokens = boards.tokens)
    (hpush : ¬PushesNothing feishu content) {k : ℕ} {c : AnnotatedChart}
    (hk : (annotatedCharts content)[k]? = some c) :
    ∃ token, boards.tokens[k]? = some token ∧
      (feishu.publishWithCharts isPrintable content "auto").calls[k]? =
        some (.fill token c.code (chartCodeType c.code) c.source) := by
  obtain ⟨hle, hcalls⟩ := calls_of_pushes isPrintable hfetch hpush
  have hlt := (List.getElem?_eq_some_iff.mp hk).1.trans_le hle
  have htoken := List.getElem?_eq_getElem hlt
  have hzip : ((annotatedCharts content).zip boards.tokens)[k]? = some (c, boards.tokens[k]) :=
    List.getElem?_zip_eq_some.mpr ⟨hk, htoken⟩
  refine ⟨_, htoken, ?_⟩
  rw [hcalls, List.getElem?_map, hzip]
  rfl

theorem skipped_of_pushesNothing (isPrintable : Char → Bool) (h : PushesNothing feishu content) :
    (feishu.publishWithCharts isPrintable content "auto").calls = [] ∧
      (feishu.publishWithCharts isPrintable content "auto").skipped ≠ [] := by
  unfold PushesNothing at h
  unfold Feishu.publishWithCharts
  cases hurl : extractDocToken feishu.url with
  | none => exact ⟨rfl, List.cons_ne_nil _ _⟩
  | some docToken =>
    rw [hurl] at h
    replace h := h.resolve_left nofun
    cases hf : feishu.fetch with
    | error e => exact ⟨rfl, List.cons_ne_nil _ _⟩
    | ok tokens =>
      rw [hf] at h
      have hlength : tokens.length < (extractAllAnnotatedCharts content).length := by
        rw [extractAllAnnotatedCharts, List.length_map]
        exact h
      simp only [if_pos, hlength]
      exact ⟨rfl, List.cons_ne_nil _ _⟩

/-- **The pairing is faithful exactly when nothing is pushed or the annotated fences
are the first fences of the document.** -/
theorem faithful_iff (isPrintable : Char → Bool)
    (hfetch : ∀ tokens, feishu.fetch = .ok tokens → tokens = boards.tokens) :
    Faithful boards content (feishu.publishWithCharts isPrintable content "auto") ↔
      PushesNothing feishu content ∨ Aligned boards content := by
  by_cases hpush : PushesNothing feishu content
  · obtain ⟨hcalls, hskipped⟩ := skipped_of_pushesNothing isPrintable hpush
    refine iff_of_true ⟨fun k call hk => ?_, fun _ _ => hskipped⟩ (.inl hpush)
    rw [hcalls] at hk
    cases hk
  obtain ⟨-, hcalls⟩ := calls_of_pushes isPrintable hfetch hpush
  rw [or_iff_right hpush, aligned_iff_prefix, List.prefix_iff_getElem?]
  constructor
  · intro h k hk
    rw [List.length_map] at hk
    obtain ⟨token, htoken, hcall⟩ :=
      getElem?_calls isPrintable hfetch hpush (List.getElem?_eq_getElem hk)
    obtain ⟨c, token', hc, hfill, hmade⟩ := h.own k _ hcall
    rw [List.getElem?_eq_getElem hk] at hc
    obtain rfl := Option.some.inj hc
    cases hfill
    rw [(madeOf_iff htoken).mp hmade, List.getElem_map]
  · intro h
    refine ⟨fun k call hk => ?_, fun hnil hne => ?_⟩
    · rw [hcalls, List.getElem?_map] at hk
      obtain ⟨⟨c, token⟩, hzip, rfl⟩ := Option.map_eq_some_iff.mp hk
      obtain ⟨hc, htoken⟩ := List.getElem?_zip_eq_some.mp hzip
      refine ⟨c, token, hc, rfl, (madeOf_iff htoken).mpr ?_⟩
      obtain ⟨hlt, heq⟩ := List.getElem?_eq_some_iff.mp hc
      rw [h k (by rwa [List.length_map]), List.getElem_map, heq]
    · -- charts that are pushed are calls
      obtain ⟨c, cs, hcs⟩ := List.exists_cons_of_ne_nil hne
      have hfirst : (annotatedCharts content)[0]? = some c := by
        rw [hcs]
        rfl
      obtain ⟨token, -, hcall⟩ := getElem?_calls isPrintable hfetch hpush hfirst
      rw [hnil] at hcall
      cases hcall

/-- A chart in front of an annotated one is not annotated. -/
def mixedCharts : Text := ("```mermaid\npie\n```\n\n" ++
  "<!-- chart: D-SEQ -->\n```mermaid\nsequenceDiagram\n```\n").toList

/-- The two charts the other way round. -/
def alignedCharts : Text := ("<!-- chart: D-SEQ -->\n```mermaid\nsequenceDiagram\n```\n\n" ++
  "```mermaid\npie\n```\n").toList

/-- Two whiteboards, made of fences at these places. -/
def twoBoards (i j : ℕ) (h : i < j) : Inline where
  fences := [i, j]
  inOrder := List.pairwise_pair.mpr h
  tokens := ["B1", "B2"]
  distinct := by decide
  one_each := rfl

/-- A published text whose whiteboards are all listed. -/
def twoBoardsFetched : Feishu where
  url := "https://feishu.larkoffice.com/docx/AbC123".toList
  fetch := .ok ["B1", "B2"]
  answer _ _ := .error "timeout"

theorem faithful_iff_sample :
    (∀ tokens, twoBoardsFetched.fetch = .ok tokens →
      tokens = (twoBoards 22 54 (by decide)).tokens) ∧
    mermaidFences alignedCharts = [22, 54] ∧
    Faithful (twoBoards 22 54 (by decide)) alignedCharts
      (twoBoardsFetched.publishWithCharts (fun _ => true) alignedCharts "auto") := by
  have hfetch : ∀ tokens, twoBoardsFetched.fetch = .ok tokens →
      tokens = (twoBoards 22 54 (by decide)).tokens := fun _ h => (Except.ok.inj h).symm
  have hcharts : annotatedCharts alignedCharts =
      [⟨"D-SEQ".toList, "sequenceDiagram".toList, 22⟩] := by decide +kernel
  refine ⟨hfetch, by decide +kernel, (faithful_iff (fun _ => true) hfetch).mpr (.inr ?_)⟩
  intro c hc
  rw [hcharts, List.mem_singleton] at hc
  subst hc
  exact ⟨by decide, by decide⟩

/-- **The charts of a published text may go to the whiteboards of other fences**: the
sequence diagram is pushed to the whiteboard of the chart in front of it. -/
theorem faithful_counterexample :
    ¬∀ (isPrintable : Char → Bool) (boards : Inline) (feishu : Feishu) (content : Text),
      boards.fences = mermaidFences content →
      (∀ tokens, feishu.fetch = .ok tokens → tokens = boards.tokens) →
      Faithful boards content (feishu.publishWithCharts isPrintable content "auto") := by
  intro h
  have hfences : mermaidFences mixedCharts = [0, 42] := by decide +kernel
  have hcalls : (twoBoardsFetched.publishWithCharts (fun _ => true) mixedCharts "auto").calls =
      [.fill "B1" "D-SEQ".toList "sequence" "sequenceDiagram\n".toList] := by decide +kernel
  have hcharts : annotatedCharts mixedCharts =
      [⟨"D-SEQ".toList, "sequenceDiagram".toList, 42⟩] := by decide +kernel
  have hfaithful := h (fun _ => true) (twoBoards 0 42 (by decide)) twoBoardsFetched mixedCharts
    hfences.symm fun _ hf => (Except.ok.inj hf).symm
  obtain ⟨c, token, hc, hfill, hmade⟩ := hfaithful.own 0 _ (by rw [hcalls]; rfl)
  rw [hcharts] at hc
  cases hc
  cases hfill
  -- the first whiteboard is the one of the first fence
  exact absurd ((madeOf_iff (k := 0) rfl).mp hmade) (by decide)

end

end Docs
end Shrimp
