import Mathlib.Data.List.Infix
import Shrimp.Python

/-!
# Publishing a chart (`doc_output/chart_publisher.py`)

`publish_chart` has Feishu insert a blank whiteboard into a docx and pushes a
mermaid source onto it, overwriting what is there.  Which board is the new one it
reads off the response, and when the response does not say, it takes the last
board of the document.  That is the new one after an append; after an insertion
behind an annotation it may be any board that stands further down.

A document is the list of its blocks.  Of the markdown `docs_fetch` returns
`publish_chart` reads the whiteboard tags only, so it is kept as their tokens.
Feishu is a parameter: what it answers may depend on the document.

## Main definitions

* `Block`, `boardTokens` — a document, and its whiteboards in order.
* `Lark` — what the service answers.
* `publishChart`, `fillExistingWhiteboard` — `ChartPublisher.publish_chart` and
  `ChartPublisher.fill_existing_whiteboard`.
* `NeverOverwrites` — only the board of this call is pushed to.
* `Exposed` — the last board of the document is taken for the new one, and is not.

## Main results

* `getLast?_boardTokens_insertBoard` — which board is the last after an insertion.
* `neverOverwrites_iff` — **`publish_chart` overwrites no board that was there
  exactly when it is not exposed.**
-/

namespace Shrimp
namespace Docs

/-- The exceptions of the publisher. -/
inductive ChartError
  /-- `ChartPublishError` with its text. -/
  | chartPublishError (text : String)
  | attributeError

/-! ### The document -/

/-- A block of a docx. -/
inductive Block
  | text (s : String)
  | board (token : String)
  deriving DecidableEq

/-- The token of a whiteboard. -/
def Block.token? : Block → Option String
  | text _ => none
  | board token => some token

/-- The tokens of the whiteboards of a document, in order. -/
def boardTokens (blocks : List Block) : List String := blocks.filterMap Block.token?

theorem boardTokens_append (xs ys : List Block) :
    boardTokens (xs ++ ys) = boardTokens xs ++ boardTokens ys :=
  List.filterMap_append

/-- The document with a whiteboard right behind block `i`. -/
def insertBoard (blocks : List Block) (i : ℕ) (token : String) : List Block :=
  blocks.take (i + 1) ++ .board token :: blocks.drop (i + 1)

/-- The document with a heading and a whiteboard at its end. -/
def appendBoard (blocks : List Block) (heading token : String) : List Block :=
  blocks ++ [.text heading, .board token]

/-! ### The service -/

/-- The comment that marks a chart. -/
def selectionWithEllipsis (chartCode : String) : String := "<!-- chart: " ++ chartCode ++ " -->"

/-- `_extract_new_token`: the first of `data.board_tokens`. -/
def extractNewToken (response : Obj) : Option Json :=
  let data := match response.get? "data" with
    | some data => data
    | none => .obj response.entries
  match data.asDict with
  | none => none
  | some d =>
    match d.get? "board_tokens" with
    | some (.arr (token :: _)) => some token
    | _ => none

/-- Feishu behind `lark-cli`: what it answers on a document. -/
structure Lark where
  /-- The token of the board an update of the document creates. -/
  created : List Block → String
  created_notMem : ∀ blocks, created blocks ∉ boardTokens blocks
  /-- `docs +update` fails. -/
  updateError : List Block → Option String
  /-- The response of `docs +update`; when it has board tokens, the first is the new
  board. -/
  response : List Block → Obj
  response_created : ∀ blocks token, extractNewToken (response blocks) = some token →
    token = .str (created blocks)
  /-- The block `insert_after` selects by its text. -/
  selected : List Block → String → Option ℕ
  selected_text : ∀ blocks s i, selected blocks s = some i → blocks[i]? = some (.text s)
  /-- `docs +fetch` fails. -/
  fetchError : List Block → Option String
  /-- `whiteboard +update` of a board with a source. -/
  whiteboardUpdate : Json → String → Except ChartError Obj
  /-- `whiteboard +query` of a board, at each attempt. -/
  queryCode : Json → ℕ → Except String String
  /-- `difflib`, on two different texts. -/
  lineDiff : String → String → String

/-! ### The publisher -/

/-- `SUPPORTED_TYPES`, sorted. -/
def supportedTypes : List String :=
  ["er-diagram", "flowchart", "mindmap", "sequence", "state-machine"]

/-- `PublishResult`. -/
structure PublishResult where
  chartCode : String
  chartType : String
  whiteboardToken : Json
  nodeID : Json
  roundtripOk : Bool
  diff : Option String

/-- What a call of `publish_chart` leaves and returns. -/
structure Published where
  blocks : List Block
  /-- The calls of `whiteboard_update`: the board and the source. -/
  pushed : List (Json × String)
  result : Except ChartError PublishResult

namespace Lark

variable (lark : Lark)

/-- `docs_update`, in the mode of the position. -/
def docsUpdate (blocks : List Block) (chartCode position : String) :
    Except ChartError (List Block) :=
  match lark.updateError blocks with
  | some msg => .error (.chartPublishError msg)
  | none =>
    if position = "inline" then
      match lark.selected blocks (selectionWithEllipsis chartCode) with
      | none => .error (.chartPublishError "selection not found")
      | some i => .ok (insertBoard blocks i (lark.created blocks))
    else .ok (appendBoard blocks ("### " ++ chartCode) (lark.created blocks))

section

variable (isPrintable : Char → Bool)

/-- The board to push to: the one the response names, or the last one fetched. -/
def newToken (chartCode : String) (blocks after : List Block) : Except ChartError Json :=
  match extractNewToken (lark.response blocks) with
  | some token => .ok token
  | none =>
    match lark.fetchError after with
    | some msg => .error (.chartPublishError msg)
    | none =>
      match (boardTokens after).getLast? with
      | some token => .ok (.str token)
      | none => .error (.chartPublishError
          ("docs +update returned no board_tokens and fetched markdown has no " ++
            "<whiteboard token=.../> tag at all. chart_code=" ++ chartCode ++ "; response=" ++
            (Json.obj (lark.response blocks).entries).pyRepr isPrintable))

/-- Does the message say that the board is not ready yet? -/
def isTransient (msg : String) : Bool :=
  "data is not ready".toList <:+: msg.toList ∨ "doc is applying".toList <:+: msg.toList

/-- The attempts of `verify_chart`, from attempt `i` on. -/
def queryFrom (token : Json) (i : ℕ) : ℕ → Except ChartError String
  | 0 => .error (.chartPublishError "")
  | n + 1 =>
    match lark.queryCode token i with
    | .ok remote => .ok remote
    | .error msg =>
      -- the last attempt raises what it was told
      if isTransient msg && n != 0 then queryFrom token (i + 1) n
      else .error (.chartPublishError msg)

/-- `verify_chart`, with its three attempts. -/
def verifyChart (token : Json) (expected : String) : Except ChartError (Bool × Option String) :=
  (lark.queryFrom token 0 3).map fun remote =>
    if remote = expected then (true, none) else (false, some (lark.lineDiff expected remote))

/-- What follows the push. -/
def finish (chartCode chartType source : String) (token : Json) : Except ChartError PublishResult :=
  match lark.whiteboardUpdate token source with
  | .error e => .error e
  | .ok push =>
    let data := match push.get? "data" with
      | some data => data
      | none => .obj push.entries
    match data.asDict with
    | none => .error .attributeError
    | some d =>
      (lark.verifyChart token source).map fun (ok, diff) =>
        ⟨chartCode, chartType, token, (d.get? "created_node_id").getD .null, ok, diff⟩

/-- `publish_chart`, on a document. -/
def publishChart (blocks : List Block) (chartCode source chartType position : String) :
    Published :=
  if chartType ∉ supportedTypes then
    ⟨blocks, [], .error (.chartPublishError ("unsupported chart_type " ++
      reprStr isPrintable chartType ++ "; supported: " ++ reprStrs isPrintable supportedTypes))⟩
  else if position ∉ ["append", "inline"] then
    ⟨blocks, [], .error (.chartPublishError ("unsupported position " ++
      reprStr isPrintable position ++ "; supported: 'append', 'inline'"))⟩
  else match lark.docsUpdate blocks chartCode position with
    | .error e => ⟨blocks, [], .error e⟩
    | .ok after =>
      match lark.newToken isPrintable chartCode blocks after with
      | .error e => ⟨after, [], .error e⟩
      | .ok token => ⟨after, [(token, source)], lark.finish chartCode chartType source token⟩

/-- `fill_existing_whiteboard`. -/
def fillExistingWhiteboard (whiteboardToken chartCode chartType source : String) :
    Except ChartError PublishResult :=
  if chartType ∉ supportedTypes then
    .error (.chartPublishError ("unsupported chart_type " ++ reprStr isPrintable chartType ++
      "; supported: " ++ reprStrs isPrintable supportedTypes))
  else lark.finish chartCode chartType source (.str whiteboardToken)

end

/-! ### What a call returns -/

section

variable {lark : Lark} {isPrintable : Char → Bool} {blocks : List Block}
  {chartCode chartType source position : String} {r : PublishResult}

theorem chartCode_of_finish {token : Json}
    (h : lark.finish chartCode chartType source token = .ok r) : r.chartCode = chartCode := by
  unfold finish at h
  split at h
  · cases h
  · dsimp only at h
    split at h
    · cases h
    · cases hverify : lark.verifyChart token source with
      | error e =>
        rw [hverify] at h
        cases h
      | ok roundtrip =>
        rw [hverify] at h
        cases h
        rfl

theorem chartCode_of_publishChart
    (h : (lark.publishChart isPrintable blocks chartCode source chartType position).result =
      .ok r) : r.chartCode = chartCode := by
  unfold publishChart at h
  split at h
  · cases h
  split at h
  · cases h
  split at h
  · cases h
  split at h
  · cases h
  · exact chartCode_of_finish h

theorem chartCode_of_fillExistingWhiteboard {whiteboardToken : String}
    (h : lark.fillExistingWhiteboard isPrintable whiteboardToken chartCode chartType source =
      .ok r) : r.chartCode = chartCode := by
  unfold fillExistingWhiteboard at h
  split at h
  · cases h
  · exact chartCode_of_finish h

end

end Lark

/-! ### Which board is pushed to -/

/-- **Only the board this call has created is pushed to.** -/
def NeverOverwrites (lark : Lark) (isPrintable : Char → Bool) (blocks : List Block)
    (chartCode source chartType position : String) : Prop :=
  ∀ push ∈ (lark.publishChart isPrintable blocks chartCode source chartType position).pushed,
    push.1 = .str (lark.created blocks)

/-- **The call is exposed**: it inserts a board behind an annotation with another
board further down, the response does not name it, and the document is fetched. -/
def Exposed (lark : Lark) (blocks : List Block) (chartCode chartType position : String) : Prop :=
  chartType ∈ supportedTypes ∧ position = "inline" ∧ lark.updateError blocks = none ∧
    extractNewToken (lark.response blocks) = none ∧
    ∃ i, lark.selected blocks (selectionWithEllipsis chartCode) = some i ∧
      lark.fetchError (insertBoard blocks i (lark.created blocks)) = none ∧
      boardTokens (blocks.drop (i + 1)) ≠ []

section

variable {lark : Lark} {isPrintable : Char → Bool} {blocks after : List Block}
  {chartCode source chartType position : String}

theorem getLast?_boardTokens_appendBoard (heading token : String) :
    (boardTokens (appendBoard blocks heading token)).getLast? = some token := by
  rw [appendBoard, boardTokens_append]
  exact List.getLast?_concat ..

/-- **The last board after an insertion**: the new one, or the last of those behind. -/
theorem getLast?_boardTokens_insertBoard (i : ℕ) (token : String) :
    (boardTokens (insertBoard blocks i token)).getLast? =
      some ((boardTokens (blocks.drop (i + 1))).getLast?.getD token) := by
  rw [insertBoard, boardTokens_append]
  change (boardTokens (blocks.take (i + 1)) ++
    token :: boardTokens (blocks.drop (i + 1))).getLast? = _
  rw [List.getLast?_append, List.getLast?_cons]
  rfl

theorem mem_boardTokens_of_drop {i : ℕ} {token : String}
    (h : token ∈ boardTokens (blocks.drop i)) : token ∈ boardTokens blocks := by
  obtain ⟨b, hb, htoken⟩ := List.mem_filterMap.mp h
  exact List.mem_filterMap.mpr ⟨b, List.mem_of_mem_drop hb, htoken⟩

theorem pushed_eq (htype : chartType ∈ supportedTypes) (hpos : position ∈ ["append", "inline"])
    (hupdate : lark.docsUpdate blocks chartCode position = .ok after) :
    (lark.publishChart isPrintable blocks chartCode source chartType position).pushed =
      match lark.newToken isPrintable chartCode blocks after with
      | .error _ => []
      | .ok token => [(token, source)] := by
  rw [Lark.publishChart, if_neg (not_not.mpr htype), if_neg (not_not.mpr hpos), hupdate]
  dsimp only
  split <;> rfl

theorem pushed_eq_nil (h : chartType ∉ supportedTypes ∨ position ∉ ["append", "inline"] ∨
      ∃ e, lark.docsUpdate blocks chartCode position = .error e) :
    (lark.publishChart isPrintable blocks chartCode source chartType position).pushed = [] := by
  unfold Lark.publishChart
  split
  · rfl
  next htype =>
  split
  · rfl
  next hpos =>
  obtain ⟨e, he⟩ := (h.resolve_left htype).resolve_left hpos
  rw [he]

theorem docsUpdate_eq_ok_iff : lark.docsUpdate blocks chartCode position = .ok after ↔
    lark.updateError blocks = none ∧
      ((position = "inline" ∧ ∃ i, lark.selected blocks (selectionWithEllipsis chartCode) = some i ∧
          after = insertBoard blocks i (lark.created blocks)) ∨
        position ≠ "inline" ∧ after = appendBoard blocks ("### " ++ chartCode)
          (lark.created blocks)) := by
  unfold Lark.docsUpdate
  cases lark.updateError blocks with
  | some msg => simp
  | none =>
    by_cases hpos : position = "inline"
    · cases lark.selected blocks (selectionWithEllipsis chartCode) with
      | none => simp [hpos]
      | some i => simp [hpos, eq_comm]
    · simp [hpos, eq_comm]

theorem newToken_eq_ok_iff {token : Json} :
    lark.newToken isPrintable chartCode blocks after = .ok token ↔
      extractNewToken (lark.response blocks) = some token ∨
      extractNewToken (lark.response blocks) = none ∧ lark.fetchError after = none ∧
        ∃ last, (boardTokens after).getLast? = some last ∧ token = .str last := by
  unfold Lark.newToken
  cases extractNewToken (lark.response blocks) with
  | some x => simp
  | none =>
    cases lark.fetchError after with
    | some msg => simp
    | none =>
      cases (boardTokens after).getLast? with
      | none => simp
      | some last => simp [eq_comm]

/-- **`publish_chart` overwrites no board that was there exactly when it is not
exposed.** -/
theorem neverOverwrites_iff (lark : Lark) (isPrintable : Char → Bool) (blocks : List Block)
    (chartCode source chartType position : String) :
    NeverOverwrites lark isPrintable blocks chartCode source chartType position ↔
      ¬Exposed lark blocks chartCode chartType position := by
  constructor
  · rintro hnever ⟨htype, rfl, herror, hresponse, i, hi, hfetch, hbehind⟩
    have hupdate : lark.docsUpdate blocks chartCode "inline" =
        .ok (insertBoard blocks i (lark.created blocks)) :=
      docsUpdate_eq_ok_iff.mpr ⟨herror, .inl ⟨rfl, i, hi, rfl⟩⟩
    obtain ⟨last, hlast⟩ := Option.ne_none_iff_exists'.mp (mt List.getLast?_eq_none_iff.mp hbehind)
    have htoken : lark.newToken isPrintable chartCode blocks
        (insertBoard blocks i (lark.created blocks)) = .ok (.str last) :=
      newToken_eq_ok_iff.mpr <| .inr ⟨hresponse, hfetch, last,
        by rw [getLast?_boardTokens_insertBoard, hlast]; rfl, rfl⟩
    have hpushed : (lark.publishChart isPrintable blocks chartCode source chartType
        "inline").pushed = _ := pushed_eq htype (by simp) hupdate
    rw [htoken] at hpushed
    have heq := hnever (.str last, source) (by rw [hpushed]; simp)
    -- the board pushed to was there before
    refine lark.created_notMem blocks ?_
    rw [← Json.str.inj heq]
    exact mem_boardTokens_of_drop (List.mem_of_getLast? hlast)
  · intro hexposed push hpush
    by_cases hends : chartType ∉ supportedTypes ∨ position ∉ ["append", "inline"] ∨
        ∃ e, lark.docsUpdate blocks chartCode position = .error e
    · rw [pushed_eq_nil hends] at hpush
      cases hpush
    · simp only [not_or, not_not, not_exists] at hends
      obtain ⟨htype, hpos, hok⟩ := hends
      cases hupdate : lark.docsUpdate blocks chartCode position with
      | error e => exact absurd hupdate (hok e)
      | ok after =>
        rw [pushed_eq htype hpos hupdate] at hpush
        split at hpush
        · cases hpush
        · next token htoken =>
          rw [List.mem_singleton.mp hpush]
          rcases newToken_eq_ok_iff.mp htoken with hnew | ⟨hresponse, hfetch, last, hlast, rfl⟩
          · exact lark.response_created blocks token hnew
          · obtain ⟨herror, hafter⟩ := docsUpdate_eq_ok_iff.mp hupdate
            rcases hafter with ⟨hinline, i, hi, rfl⟩ | ⟨-, rfl⟩
            · rw [getLast?_boardTokens_insertBoard] at hlast
              cases hbehind : (boardTokens (blocks.drop (i + 1))).getLast? with
              | none =>
                rw [hbehind] at hlast
                rw [← Option.some.inj hlast]
                rfl
              | some other =>
                refine absurd ⟨htype, hinline, herror, hresponse, i, hi, hfetch, ?_⟩ hexposed
                intro hnil
                rw [hnil] at hbehind
                cases hbehind
            · rw [getLast?_boardTokens_appendBoard] at hlast
              rw [← Option.some.inj hlast]

end

/-- A Feishu that never fails and never names the board it has created. -/
def silentLark : Lark where
  created blocks := String.ofList ('N' :: ((boardTokens blocks).map String.toList).flatten)
  created_notMem blocks h := by
    have hmem := List.mem_map_of_mem (f := String.toList) h
    have hle := (List.sublist_flatten_of_mem hmem).length_le
    rw [String.toList_ofList, List.length_cons] at hle
    omega
  updateError _ := none
  response _ := Dict.ofList [("success", .bool true)]
  response_created blocks token h := by cases h
  selected blocks s := blocks.findIdx? (· = .text s)
  selected_text blocks s i h := by
    obtain ⟨hlt, heq, -⟩ := List.findIdx?_eq_some_iff_getElem.mp h
    rw [List.getElem?_eq_getElem hlt, of_decide_eq_true heq]
  fetchError _ := none
  whiteboardUpdate _ _ := .ok ∅
  queryCode _ _ := .ok ""
  lineDiff _ _ := ""

/-- **An insertion above another board**: with no board token in the response, the
chart is pushed over the board further down. -/
theorem neverOverwrites_counterexample : ¬∀ (lark : Lark) (isPrintable : Char → Bool)
    (blocks : List Block) (chartCode source chartType position : String),
    position ∈ ["append", "inline"] →
      NeverOverwrites lark isPrintable blocks chartCode source chartType position := by
  intro hall
  have hnever := hall silentLark (fun _ => true) [.text "<!-- chart: D-ARCH -->", .board "OLD"]
    "D-ARCH" "graph TD" "flowchart" "inline" (by simp)
  have hpushed : ((silentLark.publishChart (fun _ => true)
      [.text "<!-- chart: D-ARCH -->", .board "OLD"] "D-ARCH" "graph TD" "flowchart"
      "inline").pushed.head?.map fun push => push.1.pyStr fun _ => true) = some "OLD" := by
    decide +kernel
  obtain ⟨push, hhead, htoken⟩ := Option.map_eq_some_iff.mp hpushed
  rw [hnever push (List.mem_of_head? hhead)] at htoken
  revert htoken
  decide +kernel

end Docs
end Shrimp
