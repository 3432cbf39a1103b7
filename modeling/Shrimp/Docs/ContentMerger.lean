import Mathlib.Data.List.Infix
import Shrimp.Lib.Reorder
import Shrimp.Python

/-!
# Merging fetched content (`doc_output/content_merger.py`)

The merger groups the items of the successful results by the type of their
source.  The overview has an excerpt of every item, at most 2000 characters of
it; the details have an entry for every item of three of the types, under a key
that is a name, an address or a query, so that of several items with one key the
last one stays.

Of an item the merger reads its content, its name, path, address, query and focus.

## Main definitions

* `Item`, `FetchResult`, `Merged` — what goes in and what comes out.
* `groupByType`, `mergeOverview`, `mergeDetails`, `mergeReferences`,
  `generateMetadata`, `merge` — the methods of `ContentMerger`.
* `Survives`, `Kept` — the content of an item is in what comes out, and when.
* `Paragraph` — a text without a blank line.

## Main results

* `getD_groupByType` — what is grouped under a type.
* `mergeDetails_eq` — the details are one sequence of writes.
* `merge_of_single` — what is merged of items of one type.
* `survives_of_item` — **the content of an item survives when it is short or the last one
  under its key**, and a paragraph survives only then.
-/

namespace Shrimp
namespace Docs

/-! ### What is merged -/

/-- An item of the `details` of a result. -/
structure Item where
  content : Option Text := none
  repoName : Option Text := none
  repoPath : Option Text := none
  url : Option Text := none
  query : Option Text := none
  focus : Option (List Text) := none
  deriving DecidableEq

/-- What `fetch_all` records for a source. -/
structure FetchResult where
  status : Option Text := none
  type : Option Text := none
  count : Option ℤ := none
  content : Option Text := none
  details : Option (List Item) := none
  error : Option Text := none
  deriving DecidableEq

/-- The values of `merged['details']`. -/
structure DetailEntry where
  type : Text
  content : Text
  path : Option Text := none
  url : Option Text := none
  query : Option Text := none
  focus : Option (List Text) := none
  deriving DecidableEq

/-- The members of `merged['references']`. -/
structure SourceReference where
  type : Text
  title : Text
  url : Text
  deriving DecidableEq

/-- `merged['metadata']`. -/
structure MergeMetadata where
  sourcesCount : ℕ
  sourcesTypes : List Text
  priorityUsed : ℕ
  deriving DecidableEq

/-- The merged content. -/
structure Merged where
  overview : Text
  details : Dict Text DetailEntry
  references : List SourceReference
  metadata : MergeMetadata

def codeRepository : Text := "code_repository".toList
def feishuDoc : Text := "feishu_doc".toList
def webType : Text := "web".toList
def internalType : Text := "internal".toList
def directType : Text := "direct".toList

/-- The types the overview has, in its order. -/
def sourceTypes : List Text := [codeRepository, feishuDoc, webType, internalType, directType]

/-- The types the details and references have, in their order. -/
def keyedTypes : List Text := [codeRepository, feishuDoc, webType]

/-- `_get_type_label`. -/
def getTypeLabel (sourceType : Text) : Text :=
  ([(codeRepository, "📦 代码仓库分析".toList), (feishuDoc, "📄 飞书文档".toList),
    (webType, "🌐 Web 内容".toList), (internalType, "🔧 内部工具".toList),
    (directType, "📝 直接输入".toList)].lookup sourceType).getD sourceType

/-- `PRIORITY`. -/
def priority : List (Text × ℕ) :=
  [(codeRepository, 1), (feishuDoc, 2), ("aime".toList, 3), (webType, 4), (directType, 5)]

/-! ### The methods -/

/-- The inner statement of `_group_by_type`. -/
def addItem (sourceType : Text) (grouped : Dict Text (List Item)) (detail : Item) :
    Dict Text (List Item) :=
  grouped.insert sourceType (grouped.getD sourceType [] ++ [detail])

/-- `_group_by_type`. -/
def groupByType (fetchResults : Dict Text FetchResult) : Dict Text (List Item) :=
  fetchResults.entries.foldl (fun grouped e =>
    if e.2.status ≠ some "success".toList then grouped
    else (e.2.details.getD []).foldl (addItem (e.2.type.getD "unknown".toList)) grouped) ∅

/-- The part of the overview an item gets. -/
def excerpt (sourceType : Text) (item : Item) : Option Text :=
  let content := item.content.getD []
  if content ≠ [] then
    some ("### ".toList ++ getTypeLabel sourceType ++ "\n\n".toList ++ content.take 2000)
  else none

/-- `_merge_overview`. -/
def mergeOverview (grouped : Dict Text (List Item)) : Text :=
  "\n\n".toList.intercalate
    (sourceTypes.flatMap fun sourceType =>
      (grouped.getD sourceType []).filterMap (excerpt sourceType))

/-- The entry of a code repository. -/
def codeEntry (item : Item) : Text × DetailEntry :=
  (item.repoName.getD [],
    { type := codeRepository
      path := some (item.repoPath.getD [])
      content := item.content.getD []
      focus := some (item.focus.getD []) })

/-- The entry of a document. -/
def feishuEntry (item : Item) : Text × DetailEntry :=
  (item.url.getD [],
    { type := feishuDoc
      url := some (item.url.getD [])
      content := item.content.getD []
      focus := some (item.focus.getD []) })

/-- The entry of a page or a search, under `url or query`. -/
def webEntry (item : Item) : Text × DetailEntry :=
  (if item.url.getD [] ≠ [] then item.url.getD [] else item.query.getD [],
    { type := webType
      url := some (item.url.getD [])
      query := some (item.query.getD [])
      content := item.content.getD [] })

/-- `_merge_details`. -/
def mergeDetails (grouped : Dict Text (List Item)) : Dict Text DetailEntry :=
  let details : Dict Text DetailEntry := ∅
  let details := details.write ((grouped.getD codeRepository []).map codeEntry)
  let details := details.write ((grouped.getD feishuDoc []).map feishuEntry)
  details.write ((grouped.getD webType []).map webEntry)

def codeReference (item : Item) : SourceReference where
  type := codeRepository
  title := item.repoName.getD []
  url := item.repoPath.getD []

def feishuReference (item : Item) : SourceReference where
  type := feishuDoc
  title := "飞书文档".toList
  url := item.url.getD []

def webReference (item : Item) : SourceReference where
  type := webType
  title := if item.query.getD [] ≠ [] then item.query.getD [] else "Web".toList
  url := item.url.getD []

/-- `_merge_references`. -/
def mergeReferences (grouped : Dict Text (List Item)) : List SourceReference :=
  (grouped.getD codeRepository []).map codeReference ++
    (grouped.getD feishuDoc []).map feishuReference ++
    (grouped.getD webType []).map webReference

/-- `_generate_metadata`. -/
def generateMetadata (grouped : Dict Text (List Item)) : MergeMetadata where
  sourcesCount := (grouped.values.map List.length).sum
  sourcesTypes := grouped.keys
  priorityUsed := ((grouped.keys.map fun t => (priority.lookup t).getD 99).min?).getD 99

/-- `ContentMerger.merge`. -/
def merge (fetchResults : Dict Text FetchResult) : Merged :=
  let grouped := groupByType fetchResults
  { overview := mergeOverview grouped
    details := mergeDetails grouped
    references := mergeReferences grouped
    metadata := generateMetadata grouped }

/-! ### Grouping -/

/-- The items of a result that is merged, with their type. -/
def FetchResult.typed (r : FetchResult) : List (Text × Item) :=
  if r.status ≠ some "success".toList then []
  else (r.details.getD []).map fun item => (r.type.getD "unknown".toList, item)

/-- The items that are merged, with their types, in the order of the results. -/
def typedItems (fetchResults : Dict Text FetchResult) : List (Text × Item) :=
  fetchResults.entries.flatMap fun e => e.2.typed

/-- Group items by type. -/
def group (ps : List (Text × Item)) : Dict Text (List Item) :=
  ps.foldl (fun grouped p => addItem p.1 grouped p.2) ∅

/-- The items of a type. -/
def ofType (sourceType : Text) (ps : List (Text × Item)) : List Item :=
  (ps.filter fun p => p.1 = sourceType).map Prod.snd

theorem groupByType_eq (fetchResults : Dict Text FetchResult) :
    groupByType fetchResults = group (typedItems fetchResults) := by
  unfold groupByType typedItems group
  generalize fetchResults.entries = es
  generalize (∅ : Dict Text (List Item)) = grouped
  induction es generalizing grouped with
  | nil => rfl
  | cons e es ih =>
    rw [List.foldl_cons, List.flatMap_cons, List.foldl_append, ih]
    congr 1
    unfold FetchResult.typed
    split
    · rfl
    · rw [List.foldl_map]

/-- **What is grouped under a type** are the items of the type, in their order. -/
theorem getD_group (sourceType : Text) (ps : List (Text × Item)) :
    (group ps).getD sourceType [] = ofType sourceType ps := by
  have hfold : ∀ grouped : Dict Text (List Item),
      (ps.foldl (fun grouped p => addItem p.1 grouped p.2) grouped).getD sourceType [] =
        grouped.getD sourceType [] ++ ofType sourceType ps := by
    induction ps with
    | nil => exact fun grouped => (List.append_nil _).symm
    | cons p ps ih =>
      intro grouped
      rw [List.foldl_cons, ih, addItem, Dict.getD_insert, ofType, ofType, List.filter_cons]
      by_cases h : sourceType = p.1
      · rw [if_pos h, if_pos (by simpa using h.symm), h, List.map_cons, List.append_assoc,
          List.singleton_append]
      · rw [if_neg h, if_neg (by simpa using fun he => h he.symm)]
  exact hfold ∅

theorem getD_groupByType (sourceType : Text) (fetchResults : Dict Text FetchResult) :
    (groupByType fetchResults).getD sourceType [] =
      ofType sourceType (typedItems fetchResults) := by
  rw [groupByType_eq, getD_group]

theorem mem_ofType_typedItems {fetchResults : Dict Text FetchResult} {id : Text} {r : FetchResult}
    {item : Item} (hr : (id, r) ∈ fetchResults.entries) (hstatus : r.status = some "success".toList)
    (hitem : item ∈ r.details.getD []) :
    item ∈ ofType (r.type.getD "unknown".toList) (typedItems fetchResults) := by
  refine List.mem_map.mpr ⟨(r.type.getD "unknown".toList, item), ?_, rfl⟩
  refine List.mem_filter.mpr ⟨List.mem_flatMap.mpr ⟨(id, r), hr, ?_⟩, by simp⟩
  change _ ∈ r.typed
  rw [FetchResult.typed, if_neg (not_not.mpr hstatus)]
  exact List.mem_map.mpr ⟨item, hitem, rfl⟩

theorem head?_keys_group (p : Text × Item) (ps : List (Text × Item)) :
    (group (p :: ps)).keys.head? = some p.1 := by
  have hfold : ∀ grouped : Dict Text (List Item), grouped.keys.head? = some p.1 →
      (ps.foldl (fun grouped p => addItem p.1 grouped p.2) grouped).keys.head? = some p.1 := by
    induction ps with
    | nil => exact fun grouped h => h
    | cons q ps ih =>
      intro grouped h
      refine ih _ ?_
      change (grouped.insert q.1 _).keys.head? = _
      rw [Dict.keys_insert]
      split
      · exact h
      · rw [List.head?_append, h, Option.some_or]
  exact hfold _ rfl

/-- What is merged depends on the items and their types only. -/
theorem merge_congr {fetchResults fetchResults' : Dict Text FetchResult}
    (h : typedItems fetchResults = typedItems fetchResults') :
    merge fetchResults = merge fetchResults' := by
  unfold merge
  rw [groupByType_eq, groupByType_eq, h]

/-! ### The details -/

/-- What the items of a type contribute where each of the keyed types has a function. -/
def keyedBy {α : Type} (code feishu web : Item → α) (sourceType : Text) (items : List Item) :
    List α :=
  if sourceType = codeRepository then items.map code
  else if sourceType = feishuDoc then items.map feishu
  else if sourceType = webType then items.map web
  else []

/-- The entries of the items of a type. -/
def entriesOf (sourceType : Text) (items : List Item) : List (Text × DetailEntry) :=
  keyedBy codeEntry feishuEntry webEntry sourceType items

/-- The references of the items of a type. -/
def referencesOf (sourceType : Text) (items : List Item) : List SourceReference :=
  keyedBy codeReference feishuReference webReference sourceType items

section

variable {α : Type} (code feishu web : Item → α)

theorem flatMap_keyedBy (grouped : Text → List Item) :
    (keyedTypes.flatMap fun ty => keyedBy code feishu web ty (grouped ty)) =
      (grouped codeRepository).map code ++ (grouped feishuDoc).map feishu ++
        (grouped webType).map web := by
  have hflat : (keyedTypes.flatMap fun ty => keyedBy code feishu web ty (grouped ty)) =
      (grouped codeRepository).map code ++
        ((grouped feishuDoc).map feishu ++ ((grouped webType).map web ++ [])) := rfl
  rw [hflat, List.append_nil, List.append_assoc]

@[simp] theorem keyedBy_nil (sourceType : Text) : keyedBy code feishu web sourceType [] = [] := by
  unfold keyedBy
  simp only [List.map_nil, ite_self]

theorem keyedBy_append (sourceType : Text) (items items' : List Item) :
    keyedBy code feishu web sourceType (items ++ items') =
      keyedBy code feishu web sourceType items ++ keyedBy code feishu web sourceType items' := by
  unfold keyedBy
  split
  · exact List.map_append
  split
  · exact List.map_append
  split
  · exact List.map_append
  · rfl

theorem keyedBy_flatMap {β : Type} (sourceType : Text) (f : β → List Item) (l : List β) :
    keyedBy code feishu web sourceType (l.flatMap f) =
      l.flatMap fun x => keyedBy code feishu web sourceType (f x) :=
  List.flatMap_of_append (keyedBy_nil code feishu web sourceType)
    (keyedBy_append code feishu web sourceType) f l

theorem keyedBy_of_notMem {sourceType : Text} (h : sourceType ∉ keyedTypes) (items : List Item) :
    keyedBy code feishu web sourceType items = [] := by
  have hne : ∀ ty ∈ keyedTypes, sourceType ≠ ty := fun ty hty heq => h (heq ▸ hty)
  unfold keyedBy
  rw [if_neg (hne _ (by decide)), if_neg (hne _ (by decide)), if_neg (hne _ (by decide))]

end

/-- **The details are one sequence of writes.** -/
theorem mergeDetails_eq (grouped : Dict Text (List Item)) :
    mergeDetails grouped =
      Dict.ofList (keyedTypes.flatMap fun ty => entriesOf ty (grouped.getD ty [])) := by
  have hentries : (keyedTypes.flatMap fun ty => entriesOf ty (grouped.getD ty [])) =
      (grouped.getD codeRepository []).map codeEntry ++
        (grouped.getD feishuDoc []).map feishuEntry ++ (grouped.getD webType []).map webEntry :=
    flatMap_keyedBy _ _ _ fun ty => grouped.getD ty []
  rw [hentries, List.append_assoc]
  unfold mergeDetails
  simp only
  rw [← Dict.write_append, ← Dict.write_append]
  rfl

theorem mergeReferences_eq (grouped : Dict Text (List Item)) :
    mergeReferences grouped = keyedTypes.flatMap fun ty => referencesOf ty (grouped.getD ty []) :=
  (flatMap_keyedBy _ _ _ fun ty => grouped.getD ty []).symm

/-! ### Items of one type -/

/-- The excerpts of the items of a type. -/
def excerptsOf (sourceType : Text) (items : List Item) : List Text :=
  if sourceType ∈ sourceTypes then items.filterMap (excerpt sourceType) else []

theorem excerptsOf_append (sourceType : Text) (items items' : List Item) :
    excerptsOf sourceType (items ++ items') =
      excerptsOf sourceType items ++ excerptsOf sourceType items' := by
  unfold excerptsOf
  split
  · exact List.filterMap_append
  · rfl

theorem excerptsOf_flatMap {β : Type} (sourceType : Text) (f : β → List Item) (l : List β) :
    excerptsOf sourceType (l.flatMap f) = l.flatMap fun x => excerptsOf sourceType (f x) :=
  List.flatMap_of_append (by unfold excerptsOf; split <;> rfl) (excerptsOf_append sourceType) f l

theorem flatMap_of_single {α : Type} {f : Text → List α} {types : List Text} (sourceType : Text)
    (hnd : types.Nodup) (hother : ∀ ty ∈ types, ty ≠ sourceType → f ty = [])
    (hself : sourceType ∉ types → f sourceType = []) : types.flatMap f = f sourceType := by
  by_cases hmem : sourceType ∈ types
  · obtain ⟨before, after, rfl⟩ := List.append_of_mem hmem
    have hnd' := List.nodup_append.mp hnd
    have hbefore : before.flatMap f = [] := List.flatMap_eq_nil_iff.mpr fun ty hty =>
      hother ty (List.mem_append_left _ hty) (hnd'.2.2 ty hty sourceType List.mem_cons_self)
    have hafter : after.flatMap f = [] := List.flatMap_eq_nil_iff.mpr fun ty hty =>
      hother ty (List.mem_append_right _ (List.mem_cons_of_mem _ hty)) fun heq =>
        (List.nodup_cons.mp hnd'.2.1).1 (heq ▸ hty)
    rw [List.flatMap_append, List.flatMap_cons, hbefore, hafter, List.nil_append, List.append_nil]
  · rw [hself hmem, List.flatMap_eq_nil_iff]
    intro ty hty
    exact hother ty hty fun heq => hmem (heq ▸ hty)

theorem flatMap_keyedBy_of_single {α : Type} (code feishu web : Item → α) (sourceType : Text)
    (items : List Item) :
    (keyedTypes.flatMap fun ty =>
        keyedBy code feishu web ty (if ty = sourceType then items else [])) =
      keyedBy code feishu web sourceType items := by
  rw [flatMap_of_single sourceType (by decide), if_pos rfl]
  · intro ty _ hty
    rw [if_neg hty, keyedBy_nil]
  · intro hnot
    exact keyedBy_of_notMem _ _ _ hnot _

theorem group_map_mk (sourceType : Text) {items : List Item} (h : items ≠ []) :
    group (items.map (sourceType, ·)) = (∅ : Dict Text (List Item)).insert sourceType items := by
  induction items using List.reverseRecOn with
  | nil => exact absurd rfl h
  | append_singleton items item ih =>
    have hlast : group ((items ++ [item]).map (sourceType, ·)) =
        addItem sourceType (group (items.map (sourceType, ·))) item := by
      unfold group
      rw [List.map_append, List.foldl_append]
      rfl
    rw [hlast]
    cases items with
    | nil => rfl
    | cons first items =>
      rw [ih (List.cons_ne_nil _ _), addItem, Dict.getD_insert, if_pos rfl, Dict.insert_insert]

/-- **What is merged of items of one type.** -/
theorem merge_of_single {fetchResults : Dict Text FetchResult} {sourceType : Text}
    {items : List Item} (hne : items ≠ [])
    (h : typedItems fetchResults = items.map (sourceType, ·)) :
    merge fetchResults =
      { overview := "\n\n".toList.intercalate (excerptsOf sourceType items)
        details := Dict.ofList (entriesOf sourceType items)
        references := referencesOf sourceType items
        metadata :=
          { sourcesCount := items.length
            sourcesTypes := [sourceType]
            priorityUsed := (priority.lookup sourceType).getD 99 } } := by
  have hgrouped : groupByType fetchResults =
      (∅ : Dict Text (List Item)).insert sourceType items := by
    rw [groupByType_eq, h, group_map_mk sourceType hne]
  have hget : ∀ ty, ((∅ : Dict Text (List Item)).insert sourceType items).getD ty [] =
      if ty = sourceType then items else [] := fun ty => Dict.getD_insert _ _ _ _ _
  have hoverview : (sourceTypes.flatMap fun ty =>
      (if ty = sourceType then items else []).filterMap (excerpt ty)) =
        excerptsOf sourceType items := by
    unfold excerptsOf
    split
    · next hmem =>
      rw [flatMap_of_single sourceType (by decide), if_pos rfl]
      · intro ty _ hty
        rw [if_neg hty, List.filterMap_nil]
      · exact fun hnot => absurd hmem hnot
    · next hmem =>
      refine List.flatMap_eq_nil_iff.mpr fun ty hty => ?_
      have hother : ty ≠ sourceType := fun heq => hmem (heq ▸ hty)
      rw [if_neg hother, List.filterMap_nil]
  have hentries : (keyedTypes.flatMap fun ty =>
      entriesOf ty (if ty = sourceType then items else [])) = entriesOf sourceType items :=
    flatMap_keyedBy_of_single _ _ _ sourceType items
  have hreferences : (keyedTypes.flatMap fun ty =>
      referencesOf ty (if ty = sourceType then items else [])) =
        referencesOf sourceType items := flatMap_keyedBy_of_single _ _ _ sourceType items
  unfold merge
  simp only [hgrouped, mergeOverview, mergeDetails_eq, mergeReferences_eq, hget, hoverview,
    hentries, hreferences]
  congr 1

/-! ### What survives -/

/-- **The content of an item survives**: it is the content of an entry of the
details, or it stands in the overview. -/
def Survives (fetchResults : Dict Text FetchResult) (content : Text) : Prop :=
  (∃ e ∈ (merge fetchResults).details.entries, e.2.content = content) ∨
    content <:+: (merge fetchResults).overview

/-- The keys and contents of the items that get an entry, in the order in which the
entries are written. -/
def keyedContents (fetchResults : Dict Text FetchResult) : List (Text × Text) :=
  (keyedTypes.flatMap fun ty => entriesOf ty (ofType ty (typedItems fetchResults))).map
    fun e => (e.1, e.2.content)

/-- No later item has the key of this one. -/
def LastUnderKey (keyed : List (Text × Text)) (content : Text) : Prop :=
  ∃ before key after, keyed = before ++ (key, content) :: after ∧ key ∉ after.map Prod.fst

/-- **When the content of an item is kept**: it has at most 2000 characters, or it is the
last one under a key. -/
def Kept (fetchResults : Dict Text FetchResult) (content : Text) : Prop :=
  content.length ≤ 2000 ∨ LastUnderKey (keyedContents fetchResults) content

/-- A text with no blank line in it, and no line break at its ends. -/
structure Paragraph (content : Text) : Prop where
  no_blank : ¬"\n\n".toList <:+: content
  head_ne : content.head? ≠ some '\n'
  last_ne : content.getLast? ≠ some '\n'

/-- The excerpts of all items, one after the other. -/
def laidOut (fetchResults : Dict Text FetchResult) : Text :=
  "\n\n".toList.intercalate
    (sourceTypes.flatMap fun ty => (ofType ty (typedItems fetchResults)).filterMap (excerpt ty))

theorem overview_merge (fetchResults : Dict Text FetchResult) :
    (merge fetchResults).overview = laidOut fetchResults := by
  unfold merge mergeOverview laidOut
  simp only [getD_groupByType]

theorem details_merge (fetchResults : Dict Text FetchResult) :
    (merge fetchResults).details =
      Dict.ofList (keyedTypes.flatMap fun ty =>
        entriesOf ty (ofType ty (typedItems fetchResults))) := by
  unfold merge
  simp only [mergeDetails_eq, getD_groupByType]

/-- **An entry of the details has the last content under its key.** -/
theorem exists_entry_iff (fetchResults : Dict Text FetchResult) (content : Text) :
    (∃ e ∈ (merge fetchResults).details.entries, e.2.content = content) ↔
      LastUnderKey (keyedContents fetchResults) content := by
  rw [details_merge]
  unfold LastUnderKey keyedContents
  generalize (keyedTypes.flatMap fun ty =>
    entriesOf ty (ofType ty (typedItems fetchResults))) = es
  constructor
  · rintro ⟨⟨key, entry⟩, hmem, rfl⟩
    obtain ⟨before, after, rfl, hnot⟩ := Dict.mem_ofList_iff.mp hmem
    refine ⟨before.map fun e => (e.1, e.2.content), key, after.map fun e => (e.1, e.2.content),
      by simp, ?_⟩
    rw [List.map_map]
    exact hnot
  · rintro ⟨before, key, after, hes, hnot⟩
    obtain ⟨before', rest, rfl, -, hrest⟩ := List.map_eq_append_iff.mp hes
    obtain ⟨e, after', rfl, he, rfl⟩ := List.map_eq_cons_iff.mp hrest
    obtain ⟨rfl, rfl⟩ := Prod.mk.inj he
    refine ⟨e, Dict.mem_ofList_iff.mpr ⟨before', after', rfl, ?_⟩, rfl⟩
    rw [List.map_map] at hnot
    exact hnot

theorem infix_laidOut {fetchResults : Dict Text FetchResult} {sourceType : Text} {item : Item}
    (htype : sourceType ∈ sourceTypes) (hitem : item ∈ ofType sourceType (typedItems fetchResults))
    (hne : item.content.getD [] ≠ []) (hshort : (item.content.getD []).length ≤ 2000) :
    item.content.getD [] <:+: laidOut fetchResults := by
  have hexcerpt : excerpt sourceType item = some ("### ".toList ++ getTypeLabel sourceType ++
      "\n\n".toList ++ item.content.getD []) := by
    unfold excerpt
    simp only
    rw [if_pos hne, List.take_of_length_le hshort]
  have hin : "### ".toList ++ getTypeLabel sourceType ++ "\n\n".toList ++ item.content.getD [] ∈
      sourceTypes.flatMap fun ty => (ofType ty (typedItems fetchResults)).filterMap (excerpt ty) :=
    List.mem_flatMap.mpr ⟨sourceType, htype, List.mem_filterMap.mpr ⟨item, hitem, hexcerpt⟩⟩
  exact (List.suffix_append _ _).isInfix.trans (List.infix_intercalate _ hin)

/-- A paragraph in a text lies on one side of every blank line. -/
theorem Paragraph.infix_or_infix {content x y : Text} (h : Paragraph content)
    (hin : content <:+: x ++ '\n' :: '\n' :: y) : content <:+: x ∨ content <:+: y := by
  rcases List.infix_append_iff.mp hin with hx | hy | ⟨s, t, rfl, hs, ht⟩
  · exact .inl hx
  · cases content with
    | nil => exact .inl List.nil_infix
    | cons c content =>
      -- it cannot begin with one of the two line breaks
      have hc : c ≠ '\n' := fun heq => h.head_ne (congrArg some heq)
      refine .inr ?_
      rcases List.infix_cons_iff.mp hy with hpre | hy
      · exact absurd (List.cons_prefix_cons.mp hpre).1 hc
      · rcases List.infix_cons_iff.mp hy with hpre | hy
        · exact absurd (List.cons_prefix_cons.mp hpre).1 hc
        · exact hy
  · -- what reaches over the first line break ends with it, or has both
    rcases t with _ | ⟨c, _ | ⟨d, t⟩⟩
    · rw [List.append_nil]
      exact .inl hs.isInfix
    · rw [(List.cons_prefix_cons.mp ht).1] at h
      exact absurd List.getLast?_concat h.last_ne
    · obtain ⟨hc, ht⟩ := List.cons_prefix_cons.mp ht
      rw [hc, (List.cons_prefix_cons.mp ht).1] at h
      refine absurd ⟨s, t, ?_⟩ h.no_blank
      rw [List.append_assoc]
      rfl

theorem Paragraph.exists_infix {content : Text} (h : Paragraph content) {ls : List Text}
    (hin : content <:+: "\n\n".toList.intercalate ls) (hne : content ≠ []) :
    ∃ l ∈ ls, content <:+: l := by
  induction ls with
  | nil => exact absurd (List.infix_nil.mp hin) hne
  | cons l ls ih =>
    by_cases hnil : ls = []
    · rw [hnil, List.intercalate_singleton] at hin
      exact ⟨l, List.mem_cons_self, hin⟩
    · obtain ⟨l', ls', rfl⟩ := List.exists_cons_of_ne_nil hnil
      rw [List.intercalate_cons_cons, List.append_assoc] at hin
      rcases h.infix_or_infix hin with hl | hls
      · exact ⟨l, List.mem_cons_self, hl⟩
      · obtain ⟨m, hm, hinfix⟩ := ih hls
        exact ⟨m, List.mem_cons_of_mem _ hm, hinfix⟩

/-- **A paragraph of the overview is short**: it stands in a heading or in the excerpt of
one item. -/
theorem Paragraph.length_le {fetchResults : Dict Text FetchResult} {content : Text}
    (h : Paragraph content) (hin : content <:+: laidOut fetchResults) :
    content.length ≤ 2000 := by
  by_cases hne : content = []
  · rw [hne, List.length_nil]
    omega
  obtain ⟨l, hl, hinfix⟩ := h.exists_infix hin hne
  obtain ⟨ty, hty, hl⟩ := List.mem_flatMap.mp hl
  obtain ⟨item, -, hexcerpt⟩ := List.mem_filterMap.mp hl
  unfold excerpt at hexcerpt
  dsimp only at hexcerpt
  split at hexcerpt
  · have hcut : l = ("### ".toList ++ getTypeLabel ty) ++
        '\n' :: '\n' :: (item.content.getD []).take 2000 := by
      rw [← Option.some.inj hexcerpt, List.append_assoc _ "\n\n".toList]
      rfl
    rw [hcut] at hinfix
    rcases h.infix_or_infix hinfix with hhead | htext
    · have hlabels : ∀ ty ∈ sourceTypes, ("### ".toList ++ getTypeLabel ty).length ≤ 2000 := by
        decide
      exact hhead.length_le.trans (hlabels ty hty)
    · have hle := htext.length_le
      rw [List.length_take] at hle
      omega
  · cases hexcerpt

/-- **The content of an item of a merged result survives when it is short or the last one
under a key**, and when it is a paragraph, only then. -/
theorem survives_of_item {fetchResults : Dict Text FetchResult} {id : Text} {r : FetchResult}
    {item : Item} (hr : (id, r) ∈ fetchResults.entries)
    (hstatus : r.status = some "success".toList)
    (htype : r.type.getD "unknown".toList ∈ sourceTypes) (hitem : item ∈ r.details.getD [])
    (hne : item.content.getD [] ≠ []) :
    (Kept fetchResults (item.content.getD []) → Survives fetchResults (item.content.getD [])) ∧
      (Paragraph (item.content.getD []) → Survives fetchResults (item.content.getD []) →
        Kept fetchResults (item.content.getD [])) := by
  unfold Survives Kept
  rw [exists_entry_iff, overview_merge]
  refine ⟨?_, fun hpar => ?_⟩
  · rintro (hshort | hlast)
    · exact .inr (infix_laidOut htype (mem_ofType_typedItems hr hstatus hitem) hne hshort)
    · exact .inl hlast
  · rintro (hlast | hin)
    · exact .inr hlast
    · exact .inl (hpar.length_le hin)

/-- Two repositories of one name, and one of another. -/
def twinRepositories (first second third : Text) : Dict Text FetchResult :=
  (∅ : Dict Text FetchResult).insert "code_repo_0".toList
    { status := some "success".toList
      type := some codeRepository
      count := some 3
      content := some ("\n\n".toList.intercalate [first, second, third])
      details := some [
        { content := some first
          repoName := some "svc".toList
          repoPath := some "/a/svc".toList },
        { content := some second
          repoName := some "svc".toList
          repoPath := some "/b/svc".toList },
        { content := some third
          repoName := some "web".toList
          repoPath := some "/a/web".toList }] }

theorem keyedContents_twinRepositories (first second third : Text) :
    keyedContents (twinRepositories first second third) =
      [("svc".toList, first), ("svc".toList, second), ("web".toList, third)] := rfl

/-- The first of two repositories of one name is written over. -/
theorem not_lastUnderKey_twinRepositories {first second third : Text} (hsecond : first ≠ second)
    (hthird : first ≠ third) :
    ¬LastUnderKey (keyedContents (twinRepositories first second third)) first := by
  rw [keyedContents_twinRepositories]
  rintro ⟨before, key, after, hcut, hnot⟩
  rcases before with _ | ⟨a, _ | ⟨b, _ | ⟨c, before⟩⟩⟩
  · obtain ⟨hhead, rfl⟩ := List.cons.inj hcut
    exact hnot (by rw [← (Prod.mk.inj hhead).1]; exact List.mem_cons_self)
  · obtain ⟨hhead, -⟩ := List.cons.inj (List.cons.inj hcut).2
    exact hsecond (Prod.mk.inj hhead).2.symm
  · obtain ⟨hhead, -⟩ := List.cons.inj (List.cons.inj (List.cons.inj hcut).2).2
    exact hthird (Prod.mk.inj hhead).2.symm
  · simp at hcut

/-- Of two repositories of one name the second survives, and the first does not. -/
theorem survives_of_item_sample :
    Survives (twinRepositories (List.replicate 2001 'x') (List.replicate 2001 'y') ['z'])
        (List.replicate 2001 'y') ∧
      ¬Survives (twinRepositories (List.replicate 2001 'x') (List.replicate 2001 'y') ['z'])
        (List.replicate 2001 'x') := by
  have hbreak : '\n' ∉ List.replicate 2001 'x' := fun hmem =>
    absurd (List.eq_of_mem_replicate hmem) (by decide)
  have hpar : Paragraph (List.replicate 2001 'x') :=
    ⟨fun hin => hbreak (hin.subset List.mem_cons_self),
      fun hhead => hbreak (List.mem_of_mem_head? hhead),
      fun hlast => hbreak (List.mem_of_getLast? hlast)⟩
  have hr : _ ∈ (twinRepositories (List.replicate 2001 'x') (List.replicate 2001 'y')
      ['z']).entries := List.mem_singleton_self _
  constructor
  · refine (survives_of_item hr rfl (by decide) (List.mem_cons_of_mem _ List.mem_cons_self)
      (List.cons_ne_nil _ _)).1 (.inr ?_)
    rw [keyedContents_twinRepositories]
    exact ⟨[_], "svc".toList, [("web".toList, ['z'])], rfl, by decide⟩
  · intro hsurvives
    rcases (survives_of_item hr rfl (by decide) List.mem_cons_self (List.cons_ne_nil _ _)).2 hpar
      hsurvives with hshort | hlast
    · change (List.replicate 2001 'x').length ≤ 2000 at hshort
      rw [List.length_replicate] at hshort
      omega
    · refine not_lastUnderKey_twinRepositories ?_ ?_ hlast
      · exact fun heq => absurd (List.cons.inj heq).1 (by decide)
      · exact fun heq => absurd (List.cons.inj heq).1 (by decide)

/-- One source of direct input. -/
def directResults (content : Text) : Dict Text FetchResult :=
  (∅ : Dict Text FetchResult).insert "direct_0".toList
    { status := some "success".toList
      type := some directType
      count := some 1
      content := some content
      details := some [{ content := some content }] }

theorem laidOut_directResults {content : Text} (h : content ≠ []) :
    laidOut (directResults content) =
      "### ".toList ++ getTypeLabel directType ++ "\n\n".toList ++ content.take 2000 := by
  have htyped : typedItems (directResults content) = [(directType, { content := some content })] :=
    rfl
  have hother : ∀ ty, directType ≠ ty →
      (ofType ty [(directType, { content := some content })]).filterMap (excerpt ty) = [] := by
    intro ty hty
    rw [ofType, List.filter_cons_of_neg (by simpa using hty)]
    rfl
  have hexcerpt : excerpt directType { content := some content } =
      some ("### ".toList ++ getTypeLabel directType ++ "\n\n".toList ++ content.take 2000) :=
    if_pos h
  have hself : (ofType directType [(directType, { content := some content })]).filterMap
      (excerpt directType) =
        ["### ".toList ++ getTypeLabel directType ++ "\n\n".toList ++ content.take 2000] := by
    rw [ofType, List.filter_cons_of_pos (by simp), List.filter_nil, List.map_singleton,
      List.filterMap_cons_some hexcerpt, List.filterMap_nil]
  unfold laidOut
  rw [htyped, sourceTypes, List.flatMap_cons, List.flatMap_cons, List.flatMap_cons,
    List.flatMap_cons, List.flatMap_singleton, hother _ (by decide), hother _ (by decide),
    hother _ (by decide), hother _ (by decide), hself]
  exact List.intercalate_singleton

/-- The last character of a direct input of 2001 characters is lost. -/
theorem survives_of_item_counterexample :
    ∃ id r item content, (id, r) ∈ (directResults content).entries ∧
      r.status = some "success".toList ∧ r.type = some directType ∧ item ∈ r.details.getD [] ∧
      item.content = some content ∧ content = List.replicate 2001 'x' ∧
      ¬ Survives (directResults content) content := by
  refine ⟨_, _, { content := some (List.replicate 2001 'x') }, List.replicate 2001 'x',
    List.mem_singleton_self _, rfl, rfl, List.mem_singleton_self _, rfl, rfl, ?_⟩
  rintro (⟨e, he, -⟩ | hin)
  · cases he
  · have hpos : 0 < (List.replicate 2001 'x').length := by
      rw [List.length_replicate]
      omega
    have hle := hin.sublist.count_le 'x'
    rw [overview_merge, laidOut_directResults (List.ne_nil_of_length_pos hpos),
      List.take_replicate, List.count_append, List.count_replicate_self,
      List.count_replicate_self] at hle
    have hhead : ("### ".toList ++ getTypeLabel directType ++ "\n\n".toList).count 'x' = 0 := by
      decide
    omega

end Docs
end Shrimp
