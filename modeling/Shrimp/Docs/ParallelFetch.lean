import Mathlib.Data.List.Perm.Basic
import Shrimp.Docs.ContentMerger

/-!
# Fetching in parallel (`doc_output/parallel_fetch.py`)

Every source of a known type is fetched by a thread of its own, and the results
are recorded as the threads complete.  The record is a dictionary, so its order is
the order of completion, and the merger goes through it in this order.

What a thread returns or raises is a parameter; `fetch_all` looks at the type of a
source only.

## Main definitions

* `tasks`, `fetchAll` — `fetch_all`, for an order in which the threads complete.
* `Interchangeable` — two results that may complete in either order.

## Main results

* `typedItems_fetchAll` — what the merger sees of an order.
* `merge_fetchAll_eq_iff` — **the merged content is the same for all orders exactly
  when any two results with items are interchangeable.**
-/

namespace Shrimp
namespace Docs

/-! ### `fetch_all` -/

/-- An input source, as `fetch_all` looks at it. -/
structure InputSource where
  type : Option Text
  deriving DecidableEq

/-- What a fetch method returns. -/
structure Fetched where
  type : Option Text := none
  count : Option ℤ := none
  content : Option Text := none
  details : Option (List Item) := none

/-- A task: its id, and the source it fetches. -/
structure FetchTask where
  taskId : Text
  source : InputSource
  deriving DecidableEq

/-- The known types, with what the ids of their tasks begin with. -/
def taskPrefixes : List (Text × Text) := [
  (codeRepository, "code_repo_".toList), (feishuDoc, "feishu_doc_".toList),
  (webType, "web_".toList), (internalType, "internal_".toList), (directType, "direct_".toList)]

/-- The task of a source, unless its type is not known. -/
def taskOf (source : InputSource) (i : ℕ) : Option FetchTask :=
  (taskPrefixes.lookup (source.type.getD "unknown".toList)).map fun start =>
    ⟨start ++ Nat.toDigits 10 i, source⟩

/-- The tasks of the sources, in their order. -/
def tasks (inputSources : List InputSource) : List FetchTask :=
  inputSources.zipIdx.filterMap fun s => taskOf s.1 s.2

/-- What is recorded when a future completes. -/
def record : Except Text Fetched → FetchResult
  | .ok result =>
    { status := some "success".toList
      type := some (result.type.getD "unknown".toList)
      count := some (result.count.getD 1)
      content := some (result.content.getD [])
      details := some (result.details.getD []) }
  | .error e => { status := some "error".toList, error := some e }

/-- `fetch_all`, for what the futures return or raise and the order in which
`as_completed` yields them. -/
def fetchAll (outcome : FetchTask → Except Text Fetched) (completed : List FetchTask) :
    Dict Text FetchResult :=
  completed.foldl (fun results t => results.insert t.taskId (record (outcome t))) ∅

/-! ### Task ids -/

/-- What follows the last underscore is determined by the text. -/
theorem eq_of_append_underscore {a b x y : Text} (hx : '_' ∉ x) (hy : '_' ∉ y)
    (h : a ++ '_' :: x = b ++ '_' :: y) : x = y := by
  have hrev := congrArg (fun t => t.reverse.takeWhile (· ≠ '_')) h
  have htake : ∀ {a x : Text}, '_' ∉ x →
      (a ++ '_' :: x).reverse.takeWhile (· ≠ '_') = x.reverse := by
    intro a x hx
    rw [List.reverse_append, List.reverse_cons, List.append_assoc, List.singleton_append,
      List.takeWhile_append_of_pos]
    · simp
    · intro c hc
      refine decide_eq_true ?_
      rintro rfl
      exact hx (List.mem_reverse.mp hc)
  simp only [htake hx, htake hy] at hrev
  exact List.reverse_injective hrev

theorem underscore_notMem_toDigits (i : ℕ) : '_' ∉ Nat.toDigits 10 i := by
  intro h
  exact absurd (Nat.isDigit_of_mem_toDigits (by omega) (by omega) h) (by decide)

theorem toDigits_injective {i j : ℕ} (h : Nat.toDigits 10 i = Nat.toDigits 10 j) : i = j := by
  rw [← Nat.ofDigitChars_ten_toDigits (n := i), h, Nat.ofDigitChars_ten_toDigits]

/-- The ids of all known types end in an underscore and the index. -/
theorem exists_taskId {source : InputSource} {i : ℕ} {t : FetchTask}
    (h : taskOf source i = some t) : ∃ start, t.taskId = start ++ '_' :: Nat.toDigits 10 i := by
  obtain ⟨start, hstart, rfl⟩ := Option.map_eq_some_iff.mp h
  have hlast : ∀ e ∈ taskPrefixes, e.2.getLast? = some '_' := by decide
  have hmem : (source.type.getD "unknown".toList, start) ∈ taskPrefixes := by
    obtain ⟨before, after, hes, -⟩ := List.lookup_eq_some_iff.mp hstart
    rw [hes]
    exact List.mem_append_right _ List.mem_cons_self
  obtain ⟨s, hs⟩ := List.getLast?_eq_some_iff.mp (hlast _ hmem)
  refine ⟨s, ?_⟩
  simp only at hs ⊢
  rw [hs, List.append_assoc, List.singleton_append]

/-- **The ids of the tasks are distinct.** -/
theorem nodup_tasks (inputSources : List InputSource) :
    ((tasks inputSources).map FetchTask.taskId).Nodup := by
  unfold tasks
  rw [List.Nodup, List.pairwise_map, List.pairwise_filterMap]
  have hidx : inputSources.zipIdx.Pairwise fun s s' => s.2 ≠ s'.2 := by
    rw [← List.pairwise_map (f := Prod.snd) (R := (· ≠ ·)), List.zipIdx_map_snd]
    exact List.nodup_range'
  refine hidx.imp fun {s s'} hne t ht t' ht' heq => hne ?_
  obtain ⟨start, hid⟩ := exists_taskId ht
  obtain ⟨start', hid'⟩ := exists_taskId ht'
  rw [hid, hid'] at heq
  exact toDigits_injective (eq_of_append_underscore (underscore_notMem_toDigits _)
    (underscore_notMem_toDigits _) heq)

/-! ### What the merger sees -/

def Fetched.sourceType (f : Fetched) : Text := f.type.getD "unknown".toList

def Fetched.items (f : Fetched) : List Item := f.details.getD []

/-- The items a task contributes. -/
def itemsOf (outcome : FetchTask → Except Text Fetched) (t : FetchTask) : List Item :=
  match outcome t with
  | .ok f => f.items
  | .error _ => []

section

variable {outcome : FetchTask → Except Text Fetched} {inputSources : List InputSource}
  {completed completed' : List FetchTask}

/-- **The results are recorded in the order of completion.** -/
theorem entries_fetchAll (outcome : FetchTask → Except Text Fetched)
    (h : completed.Perm (tasks inputSources)) :
    (fetchAll outcome completed).entries =
      completed.map fun t => (t.taskId, record (outcome t)) := by
  have hwrite : fetchAll outcome completed =
      Dict.write ∅ (completed.map fun t => (t.taskId, record (outcome t))) := by
    unfold fetchAll Dict.write
    rw [List.foldl_map]
  have hids : (completed.map FetchTask.taskId).Nodup :=
    (h.map FetchTask.taskId).nodup_iff.mpr (nodup_tasks inputSources)
  rw [hwrite, Dict.entries_write_of_nodup]
  · rfl
  · change ([] ++ _).Nodup
    rw [List.nil_append, List.map_map]
    exact hids

theorem typed_record (r : Except Text Fetched) :
    (record r).typed = match r with
      | .ok f => f.items.map (f.sourceType, ·)
      | .error _ => [] := by
  cases r with
  | ok f => rfl
  | error e => rfl

/-- **What the merger sees of an order** is the items of the tasks one after another. -/
theorem typedItems_fetchAll (outcome : FetchTask → Except Text Fetched)
    (h : completed.Perm (tasks inputSources)) :
    typedItems (fetchAll outcome completed) =
      completed.flatMap fun t => (record (outcome t)).typed := by
  rw [typedItems, entries_fetchAll outcome h, List.flatMap_map]

/-- All results with items have one type. -/
def OneType (outcome : FetchTask → Except Text Fetched) (ts : List FetchTask)
    (sourceType : Text) : Prop :=
  ∀ t ∈ ts, ∀ f, outcome t = .ok f → f.items ≠ [] → f.sourceType = sourceType

theorem typedItems_of_oneType {sourceType : Text} (h : completed.Perm (tasks inputSources))
    (htype : OneType outcome (tasks inputSources) sourceType) :
    typedItems (fetchAll outcome completed) =
      (completed.flatMap (itemsOf outcome)).map (sourceType, ·) := by
  rw [typedItems_fetchAll outcome h, List.map_flatMap]
  refine List.flatMap_congr fun t ht => ?_
  rw [typed_record]
  -- a result without items contributes none, whatever its type is
  unfold itemsOf
  cases hf : outcome t with
  | error e => rfl
  | ok f =>
    simp only
    by_cases hnil : f.items = []
    · rw [hnil]
      rfl
    · rw [htype t (h.subset ht) f hf hnil]

/-! ### Two orders -/

/-- The excerpts of items of a type, each with a blank line before it. -/
def excerptText (sourceType : Text) (items : List Item) : Text :=
  (excerptsOf sourceType items).flatMap ("\n\n".toList ++ ·)

/-- **Items of a type that may come in either order**: their excerpts make the same
text and their references the same list, and of the entries they write the keys of
one begin with those of the other, and common keys have the same entry. -/
structure Commuting (sourceType : Text) (items items' : List Item) : Prop where
  excerpts : excerptText sourceType items ++ excerptText sourceType items' =
    excerptText sourceType items' ++ excerptText sourceType items
  references : referencesOf sourceType items ++ referencesOf sourceType items' =
    referencesOf sourceType items' ++ referencesOf sourceType items
  entries : (Dict.ofList (entriesOf sourceType items)).Compatible
    (Dict.ofList (entriesOf sourceType items'))

theorem Commuting.refl (sourceType : Text) (items : List Item) :
    Commuting sourceType items items where
  excerpts := rfl
  references := rfl
  entries := ⟨Or.inl (List.prefix_refl _), fun _ _ _ hv hw => Option.some.inj (hv.symm.trans hw)⟩

theorem Commuting.symm {sourceType : Text} {items items' : List Item}
    (h : Commuting sourceType items items') : Commuting sourceType items' items :=
  ⟨h.excerpts.symm, h.references.symm, h.entries.symm⟩

theorem commuting_nil (sourceType : Text) (items : List Item) : Commuting sourceType [] items where
  excerpts := by
    have hnil : excerptText sourceType [] = [] := by
      unfold excerptText excerptsOf
      split <;> rfl
    rw [hnil, List.nil_append, List.append_nil]
  references := by
    have hnil : referencesOf sourceType [] = [] := keyedBy_nil _ _ _ _
    rw [hnil, List.nil_append, List.append_nil]
  entries := by
    have hnil : entriesOf sourceType [] = [] := keyedBy_nil _ _ _ _
    rw [hnil]
    exact ⟨Or.inl List.nil_prefix, fun _ _ _ hv _ => by cases hv⟩

/-- **Two results may complete in either order.** -/
structure Interchangeable (f g : Fetched) : Prop where
  type_eq : f.sourceType = g.sourceType
  commuting : Commuting f.sourceType f.items g.items

/-- Any two results with items may complete in either order. -/
def AllInterchangeable (outcome : FetchTask → Except Text Fetched) (ts : List FetchTask) : Prop :=
  ∀ t ∈ ts, ∀ u ∈ ts, ∀ f g, outcome t = .ok f → outcome u = .ok g → f.items ≠ [] →
    g.items ≠ [] → Interchangeable f g

theorem AllInterchangeable.commuting {ts : List FetchTask} {sourceType : Text}
    (h : AllInterchangeable outcome ts) (htype : OneType outcome ts sourceType)
    {t u : FetchTask} (ht : t ∈ ts) (hu : u ∈ ts) :
    Commuting sourceType (itemsOf outcome t) (itemsOf outcome u) := by
  unfold itemsOf
  cases hf : outcome t with
  | error e => exact commuting_nil _ _
  | ok f =>
    -- a task that failed, or that has found nothing, commutes with every other one
    cases hg : outcome u with
    | error e => exact (commuting_nil _ _).symm
    | ok g =>
      simp only
      by_cases hfn : f.items = []
      · rw [hfn]
        exact commuting_nil _ _
      · by_cases hgn : g.items = []
        · rw [hgn]
          exact (commuting_nil _ _).symm
        · rw [← htype t ht f hf hfn]
          exact (h t ht u hu f g hf hg hfn hgn).commuting

/-- The items of two orders are the same, up to their order. -/
theorem perm_flatMap_itemsOf (h : completed.Perm completed') :
    (completed.flatMap (itemsOf outcome)).Perm (completed'.flatMap (itemsOf outcome)) :=
  h.flatMap_right _

theorem excerptsOf_eq_nil_iff {sourceType : Text} {items items' : List Item}
    (h : items.Perm items') :
    excerptsOf sourceType items = [] ↔ excerptsOf sourceType items' = [] := by
  have hperm : (excerptsOf sourceType items).Perm (excerptsOf sourceType items') := by
    unfold excerptsOf
    split
    · exact h.filterMap _
    · exact List.Perm.nil
  exact ⟨fun hnil => List.nil_perm.mp (hnil ▸ hperm), fun hnil => List.perm_nil.mp (hnil ▸ hperm)⟩

/-- **Interchangeable results are merged to the same content in all orders.** -/
theorem merge_eq_of_interchangeable (h : AllInterchangeable outcome (tasks inputSources))
    (ho : completed.Perm (tasks inputSources)) (ho' : completed'.Perm (tasks inputSources)) :
    merge (fetchAll outcome completed) = merge (fetchAll outcome completed') := by
  have hperm : completed.Perm completed' := ho.trans ho'.symm
  -- without items the merge of either order is that of nothing
  by_cases hitems : completed.flatMap (itemsOf outcome) = []
  · have hitems' : completed'.flatMap (itemsOf outcome) = [] :=
      List.nil_perm.mp (hitems ▸ perm_flatMap_itemsOf hperm)
    have hnone : OneType outcome (tasks inputSources) [] := by
      intro t ht f hf hne
      have hnil := List.flatMap_eq_nil_iff.mp hitems t (ho.symm.subset ht)
      unfold itemsOf at hnil
      rw [hf] at hnil
      exact absurd hnil hne
    refine merge_congr ?_
    rw [typedItems_of_oneType ho hnone, typedItems_of_oneType ho' hnone, hitems, hitems']
  · have hitems' : completed'.flatMap (itemsOf outcome) ≠ [] := fun hnil =>
      hitems (List.perm_nil.mp (hnil ▸ perm_flatMap_itemsOf hperm))
    -- with an item, its type is that of all results, and the parts of the merge commute pairwise
    obtain ⟨item, hitem⟩ := List.exists_mem_of_ne_nil _ hitems
    obtain ⟨t₀, ht₀, hitem⟩ := List.mem_flatMap.mp hitem
    unfold itemsOf at hitem
    split at hitem
    · next f₀ hf₀ =>
      have htype : OneType outcome (tasks inputSources) f₀.sourceType := by
        intro t ht f hf hne
        exact (h t ht t₀ (ho.subset ht₀) f f₀ hf hf₀ hne (List.ne_nil_of_mem hitem)).type_eq
      have hcomm : ∀ t ∈ completed, ∀ u ∈ completed,
          Commuting f₀.sourceType (itemsOf outcome t) (itemsOf outcome u) := fun t ht u hu =>
        h.commuting htype (ho.subset ht) (ho.subset hu)
      rw [merge_of_single hitems (typedItems_of_oneType ho htype),
        merge_of_single hitems' (typedItems_of_oneType ho' htype)]
      congr 1
      · rw [List.intercalate_eq_iff _ (excerptsOf_eq_nil_iff (perm_flatMap_itemsOf hperm)),
          excerptsOf_flatMap, excerptsOf_flatMap, List.flatMap_assoc, List.flatMap_assoc]
        exact List.flatMap_eq_of_perm hperm fun t ht u hu => (hcomm t ht u hu).excerpts
      · rw [entriesOf, entriesOf, keyedBy_flatMap, keyedBy_flatMap]
        exact Dict.ofList_flatMap_eq_of_perm hperm fun t ht u hu => (hcomm t ht u hu).entries
      · rw [referencesOf, referencesOf, keyedBy_flatMap, keyedBy_flatMap]
        exact List.flatMap_eq_of_perm hperm fun t ht u hu => (hcomm t ht u hu).references
      · rw [(perm_flatMap_itemsOf hperm).length_eq]
    · cases hitem

theorem exists_perm_of_mem {ts : List FetchTask} {t u : FetchTask} (ht : t ∈ ts) (hu : u ∈ ts)
    (htu : t ≠ u) : ∃ rest, (t :: u :: rest).Perm ts := by
  have hu' : u ∈ ts.erase t := (List.mem_erase_of_ne (Ne.symm htu)).mpr hu
  refine ⟨(ts.erase t).erase u, ?_⟩
  exact ((List.perm_cons_erase hu').symm.cons t).trans (List.perm_cons_erase ht).symm

/-- The type of what completes first is the first of the types. -/
theorem head?_sourcesTypes {t : FetchTask} {rest : List FetchTask} {f : Fetched}
    (h : (t :: rest).Perm (tasks inputSources)) (hf : outcome t = .ok f) (hne : f.items ≠ []) :
    (merge (fetchAll outcome (t :: rest))).metadata.sourcesTypes.head? = some f.sourceType := by
  change (groupByType (fetchAll outcome (t :: rest))).keys.head? = _
  rw [groupByType_eq, typedItems_fetchAll outcome h, List.flatMap_cons, hf, typed_record]
  obtain ⟨item, items, hitems⟩ := List.exists_cons_of_ne_nil hne
  simp only [hitems, List.map_cons, List.cons_append]
  exact head?_keys_group _ _

/-- The merged content is the same in all orders. -/
def OrderIndependent (outcome : FetchTask → Except Text Fetched)
    (inputSources : List InputSource) : Prop :=
  ∀ completed completed', completed.Perm (tasks inputSources) →
    completed'.Perm (tasks inputSources) →
      merge (fetchAll outcome completed) = merge (fetchAll outcome completed')

/-- **Results with items have one type where the order does not matter.** -/
theorem OrderIndependent.sourceType_eq (h : OrderIndependent outcome inputSources)
    {t u : FetchTask} {f g : Fetched} (ht : t ∈ tasks inputSources) (hu : u ∈ tasks inputSources)
    (hf : outcome t = .ok f) (hg : outcome u = .ok g) (hfn : f.items ≠ []) (hgn : g.items ≠ []) :
    f.sourceType = g.sourceType := by
  by_cases htu : t = u
  · rw [htu, hg] at hf
    cases hf
    rfl
  · obtain ⟨rest, hperm⟩ := exists_perm_of_mem ht hu htu
    have hswap : (u :: t :: rest).Perm (tasks inputSources) :=
      (List.Perm.swap t u rest).trans hperm
    have hheads := congrArg (fun m : Merged => m.metadata.sourcesTypes.head?)
      (h _ _ hperm hswap)
    simp only [head?_sourcesTypes hperm hf hfn, head?_sourcesTypes hswap hg hgn] at hheads
    exact Option.some.inj hheads

/-- What is merged in an order, where all results with items have one type. -/
theorem merge_fetchAll_of_oneType {sourceType : Text}
    (htype : OneType outcome (tasks inputSources) sourceType)
    (h : completed.Perm (tasks inputSources)) {t : FetchTask} (ht : t ∈ completed)
    (hne : itemsOf outcome t ≠ []) :
    let items := completed.flatMap (itemsOf outcome)
    (merge (fetchAll outcome completed)).overview =
        "\n\n".toList.intercalate (excerptsOf sourceType items) ∧
      (merge (fetchAll outcome completed)).details = Dict.ofList (entriesOf sourceType items) ∧
      (merge (fetchAll outcome completed)).references = referencesOf sourceType items := by
  have hitems : completed.flatMap (itemsOf outcome) ≠ [] := fun hnil =>
    hne (List.flatMap_eq_nil_iff.mp hnil t ht)
  rw [merge_of_single hitems (typedItems_of_oneType h htype)]
  exact ⟨rfl, rfl, rfl⟩

/-- **Where the order does not matter, any two results are interchangeable.**  With two
tasks first, in either order, the overview, the references and the keys show it; with
the two last, the values of the entries do. -/
theorem interchangeable_of_orderIndependent (h : OrderIndependent outcome inputSources) :
    AllInterchangeable outcome (tasks inputSources) := by
  intro t ht u hu f g hf hg hfn hgn
  have htype : OneType outcome (tasks inputSources) f.sourceType := fun v hv k hk hkn =>
    (h.sourceType_eq ht hv hf hk hfn hkn).symm
  refine ⟨h.sourceType_eq ht hu hf hg hfn hgn, ?_⟩
  by_cases htu : t = u
  · rw [htu, hg] at hf
    cases hf
    exact Commuting.refl _ _
  -- what is swapped are the items of the two tasks
  have hitemsf : itemsOf outcome t = f.items := by
    unfold itemsOf
    rw [hf]
  have hitemsg : itemsOf outcome u = g.items := by
    unfold itemsOf
    rw [hg]
  have htne : itemsOf outcome t ≠ [] := by rwa [hitemsf]
  -- four orders: the two tasks first, and the two tasks last, each way round
  obtain ⟨rest, hperm⟩ := exists_perm_of_mem ht hu htu
  have hswap : (u :: t :: rest).Perm (tasks inputSources) := (List.Perm.swap t u rest).trans hperm
  have hlast : (rest ++ [t, u]).Perm (tasks inputSources) :=
    List.perm_append_comm.trans hperm
  have hlast' : (rest ++ [u, t]).Perm (tasks inputSources) :=
    List.perm_append_comm.trans hswap
  have hfirst := h _ _ hperm hswap
  obtain ⟨ho₁, hd₁, hr₁⟩ := merge_fetchAll_of_oneType htype hperm List.mem_cons_self htne
  obtain ⟨ho₂, hd₂, hr₂⟩ := merge_fetchAll_of_oneType htype hswap
    (List.mem_cons_of_mem _ List.mem_cons_self) htne
  obtain ⟨-, hd₃, -⟩ := merge_fetchAll_of_oneType htype hlast (by simp) htne
  obtain ⟨-, hd₄, -⟩ := merge_fetchAll_of_oneType htype hlast' (by simp) htne
  -- the first two orders tell apart what begins the merge, the last two what ends it
  rw [hfirst, ho₂, List.intercalate_eq_iff _
    (excerptsOf_eq_nil_iff (perm_flatMap_itemsOf (hswap.trans hperm.symm)))] at ho₁
  rw [hfirst, hr₂] at hr₁
  rw [hfirst, hd₂] at hd₁
  rw [h _ _ hlast hlast', hd₄] at hd₃
  simp only [List.flatMap_cons, List.flatMap_append, List.flatMap_nil, List.append_nil,
    excerptsOf_append, entriesOf, referencesOf, keyedBy_append, Dict.ofList_append, hitemsf,
    hitemsg, ← List.append_assoc] at ho₁ hr₁ hd₁ hd₃
  refine ⟨?_, ?_, ?_⟩
  · exact (List.append_cancel_right ho₁).symm
  · exact (List.append_cancel_right hr₁).symm
  · rw [Dict.merge_assoc, Dict.merge_assoc] at hd₃
    exact Dict.compatible_of_merge hd₁.symm hd₃.symm

/-- **The merged content is the same for all orders in which the sources complete
exactly when any two results with items are interchangeable.** -/
theorem merge_fetchAll_eq_iff (outcome : FetchTask → Except Text Fetched)
    (inputSources : List InputSource) :
    OrderIndependent outcome inputSources ↔ AllInterchangeable outcome (tasks inputSources) :=
  ⟨interchangeable_of_orderIndependent, fun h _ _ ho ho' => merge_eq_of_interchangeable h ho ho'⟩

end

/-- Two sources of direct input. -/
def sampleSources : List InputSource := [⟨some directType⟩, ⟨some directType⟩]

/-- Their contents. -/
def sampleOutcome (t : FetchTask) : Except Text Fetched :=
  let content := if t.taskId = "direct_0".toList then "first".toList else "second".toList
  .ok { type := some directType
        count := some 1
        content := some content
        details := some [{ content := some content }] }

/-- Two direct inputs come in the order in which their threads complete. -/
theorem merge_fetchAll_eq_iff_counterexample :
    ∃ completed completed', completed.Perm (tasks sampleSources) ∧
      completed'.Perm (tasks sampleSources) ∧
      (merge (fetchAll sampleOutcome completed)).overview ≠
        (merge (fetchAll sampleOutcome completed')).overview := by
  refine ⟨tasks sampleSources, (tasks sampleSources).reverse, List.Perm.refl _,
    List.reverse_perm _, ?_⟩
  decide

end Docs
end Shrimp
