import Mathlib.Data.List.DropRight
import Shrimp.Lib.First
import Shrimp.Orchestrator.Dispatch

/-!
# The planner's queue

What `_parse_subtask_plan` makes of any result of the planner: a queue in which
every subtask has an identifier of its own.

## Main definitions

* `planItems` — the items of `subtask_plan`.
* `subtaskOfItem` — the subtask an item names.
* `planOf` — a queue as a result of the planner.
* `ProperQueue` — what the DEV loop relies on.

## Main results

* `strip_strip` — stripping a text twice is stripping it once.
* `parseSubtaskPlan_eq_firstOccurrences` — the loop keeps the first item of each
  identifier.
* `properQueue_parseSubtaskPlan` — **every result of the planner is parsed to a
  proper queue.**
-/

namespace Shrimp

/-! ### Stripped texts -/

theorem toList_strip (s : String) :
    (strip s).toList = (s.toList.dropWhile isSpace).rdropWhile isSpace := by
  rw [strip, String.toList_ofList]
  rfl

/-- **Stripping a text twice is stripping it once.** -/
theorem strip_strip (s : String) : strip (strip s) = strip s := by
  refine String.toList_injective ?_
  rw [toList_strip, toList_strip]
  -- what is left of the end of a text starts as the text does
  have hfront : ((s.toList.dropWhile isSpace).rdropWhile isSpace).dropWhile isSpace =
      (s.toList.dropWhile isSpace).rdropWhile isSpace := by
    obtain ⟨rest, hrest⟩ := List.rdropWhile_prefix isSpace (l := s.toList.dropWhile isSpace)
    have hidem := List.dropWhile_idempotent isSpace (l := s.toList)
    cases hfirst : (s.toList.dropWhile isSpace).rdropWhile isSpace with
    | nil => rfl
    | cons c cs =>
      rw [hfirst] at hrest
      rw [← hrest, List.cons_append, List.dropWhile_cons] at hidem
      cases hc : isSpace c with
      | false => rw [List.dropWhile_cons_of_neg (by simp [hc])]
      | true =>
        rw [if_pos hc] at hidem
        have hlen := (List.dropWhile_suffix isSpace (l := cs ++ rest)).length_le
        rw [hidem, List.length_cons] at hlen
        omega
  rw [hfront, List.rdropWhile_idempotent]

section Plan

variable (env : Env)

/-! ### The queue of a result -/

/-- The items of `subtask_plan`. -/
def planItems (result : Json) : List Json :=
  ((result.asDict.bind fun d => d.get? "subtask_plan").bind Json.asList).getD []

/-- The subtask an item names: the item is an object with a `task_id` whose
stripped text is not empty. -/
def subtaskOfItem (item : Json) : Option SubtaskSpec :=
  item.asDict.bind fun d => (d.get? "task_id").bind fun x =>
    if strip (x.pyStr env.isPrintable) = "" then none
    else some
      { taskId := strip (x.pyStr env.isPrintable)
        title := env.getStr d "title" ""
        description := env.getStr d "description" "" }

/-- The loop over the items is the loop over the subtasks they name. -/
theorem parseSubtaskItems_eq (items : List Json) (seen : List String) :
    parseSubtaskItems env items seen =
      keepUnseen SubtaskSpec.taskId (items.filterMap (subtaskOfItem env)) seen := by
  induction items generalizing seen with
  | nil => rfl
  | cons item rest ih =>
    rw [parseSubtaskItems, List.filterMap_cons]
    cases hd : item.asDict with
    | none => simp [subtaskOfItem, hd, ih]
    | some d =>
      cases hx : d.get? "task_id" with
      | none => simp [subtaskOfItem, hd, hx, Dict.contains, ih]
      | some x =>
        have hstr : env.getStr d "task_id" "" = x.pyStr env.isPrintable := by
          simp [Env.getStr, Obj.getStr, hx]
        simp only [subtaskOfItem, hd, hx, Dict.contains, hstr, Option.bind_some,
          Option.isSome_some, if_true]
        by_cases hblank : strip (x.pyStr env.isPrintable) = ""
        · simp [hblank, ih]
        · simp [hblank, keepUnseen, ih]

/-- **The loop keeps the first item of each identifier**, in the order of the
items. -/
theorem parseSubtaskPlan_eq_firstOccurrences (result : Json) :
    parseSubtaskPlan env result =
      firstOccurrences SubtaskSpec.taskId ((planItems result).filterMap (subtaskOfItem env)) := by
  rw [← keepUnseen_nil, ← parseSubtaskItems_eq, parseSubtaskPlan, planItems]
  cases (result.asDict.bind fun d => d.get? "subtask_plan").bind Json.asList <;> rfl

/-- **A plan names no subtask twice.** -/
theorem nodup_parseSubtaskPlan (result : Json) :
    ((parseSubtaskPlan env result).map SubtaskSpec.taskId).Nodup := by
  rw [parseSubtaskPlan_eq_firstOccurrences]
  exact nodup_firstOccurrences _

variable {env}

/-- The identifier of a subtask is a stripped text that is not empty. -/
theorem taskId_of_subtaskOfItem {item : Json} {t : SubtaskSpec}
    (h : subtaskOfItem env item = some t) : t.taskId ≠ "" ∧ strip t.taskId = t.taskId := by
  simp only [subtaskOfItem, Option.bind_eq_some_iff] at h
  obtain ⟨d, -, x, -, h⟩ := h
  split at h
  · cases h
  · next hne =>
    cases h
    exact ⟨hne, strip_strip _⟩

theorem taskId_of_mem_parseSubtaskPlan {result : Json} {t : SubtaskSpec}
    (h : t ∈ parseSubtaskPlan env result) : t.taskId ≠ "" ∧ strip t.taskId = t.taskId := by
  rw [parseSubtaskPlan_eq_firstOccurrences] at h
  obtain ⟨item, -, hitem⟩ := List.mem_filterMap.mp (mem_of_mem_firstOccurrences h)
  exact taskId_of_subtaskOfItem hitem

/-! ### A queue as a plan -/

/-- A subtask as an item of a plan. -/
def itemOfSubtask (t : SubtaskSpec) : Json :=
  .obj [("task_id", .str t.taskId), ("title", .str t.title), ("description", .str t.description)]

/-- A queue as a result of the planner. -/
def planOf (queue : List SubtaskSpec) : Json :=
  .obj [("subtask_plan", .arr (queue.map itemOfSubtask))]

theorem planItems_planOf (queue : List SubtaskSpec) :
    planItems (planOf queue) = queue.map itemOfSubtask := rfl

theorem subtaskOfItem_itemOfSubtask {t : SubtaskSpec} (hne : t.taskId ≠ "")
    (hstrip : strip t.taskId = t.taskId) : subtaskOfItem env (itemOfSubtask t) = some t := by
  have htitle : env.getStr (Dict.ofList [("task_id", Json.str t.taskId), ("title", .str t.title),
      ("description", .str t.description)]) "title" "" = t.title := Obj.getStr_of_get? rfl
  have hdescription : env.getStr (Dict.ofList [("task_id", Json.str t.taskId),
      ("title", .str t.title), ("description", .str t.description)]) "description" "" =
      t.description := Obj.getStr_of_get? rfl
  change (if strip t.taskId = "" then none else some (SubtaskSpec.mk (strip t.taskId) _ _)) = _
  rw [hstrip, if_neg hne, htitle, hdescription]

/-- **A queue made a plan and parsed again is the same queue.** -/
theorem parseSubtaskPlan_planOf {queue : List SubtaskSpec}
    (hid : ∀ t ∈ queue, t.taskId ≠ "" ∧ strip t.taskId = t.taskId)
    (hnodup : (queue.map SubtaskSpec.taskId).Nodup) :
    parseSubtaskPlan env (planOf queue) = queue := by
  have hitems : (queue.map itemOfSubtask).filterMap (subtaskOfItem env) = queue := by
    rw [List.filterMap_map]
    conv_rhs => rw [← List.filterMap_some (l := queue)]
    refine List.filterMap_congr fun t ht => ?_
    exact subtaskOfItem_itemOfSubtask (hid t ht).1 (hid t ht).2
  rw [parseSubtaskPlan_eq_firstOccurrences, planItems_planOf, hitems]
  exact firstOccurrences_eq_self_iff.mpr hnodup

/-! ### Proper queues -/

/-- What the DEV loop relies on: the queue has the subtasks the plan names, each
once and in order, and is stable. -/
structure ProperQueue (env : Env) (result : Json) (queue : List SubtaskSpec) : Prop where
  nonempty : ∀ t ∈ queue, t.taskId ≠ ""
  stripped : ∀ t ∈ queue, strip t.taskId = t.taskId
  nodup : (queue.map SubtaskSpec.taskId).Nodup
  exact : queue =
    firstOccurrences SubtaskSpec.taskId ((planItems result).filterMap (subtaskOfItem env))
  again : parseSubtaskPlan env (planOf queue) = queue

/-- **Every result of the planner is parsed to a proper queue.** -/
theorem properQueue_parseSubtaskPlan (env : Env) (result : Json) :
    ProperQueue env result (parseSubtaskPlan env result) where
  nonempty _ ht := (taskId_of_mem_parseSubtaskPlan ht).1
  stripped _ ht := (taskId_of_mem_parseSubtaskPlan ht).2
  nodup := nodup_parseSubtaskPlan env result
  exact := parseSubtaskPlan_eq_firstOccurrences env result
  again := parseSubtaskPlan_planOf (fun _ ht => taskId_of_mem_parseSubtaskPlan ht)
    (nodup_parseSubtaskPlan env result)

end Plan

end Shrimp
