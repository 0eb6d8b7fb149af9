import JitSnapshot.Proofs.Tree.Branches
import Mathlib.Data.List.Nodup
import Mathlib.Order.Basic

set_option autoImplicit false

/-!
Labels given to the instances of a tree one after the other: to each instance
first, and then to all that is below it. What is below takes its labels from an
interval, and two things below the same instance from intervals that lie apart;
so where a path leads is labelled within the interval of every instance on it.
-/

namespace JitSnapshot

variable {α σ : Type}

section Slots

variable (label : σ → α → α × σ)

def labelSlot (first : σ) : Option α → Option α × σ
  | none => (none, first)
  | some value => (some (label first value).1, (label first value).2)

def labelSlots (first : σ) : List (Option α) → List (Option α) × σ
  | [] => ([], first)
  | slot :: rest =>
      let labelled := labelSlot label first slot
      let later := labelSlots labelled.2 rest
      (labelled.1 :: later.1, later.2)

/-- Everything below an instance, labelled in the order in which it is listed. -/
def labelBranches (first : σ) (branches : Branches α) : Branches α × σ :=
  let inlinees := labelSlots label first branches.inlinees
  let fieldInlinees := labelSlots label inlinees.2 branches.fieldInlinees
  let next := labelSlot label fieldInlinees.2 branches.next
  ({ inlinees := inlinees.1, fieldInlinees := fieldInlinees.1, next := next.1 }, next.2)

/-- What stands at the end of a step, with the first label it is given. -/
structure Numbered (α σ : Type) where
  step : Step
  value : α
  first : σ

def Numbered.stop (numbered : Numbered α σ) : σ :=
  (label numbered.first numbered.value).2

def Numbered.branch (numbered : Numbered α σ) : Step × α :=
  (numbered.step, (label numbered.first numbered.value).1)

def number (first : σ) : List (Step × α) → List (Numbered α σ)
  | [] => []
  | (step, value) :: rest =>
      { step, value, first } :: number (label first value).2 rest

def afterAll (first : σ) (branches : List (Step × α)) : σ :=
  branches.foldl (fun free branch => (label free branch.2).2) first

private theorem number_append (first : σ) (front back : List (Step × α)) :
    number label first (front ++ back) =
      number label first front ++ number label (afterAll label first front) back := by
  induction front generalizing first with
  | nil => rfl
  | cons branch rest ih => exact congrArg _ (ih (label first branch.2).2)

private theorem afterAll_append (first : σ) (front back : List (Step × α)) :
    afterAll label first (front ++ back) =
      afterAll label (afterAll label first front) back :=
  List.foldl_append

private theorem mem_number (first : σ) {branches : List (Step × α)} {step : Step} {value : α} :
    (step, value) ∈ branches ↔
      ∃ start, { step, value, first := start } ∈ number label first branches := by
  induction branches generalizing first with
  | nil => simp only [number, List.not_mem_nil, exists_false]
  | cons branch rest ih =>
      simp only [number, List.mem_cons, Numbered.mk.injEq, exists_or]
      refine or_congr ?_ (ih _)
      constructor
      · rintro rfl
        exact ⟨first, rfl, rfl, rfl⟩
      · rintro ⟨_, rfl, rfl, _⟩
        rfl

private theorem map_step_number (first : σ) (branches : List (Step × α)) :
    (number label first branches).map Numbered.step = branches.map Prod.fst := by
  induction branches generalizing first with
  | nil => rfl
  | cons branch rest ih => exact congrArg _ (ih (label first branch.2).2)

private theorem present_labelSlots (step : Nat → Step) (index : Nat) (first : σ)
    (slots : List (Option α)) :
    Branches.present step index (labelSlots label first slots).1 =
        (number label first (Branches.present step index slots)).map (Numbered.branch label) ∧
      (labelSlots label first slots).2 =
        afterAll label first (Branches.present step index slots) := by
  induction slots generalizing index first with
  | nil => exact ⟨rfl, rfl⟩
  | cons slot rest ih =>
      cases slot with
      | none => exact ih (index + 1) first
      | some value =>
          obtain ⟨same, stop⟩ := ih (index + 1) (label first value).2
          exact ⟨congrArg _ same, stop⟩

theorem toList_labelBranches (first : σ) (branches : Branches α) :
    (labelBranches label first branches).1.toList =
        (number label first branches.toList).map (Numbered.branch label) ∧
      (labelBranches label first branches).2 = afterAll label first branches.toList := by
  obtain ⟨inlinees, afterInlinees⟩ :=
    present_labelSlots label .inlinee 0 first branches.inlinees
  obtain ⟨fields, afterFields⟩ :=
    present_labelSlots label .fieldInlinee 0 (labelSlots label first branches.inlinees).2
      branches.fieldInlinees
  rw [afterInlinees] at fields afterFields
  simp only [labelBranches, Branches.toList, number_append, afterAll_append, List.map_append,
    inlinees, afterInlinees, fields, afterFields]
  cases branches.next with
  | none => exact ⟨rfl, rfl⟩
  | some value => exact ⟨rfl, rfl⟩

variable {label} {first : σ} {branches : Branches α}

theorem at?_labelBranches {below : Numbered α σ}
    (member : below ∈ number label first branches.toList) :
    (labelBranches label first branches).1.at? below.step =
      some (label below.first below.value).1 := by
  apply Branches.mem_toList.mp
  rw [(toList_labelBranches label first branches).1]
  exact List.mem_map_of_mem member

theorem exists_numbered (first : σ) {step : Step} {value : α}
    (found : branches.at? step = some value) :
    ∃ start, { step, value, first := start } ∈ number label first branches.toList :=
  (mem_number label first).mp (Branches.mem_toList.mpr found)

private theorem at?_of_numbered {below : Numbered α σ}
    (member : below ∈ number label first branches.toList) :
    branches.at? below.step = some below.value :=
  Branches.mem_toList.mp ((mem_number label first).mpr ⟨_, member⟩)

/-- What has been labelled has the same after each step, labelled. -/
theorem labelBranches_cases (label : σ → α → α × σ) (first : σ) (branches : Branches α)
    (step : Step) :
    (branches.at? step = none ∧ (labelBranches label first branches).1.at? step = none) ∨
      ∃ below ∈ number label first branches.toList, below.step = step ∧
        branches.at? step = some below.value ∧
          (labelBranches label first branches).1.at? step =
            some (label below.first below.value).1 := by
  cases found : branches.at? step with
  | none =>
      refine Or.inl ⟨rfl, Option.eq_none_iff_forall_not_mem.mpr fun labelled leads => ?_⟩
      have member := Branches.mem_toList.mpr leads
      rw [(toList_labelBranches label first branches).1] at member
      obtain ⟨below, inNumber, same⟩ := List.mem_map.mp member
      obtain ⟨rfl, -⟩ := Prod.mk.inj same
      cases found.symm.trans (at?_of_numbered inNumber)
  | some value =>
      obtain ⟨start, member⟩ := exists_numbered first found
      exact Or.inr ⟨_, member, rfl, rfl, at?_labelBranches member⟩

theorem numbered_unique {left right : Numbered α σ}
    (inLeft : left ∈ number label first branches.toList)
    (inRight : right ∈ number label first branches.toList) (same : left.step = right.step) :
    left = right := by
  have steps := branches.toList_steps_nodup
  rw [← map_step_number label first] at steps
  exact List.inj_on_of_nodup_map steps inLeft inRight same

end Slots

/-! ### Intervals -/

section Intervals

variable [Preorder σ] {label : σ → α → α × σ} {branches : List (Step × α)} {first : σ}

/-- No label lies in both intervals. -/
def Numbered.Apart (label : σ → α → α × σ) (left right : Numbered α σ) : Prop :=
  left.stop label ≤ right.first ∨ right.stop label ≤ left.first

instance : Std.Symm (Numbered.Apart label) :=
  ⟨fun _ _ => Or.symm⟩

theorem le_afterAll
    (grows : ∀ branch ∈ branches, ∀ start, start ≤ (label start branch.2).2) :
    first ≤ afterAll label first branches := by
  induction branches generalizing first with
  | nil => exact le_refl first
  | cons branch rest ih =>
      obtain ⟨here, later⟩ := List.forall_mem_cons.mp grows
      exact (here first).trans (ih later)

variable (grows : ∀ start value, start ≤ (label start value).2)
include grows

theorem number_within {numbered : Numbered α σ} (member : numbered ∈ number label first branches) :
    first ≤ numbered.first ∧ numbered.stop label ≤ afterAll label first branches := by
  induction branches generalizing first with
  | nil => cases member
  | cons branch rest ih =>
      rcases List.mem_cons.mp member with rfl | later
      · exact ⟨le_refl first, le_afterAll fun _ _ start => grows start _⟩
      · obtain ⟨behind, inside⟩ := ih later
        exact ⟨(grows first branch.2).trans behind, inside⟩

theorem number_pairwise : (number label first branches).Pairwise (Numbered.Apart label) := by
  induction branches generalizing first with
  | nil => exact .nil
  | cons branch rest ih =>
      apply List.pairwise_cons.mpr
      exact ⟨fun later member => Or.inl (number_within grows member).1, ih⟩

end Intervals

/-! ### Trees -/

/-- How the instances of trees are labelled: each by itself, and then what is below it with
the labels that are left. -/
structure Labelling (α σ : Type) [Preorder σ] where
  branches : α → Branches α
  grounded : WellFounded fun below value => ∃ step, (branches value).at? step = some below
  label : σ → α → α × σ
  /-- The labels that are left for what is below an instance. -/
  inner : σ → α → σ
  le_inner : ∀ first value, first ≤ inner first value
  below : ∀ first value, (branches (label first value).1, (label first value).2) =
    labelBranches label (inner first value) (branches value)

namespace Labelling

variable [Preorder σ] (labelling : Labelling α σ) (first : σ)

/-- Where a path leads from an instance. -/
def at? (value : α) (path : Path) : Option α :=
  follow? (fun value step => (labelling.branches value).at? step) value path

theorem branches_label (value : α) : labelling.branches (labelling.label first value).1 =
    (labelBranches labelling.label (labelling.inner first value) (labelling.branches value)).1 :=
  congrArg Prod.fst (labelling.below first value)

theorem label_stop (value : α) : (labelling.label first value).2 =
    afterAll labelling.label (labelling.inner first value) (labelling.branches value).toList := by
  rw [← (toList_labelBranches labelling.label _ _).2, ← labelling.below]

/-- No label is given back. -/
theorem grows (value : α) : first ≤ (labelling.label first value).2 := by
  induction value using labelling.grounded.induction generalizing first with
  | _ value ih =>
      rw [label_stop]
      refine (labelling.le_inner first value).trans (le_afterAll ?_)
      rintro ⟨step, below⟩ member start
      exact ih below ⟨step, Branches.mem_toList.mp member⟩ start

theorem inner_le (value : α) : labelling.inner first value ≤ (labelling.label first value).2 := by
  rw [label_stop]
  exact le_afterAll fun branch _ start => labelling.grows start branch.2

theorem within {value : α} {below : Numbered α σ}
    (member : below ∈ number labelling.label (labelling.inner first value)
      (labelling.branches value).toList) :
    labelling.inner first value ≤ below.first ∧
      below.stop labelling.label ≤ (labelling.label first value).2 := by
  rw [label_stop]
  exact number_within labelling.grows member

/-- A path leads from an instance to another one, which takes its labels from `start` on. -/
inductive Finds : σ → α → Path → σ → α → Prop
  | here {first : σ} {value : α} : Finds first value [] first value
  | onward {first start : σ} {value target : α} {below : Numbered α σ} {rest : Path} :
      below ∈ number labelling.label (labelling.inner first value)
        (labelling.branches value).toList →
      Finds below.first below.value rest start target →
      Finds first value (below.step :: rest) start target

theorem exists_finds {value target : α} {path : Path}
    (leads : labelling.at? value path = some target) :
    ∃ start, labelling.Finds first value path start target := by
  induction path generalizing first value with
  | nil =>
      cases leads
      exact ⟨first, .here⟩
  | cons step rest ih =>
      obtain ⟨next, toNext, onward⟩ := Option.bind_eq_some_iff.mp leads
      obtain ⟨free, member⟩ := exists_numbered (labelling.inner first value) toNext
      obtain ⟨start, finds⟩ := ih free onward
      exact ⟨start, .onward member finds⟩

namespace Finds

variable {labelling : Labelling α σ} {first start : σ} {value target : α} {path : Path}

theorem labelled (finds : labelling.Finds first value path start target) :
    labelling.at? (labelling.label first value).1 path =
      some (labelling.label start target).1 := by
  induction finds with
  | here => rfl
  | onward member _ ih =>
      have toBelow := at?_labelBranches member
      rw [← labelling.branches_label] at toBelow
      exact (congrArg (Option.bind · fun next => labelling.at? next _) toBelow).trans ih

/-- Where the path leads is labelled within the labels of the instance it starts from. -/
theorem within (finds : labelling.Finds first value path start target) :
    first ≤ start ∧ (labelling.label start target).2 ≤ (labelling.label first value).2 := by
  induction finds with
  | here => exact ⟨le_refl _, le_refl _⟩
  | onward member _ ih =>
      obtain ⟨lower, upper⟩ := labelling.within _ member
      exact ⟨(labelling.le_inner _ _).trans (lower.trans ih.1), ih.2.trans upper⟩

/-- Unless the path is empty, that is behind the labels of the instance itself. -/
theorem behind (finds : labelling.Finds first value path start target) (leaves : path ≠ []) :
    labelling.inner first value ≤ start := by
  cases finds with
  | here => exact absurd rfl leaves
  | onward member onward => exact (labelling.within _ member).1.trans onward.within.1

end Finds

end Labelling

end JitSnapshot
