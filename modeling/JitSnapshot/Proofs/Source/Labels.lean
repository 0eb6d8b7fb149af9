import JitSnapshot.Proofs.Source.Candidates
import JitSnapshot.Proofs.Tree.Labelling
import JitSnapshot.Source.Reads
import Mathlib.Order.Nat

set_option autoImplicit false

/-!
The labels of functions, of bodies and of runtime contexts. All that hangs on a
function is labelled, captured or not, and a body takes one label for itself
and one for each runtime context it keeps. Nothing but the labels changes, so
what is captured of a labelled function is what is captured of the function.
-/

namespace JitSnapshot

private theorem push_append {α : Type} (done : Array α) (value : α) (rest : List α) :
    done.push value ++ rest = done ++ (value :: rest) := by
  apply Array.toList_inj.mp
  rw [Array.toList_appendList, Array.toList_appendList, Array.toList_push, List.append_assoc,
    List.singleton_append]

/-! ### Runtime contexts -/

namespace RuntimeContext

def branches (context : RuntimeContext) : Branches RuntimeContext :=
  { inlinees := context.inlinees, fieldInlinees := context.fieldInlinees, next := context.next }

theorem at?_branches (context : RuntimeContext) (step : Step) :
    context.branches.at? step = context.child? step := by
  cases step <;> rfl

def at? (context : RuntimeContext) (path : Path) : Option RuntimeContext :=
  follow? child? context path

theorem sizeOf_lt {context below : RuntimeContext} {step : Step}
    (found : context.branches.at? step = some below) : sizeOf below < sizeOf context := by
  cases context with
  | mk clonedCaches inlinees fieldInlinees next label =>
      cases step with
      | inlinee site =>
          have member : some below ∈ inlinees :=
            List.mem_of_getElem? (Option.join_eq_some_iff.mp found)
          have smaller := List.sizeOf_lt_of_mem member
          simp only [Option.some.sizeOf_spec, mk.sizeOf_spec] at smaller ⊢
          omega
      | fieldInlinee cache =>
          have member : some below ∈ fieldInlinees :=
            List.mem_of_getElem? (Option.join_eq_some_iff.mp found)
          have smaller := List.sizeOf_lt_of_mem member
          simp only [Option.some.sizeOf_spec, mk.sizeOf_spec] at smaller ⊢
          omega
      | next =>
          have behind : next = some below := found
          subst behind
          simp only [Option.some.sizeOf_spec, mk.sizeOf_spec]
          omega

theorem labelledAt_eq (first : Nat) (slot : Option RuntimeContext) :
    labelledAt first slot = labelSlot labelled first slot := by
  cases slot <;> rw [labelledAt] <;> rfl

private theorem labelledAmong_eq (first : Nat) (done : Array (Option RuntimeContext))
    (slots : List (Option RuntimeContext)) :
    labelledAmong first done slots =
      (done ++ (labelSlots labelled first slots).1, (labelSlots labelled first slots).2) := by
  induction slots generalizing first done with
  | nil => rfl
  | cons slot rest ih =>
      rw [labelledAmong, labelledAt_eq]
      simp only [ih, labelSlots, push_append]

def labelling : Labelling RuntimeContext Nat where
  branches := branches
  grounded := Subrelation.wf (fun ⟨_, found⟩ => sizeOf_lt found) (measure sizeOf).wf
  label := labelled
  inner first _ := first + 1
  le_inner first _ := Nat.le_succ first
  below first context := by
    cases context with
    | mk clonedCaches inlinees fieldInlinees next label =>
        rw [labelled]
        simp only [labelledAmong_eq, labelledAt_eq, labelBranches, branches,
          Array.toList_appendList]
        rfl

theorem labelled_label (first : Nat) (context : RuntimeContext) :
    (context.labelled first).1.label = first := by
  cases context
  rw [labelled]

theorem label_lt (first : Nat) (context : RuntimeContext) : first < (context.labelled first).2 :=
  labelling.inner_le first context

theorem at?_labelling (context : RuntimeContext) (path : Path) :
    labelling.at? context path = context.at? path :=
  congrArg (follow? · context path) (funext fun context => funext context.at?_branches)

/-- Where a path leads is labelled within the labels of the context it starts from, and has
that context's own label only if it is the context itself. -/
theorem exists_label {context target : RuntimeContext} {path : Path} (first : Nat)
    (leads : context.at? path = some target) :
    ∃ label, (context.labelled first).1.at? path = some (target.labelled label).1 ∧
      (label = first ↔ path = []) ∧ first ≤ label ∧ label < (context.labelled first).2 := by
  rw [← at?_labelling] at leads
  obtain ⟨label, finds⟩ := labelling.exists_finds first leads
  obtain ⟨lower, upper⟩ := finds.within
  have labelledLeads := finds.labelled
  rw [at?_labelling] at labelledLeads
  refine ⟨label, labelledLeads, ⟨fun same => ?_, fun stays => ?_⟩, lower,
    (target.label_lt label).trans_le upper⟩
  · by_contra leaves
    have behind : first + 1 ≤ label := finds.behind leaves
    exact Nat.not_succ_le_self _ (same ▸ behind)
  · subst stays
    cases finds
    rfl

end RuntimeContext

/-! ### Bodies -/

instance : Preorder Labels :=
  Preorder.lift fun labels => (labels.bodies, labels.contexts)

theorem Labels.le_iff {left right : Labels} :
    left ≤ right ↔ left.bodies ≤ right.bodies ∧ left.contexts ≤ right.contexts :=
  Iff.rfl

namespace SourceBody

/-- What a body knows of the runtime contexts of its candidates. -/
def runtimes (body : SourceBody) : Branches RuntimeContext :=
  { inlinees := body.inlineeRuntimes
    fieldInlinees := body.fieldRuntimes
    next := body.nextRuntime }

theorem at?_runtimes (body : SourceBody) (step : Step) :
    body.runtimes.at? step = body.runtime? step := by
  cases step <;> rfl

theorem labelled_runtimes (labels : Labels) (body : SourceBody) :
    ((body.labelled labels).1.runtimes, (body.labelled labels).2.contexts) =
      labelBranches RuntimeContext.labelled labels.contexts body.runtimes := by
  simp only [labelled, runtimes, RuntimeContext.labelledAmong_eq, RuntimeContext.labelledAt_eq,
    labelBranches, Array.toList_appendList]
  rfl

theorem labelled_record (labels : Labels) (body : SourceBody) :
    (body.labelled labels).1.record = body.record :=
  rfl

theorem labelled_label (labels : Labels) (body : SourceBody) :
    (body.labelled labels).1.label = labels.bodies :=
  rfl

theorem labelled_bodies (labels : Labels) (body : SourceBody) :
    (body.labelled labels).2.bodies = labels.bodies + 1 :=
  rfl

theorem labelled_contexts (labels : Labels) (body : SourceBody) :
    (body.labelled labels).2.contexts =
      afterAll RuntimeContext.labelled labels.contexts body.runtimes.toList := by
  rw [← (toList_labelBranches _ _ _).2, ← labelled_runtimes]

theorem le_labelled_contexts (labels : Labels) (body : SourceBody) :
    labels.contexts ≤ (body.labelled labels).2.contexts := by
  rw [labelled_contexts]
  apply le_afterAll
  intro branch _ start
  exact RuntimeContext.labelling.grows start branch.2

/-- A context that a body keeps is labelled with the body. -/
theorem exists_kept {body : SourceBody} {step : Step} {kept : RuntimeContext} (labels : Labels)
    (found : body.runtime? step = some kept) :
    ∃ first, (body.labelled labels).1.runtime? step = some (kept.labelled first).1 ∧
      labels.contexts ≤ first ∧
        (kept.labelled first).2 ≤ (body.labelled labels).2.contexts := by
  have runtimes : (body.labelled labels).1.runtimes = _ :=
    congrArg Prod.fst (body.labelled_runtimes labels)
  rw [← at?_runtimes] at found
  obtain ⟨first, member⟩ := exists_numbered labels.contexts found
  have within := number_within RuntimeContext.labelling.grows member
  rw [← at?_runtimes, runtimes, labelled_contexts]
  exact ⟨first, at?_labelBranches member, within⟩

end SourceBody

/-! ### Functions -/

namespace FunctionFacts

variable {facts : FunctionFacts} {labels : Labels}

theorem labelled_bodyless (bodyless : facts.body = none) :
    facts.labelled labels = (facts, labels) := by
  simp only [labelled, bodyless]

theorem labelled_body {body : SourceBody} (hasBody : facts.body = some body) :
    facts.labelled labels =
      ({ facts with body := some (body.labelled labels).1 }, (body.labelled labels).2) := by
  simp only [labelled, hasBody]

theorem labelled_bodies {body : SourceBody} (hasBody : facts.body = some body) :
    (facts.labelled labels).2.bodies = labels.bodies + 1 := by
  rw [labelled_body hasBody, body.labelled_bodies]

theorem le_labelled (labels : Labels) (facts : FunctionFacts) :
    labels ≤ (facts.labelled labels).2 := by
  cases hasBody : facts.body with
  | none =>
      rw [labelled_bodyless hasBody]
  | some body =>
      rw [labelled_body hasBody, Labels.le_iff, body.labelled_bodies]
      exact ⟨Nat.le_succ _, body.le_labelled_contexts labels⟩

end FunctionFacts

namespace SourceFunction

/-- All candidates of a function, captured or not. -/
def hanging (function : SourceFunction) : Branches SourceFunction :=
  { inlinees := function.inlinees
    fieldInlinees := function.fieldInlinees
    next := function.next }

private theorem at?_hanging (function : SourceFunction) (step : Step) :
    function.hanging.at? step = function.child? step := by
  cases step <;> rfl

def at? (function : SourceFunction) (path : Path) : Option SourceFunction :=
  JitSnapshot.follow? child? function path

theorem labelledAt_eq (labels : Labels) (slot : Option SourceFunction) :
    labelledAt labels slot = labelSlot labelled labels slot := by
  cases slot <;> rw [labelledAt] <;> rfl

private theorem labelledAmong_eq (labels : Labels) (done : Array (Option SourceFunction))
    (slots : List (Option SourceFunction)) :
    labelledAmong labels done slots =
      (done ++ (labelSlots labelled labels slots).1, (labelSlots labelled labels slots).2) := by
  induction slots generalizing labels done with
  | nil => rfl
  | cons slot rest ih =>
      rw [labelledAmong, labelledAt_eq]
      simp only [ih, labelSlots, push_append]

theorem labelled_facts (labels : Labels) (function : SourceFunction) :
    (function.labelled labels).1.facts = (function.facts.labelled labels).1 := by
  cases function
  rw [labelled]

/-- A function's own body is labelled, and then all that hangs on the function. -/
private theorem labelled_hanging (labels : Labels) (function : SourceFunction) :
    ((function.labelled labels).1.hanging, (function.labelled labels).2) =
      labelBranches labelled (function.facts.labelled labels).2 function.hanging := by
  cases function with
  | mk facts inlinees fieldInlinees next =>
      rw [labelled]
      simp only [labelledAmong_eq, labelledAt_eq, labelBranches, hanging,
        Array.toList_appendList]
      rfl

def labelling : Labelling SourceFunction Labels where
  branches := hanging
  grounded := by
    refine Subrelation.wf (fun {candidate function} hangs => ?_) (measure sizeOf).wf
    obtain ⟨step, found⟩ := hangs
    rw [at?_hanging] at found
    exact (hasCandidate_of_child found).sizeOf_lt
  label := labelled
  inner labels function := (function.facts.labelled labels).2
  le_inner labels function := function.facts.le_labelled labels
  below := labelled_hanging

theorem at?_labelling (function : SourceFunction) (path : Path) :
    labelling.at? function path = function.at? path :=
  congrArg (JitSnapshot.follow? · function path)
    (funext fun function => funext function.at?_hanging)

theorem le_labelled (labels : Labels) (function : SourceFunction) :
    labels ≤ (function.labelled labels).2 :=
  labelling.grows labels function

/-- The body of a function has a label of its own. -/
theorem label_lt {labels : Labels} {function : SourceFunction} {body : SourceBody}
    (hasBody : function.facts.body = some body) :
    labels.bodies < (function.labelled labels).2.bodies := by
  have inside := (labelling.inner_le labels function).1
  exact (FunctionFacts.labelled_bodies hasBody).symm.trans_le inside

/-! ### What is captured -/

def captureCount (function : SourceFunction) : Nat :=
  match function.facts.body with
  | none => 0
  | some body =>
      (function.inlinees.take body.record.callSiteCount.toNat).countP Option.isSome +
        (function.fieldInlinees.take body.record.cacheCount.toNat).countP Option.isSome +
          if function.next.isSome then 1 else 0

theorem length_branches (function : SourceFunction) :
    function.branches.toList.length = function.captureCount := by
  have count (slots : List (Option SourceFunction)) :
      (slots.filterMap id).length = slots.countP Option.isSome := by
    rw [List.length_filterMap_eq_countP]
    rfl
  rw [← List.length_map Prod.snd, Branches.map_snd_toList]
  unfold branches captureCount
  cases function.facts.body with
  | none => rfl
  | some body =>
      simp only [List.length_append, count]
      cases function.next <;> rfl

private theorem child?_labelled_cases (labels : Labels) (function : SourceFunction) (step : Step) :
    (function.child? step = none ∧ (function.labelled labels).1.child? step = none) ∨
      ∃ below ∈ number labelled (function.facts.labelled labels).2 function.hanging.toList,
        below.step = step ∧ function.child? step = some below.value ∧
          (function.labelled labels).1.child? step =
            some (labelled below.first below.value).1 := by
  have hung : (function.labelled labels).1.hanging = _ :=
    congrArg Prod.fst (labelled_hanging labels function)
  rw [← at?_hanging, ← at?_hanging, hung]
  exact labelBranches_cases labelled _ function.hanging step

theorem captured?_labelled_cases (labels : Labels) (function : SourceFunction) (step : Step) :
    (function.captured? step = none ∧ (function.labelled labels).1.captured? step = none) ∨
      ∃ below ∈ number labelled (function.facts.labelled labels).2 function.hanging.toList,
        below.step = step ∧ function.captured? step = some below.value ∧
          (function.labelled labels).1.captured? step =
            some (labelled below.first below.value).1 := by
  have labelledFacts := labelled_facts labels function
  cases hasBody : function.facts.body with
  | none =>
      rw [FunctionFacts.labelled_bodyless hasBody] at labelledFacts
      left
      unfold captured?
      rw [labelledFacts]
      simp only [hasBody, and_self]
  | some body =>
      rw [FunctionFacts.labelled_body hasBody] at labelledFacts
      unfold captured?
      rw [labelledFacts]
      simp only [hasBody, body.labelled_record]
      by_cases counted : body.record.hasSite step = true
      · simp only [if_pos counted]
        exact child?_labelled_cases labels function step
      · left
        simp only [if_neg counted, and_self]

private theorem mem_branches_steps {function : SourceFunction} {step : Step} :
    step ∈ function.branches.toList.map Prod.fst ↔ (function.captured? step).isSome = true := by
  rw [List.mem_map, Option.isSome_iff_exists]
  constructor
  · rintro ⟨⟨_, candidate⟩, member, rfl⟩
    exact ⟨candidate, mem_branches.mp member⟩
  · intro ⟨candidate, captured⟩
    exact ⟨(step, candidate), mem_branches.mpr captured, rfl⟩

theorem captureCount_labelled (labels : Labels) (function : SourceFunction) :
    (function.labelled labels).1.captureCount = function.captureCount := by
  have sameSteps : ((function.labelled labels).1.branches.toList.map Prod.fst).Perm
      (function.branches.toList.map Prod.fst) := by
    apply (List.perm_ext_iff_of_nodup (Branches.toList_steps_nodup _)
      (Branches.toList_steps_nodup _)).mpr
    intro step
    rw [mem_branches_steps, mem_branches_steps]
    rcases captured?_labelled_cases labels function step with ⟨before, after⟩ | found
    · rw [before, after]
    · obtain ⟨_, _, _, before, after⟩ := found
      rw [before, after, Option.isSome_some, Option.isSome_some]
  rw [← length_branches, ← length_branches, ← List.length_map Prod.fst, sameSteps.length_eq,
    List.length_map]

end SourceFunction

end JitSnapshot
