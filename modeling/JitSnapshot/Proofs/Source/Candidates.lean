import JitSnapshot.Proofs.Tree.Branches
import JitSnapshot.Source.Function

set_option autoImplicit false

/-!
What a snapshot of a function has to capture. A step leads on only from a
function with a body, and only to a candidate at a call site or a cache that
the body counts, or to the next candidate. All else that hangs on a function is
left out.
-/

namespace JitSnapshot

def BodyRecord.hasSite (body : BodyRecord) : Step → Bool
  | .inlinee site => decide (site < body.callSiteCount.toNat)
  | .fieldInlinee cache => decide (cache < body.cacheCount.toNat)
  | .next => true

namespace SourceFunction

/-- The candidate that a snapshot has at the end of a step, if it has one there. -/
def captured? (function : SourceFunction) (step : Step) : Option SourceFunction :=
  match function.facts.body with
  | none => none
  | some body => if body.record.hasSite step then function.child? step else none

theorem captured?_of_hasSite {function : SourceFunction} {body : SourceBody} {step : Step}
    (hasBody : function.facts.body = some body) (counted : body.record.hasSite step = true) :
    function.captured? step = function.child? step := by
  simp only [captured?, hasBody, counted, if_true]

/-- Where a path leads that leaves only functions with a body. -/
def follow? (function : SourceFunction) (path : Path) : Option SourceFunction :=
  JitSnapshot.follow? captured? function path

mutual

/-- All functions a snapshot has to capture, in preorder. -/
def reached : SourceFunction → List SourceFunction
  | ⟨facts, inlinees, fieldInlinees, next⟩ =>
      ⟨facts, inlinees, fieldInlinees, next⟩ ::
        match facts.body with
        | none => []
        | some body =>
            reachedAmong body.record.callSiteCount.toNat inlinees ++
              (reachedAmong body.record.cacheCount.toNat fieldInlinees ++ reachedAt next)

def reachedAmong (count : Nat) : List (Option SourceFunction) → List SourceFunction
  | [] => []
  | slot :: rest =>
      match count with
      | 0 => []
      | count + 1 => reachedAt slot ++ reachedAmong count rest

def reachedAt : Option SourceFunction → List SourceFunction
  | none => []
  | some function => reached function

end

def branches (function : SourceFunction) : Branches SourceFunction :=
  match function.facts.body with
  | none => {}
  | some body =>
      { inlinees := function.inlinees.take body.record.callSiteCount.toNat
        fieldInlinees := function.fieldInlinees.take body.record.cacheCount.toNat
        next := function.next }

theorem at?_branches (function : SourceFunction) (step : Step) :
    function.branches.at? step = function.captured? step := by
  unfold branches captured?
  cases function.facts.body with
  | none => cases step <;> rfl
  | some body =>
      have inSlots (slots : List (Option SourceFunction)) (count position : Nat) :
          ((slots.take count)[position]?).join =
            if decide (position < count) then slots[position]?.join else none := by
        rw [List.getElem?_take]
        by_cases within : position < count
        · rw [if_pos within, decide_eq_true within, if_pos rfl]
        · rw [if_neg within, decide_eq_false within, if_neg Bool.false_ne_true]
          rfl
      cases step with
      | inlinee site => exact inSlots function.inlinees _ site
      | fieldInlinee cache => exact inSlots function.fieldInlinees _ cache
      | next => rfl

theorem mem_branches {function candidate : SourceFunction} {step : Step} :
    (step, candidate) ∈ function.branches.toList ↔ function.captured? step = some candidate := by
  rw [Branches.mem_toList, at?_branches]

def reachedFrom (captures : List (Step × SourceFunction)) : List SourceFunction :=
  captures.flatMap fun capture => capture.2.reached

@[simp] theorem reachedFrom_nil : reachedFrom [] = [] := rfl

@[simp] theorem reachedFrom_cons (capture : Step × SourceFunction)
    (rest : List (Step × SourceFunction)) :
    reachedFrom (capture :: rest) = capture.2.reached ++ reachedFrom rest :=
  List.flatMap_cons

@[simp] theorem reachedFrom_append (front back : List (Step × SourceFunction)) :
    reachedFrom (front ++ back) = reachedFrom front ++ reachedFrom back :=
  List.flatMap_append

private theorem reachedAmong_eq (step : Nat → Step) (first count : Nat)
    (slots : List (Option SourceFunction)) :
    reachedAmong count slots = reachedFrom (Branches.present step first (slots.take count)) := by
  induction slots generalizing first count with
  | nil =>
      rw [reachedAmong, List.take_nil]
      rfl
  | cons slot rest ih =>
      cases count with
      | zero =>
          rw [reachedAmong]
          rfl
      | succ count =>
          rw [reachedAmong, List.take_succ_cons, ih (first + 1)]
          cases slot with
          | none =>
              rw [reachedAt]
              rfl
          | some candidate =>
              rw [reachedAt, Branches.present, reachedFrom_cons]

private theorem reachedAt_eq (step : Step) (slot : Option SourceFunction) :
    reachedAt slot = reachedFrom (slot.toList.map fun candidate => (step, candidate)) := by
  cases slot with
  | none =>
      rw [reachedAt]
      rfl
  | some candidate =>
      rw [reachedAt]
      exact (List.append_nil _).symm

theorem reached_eq (function : SourceFunction) :
    function.reached = function :: reachedFrom function.branches.toList := by
  cases function with
  | mk facts inlinees fieldInlinees next =>
      rw [reached]
      apply congrArg _
      unfold branches
      cases facts.body with
      | none => rfl
      | some body =>
          simp only [Branches.toList, reachedFrom_append]
          rw [reachedAmong_eq .inlinee 0, reachedAmong_eq .fieldInlinee 0, reachedAt_eq .next]

theorem reached_length (function : SourceFunction) :
    function.reached.length = 1 + (reachedFrom function.branches.toList).length := by
  rw [reached_eq, List.length_cons, Nat.add_comm]

def HasCandidate (function candidate : SourceFunction) : Prop :=
  some candidate ∈ function.inlinees ∨ some candidate ∈ function.fieldInlinees ∨
    function.next = some candidate

theorem hasCandidate_of_child {function candidate : SourceFunction} {step : Step}
    (found : function.child? step = some candidate) : function.HasCandidate candidate := by
  cases step with
  | inlinee site => exact Or.inl (List.mem_of_getElem? (Option.join_eq_some_iff.mp found))
  | fieldInlinee cache =>
      exact Or.inr (Or.inl (List.mem_of_getElem? (Option.join_eq_some_iff.mp found)))
  | next => exact Or.inr (Or.inr found)

theorem hasCandidate_of_captured {function candidate : SourceFunction} {step : Step}
    (captured : function.captured? step = some candidate) : function.HasCandidate candidate := by
  unfold captured? at captured
  split at captured
  · cases captured
  · exact hasCandidate_of_child (Option.ite_none_right_eq_some.mp captured).2

theorem HasCandidate.sizeOf_lt {function candidate : SourceFunction}
    (hangs : function.HasCandidate candidate) : sizeOf candidate < sizeOf function := by
  cases function with
  | mk facts inlinees fieldInlinees next =>
      rcases hangs with inInlinees | inFields | behind
      · have smaller := List.sizeOf_lt_of_mem inInlinees
        simp only [Option.some.sizeOf_spec, mk.sizeOf_spec] at smaller ⊢
        omega
      · have smaller := List.sizeOf_lt_of_mem inFields
        simp only [Option.some.sizeOf_spec, mk.sizeOf_spec] at smaller ⊢
        omega
      · simp only at behind
        subst behind
        simp only [Option.some.sizeOf_spec, mk.sizeOf_spec]
        omega

/-- What passes from the candidates to the function holds of every function. -/
theorem candidate_induction {motive : SourceFunction → Prop}
    (pass : ∀ function, (∀ candidate, function.HasCandidate candidate → motive candidate) →
      motive function) (function : SourceFunction) : motive function := by
  have bySize (size : Nat) : ∀ function, sizeOf function = size → motive function := by
    induction size using Nat.strongRecOn with
    | ind size ih =>
        intro function sized
        apply pass function
        intro candidate hangs
        exact ih (sizeOf candidate) (sized ▸ hangs.sizeOf_lt) candidate rfl
  exact bySize (sizeOf function) function rfl

end SourceFunction

end JitSnapshot
