import JitSnapshot.Proofs.Outcome
import JitSnapshot.Shape.Check
import Mathlib.Tactic.SplitIfs

set_option autoImplicit false

/-!
What the checks of one node ask for, said without the order in which they are
made. `checkNode_eq_ok_iff` is the equivalence: a record passes exactly when it
is well-formed.
-/

namespace JitSnapshot.Shape

variable {kind : ListKind}

/-- The five ranges of a record end inside their lists, empty ones included. -/
structure RangesFit (arena : Arena) (record : NodeRecord) : Prop where
  inlinees : record.inlinees.stop ≤ arena.slots.size
  fieldInlinees : record.fieldInlinees.stop ≤ arena.slots.size
  sharedGuards : record.sharedGuards.stop ≤ arena.guards.size
  typeSpecs : record.typeSpecs.stop ≤ arena.typeSpecs.size
  globalTypeSpecs : record.globalTypeSpecs.stop ≤ arena.typeSpecs.size

/-- Nothing that only a node with a body may carry. -/
structure Bare (record : NodeRecord) : Prop where
  runtime : record.runtime = none
  inlinees : record.inlinees.len = 0
  fieldInlinees : record.fieldInlinees.len = 0
  sharedGuards : record.sharedGuards.len = 0
  typeSpecs : record.typeSpecs.len = 0
  globalTypeSpecs : record.globalTypeSpecs.len = 0
  next : record.next = none

/-- The runtime record is there, and its cloned caches are none or one for each cache. -/
structure RuntimeFits (arena : Arena) (record : NodeRecord) (body : BodyRecord)
    (runtime : RuntimeRecord) : Prop where
  found : ∃ id, record.runtime = some id ∧ arena.runtime? id = some runtime
  clonedCaches : runtime.clonedCaches.stop ≤ arena.addresses.size
  cloneCount : runtime.clonedCaches.len = 0 ∨ runtime.clonedCaches.len = body.cacheCount

structure BodyFits (arena : Arena) (record : NodeRecord) (body : BodyRecord) : Prop where
  profile : ∀ id, body.profile = some id → ∃ profile, arena.profile? id = some profile
  sharedGuards : body.profile = none → record.sharedGuards.len = 0
  inlinees : record.inlinees.len = body.callSiteCount.toUInt32
  fieldInlinees : record.fieldInlinees.len = body.cacheCount
  typeSpecs : record.typeSpecs.len = 0 ∨ record.typeSpecs.len = body.cacheCount
  runtime : ∃ runtime, RuntimeFits arena record body runtime

/-- A record that is in order on its own, whatever the nodes around it are. -/
structure WellFormed (arena : Arena) (record : NodeRecord) : Prop where
  ranges : RangesFit arena record
  bare : record.body = none → Bare record
  body : ∀ id, record.body = some id →
    ∃ body, arena.body? id = some body ∧ BodyFits arena record body

theorem isEmpty_iff (range : ListRange kind) : range.isEmpty = true ↔ range.len = 0 := by
  simp only [ListRange.isEmpty, beq_iff_eq]

private theorem checkRange_eq_ok_iff {node : NodeId} {list : NodeList} {range : ListRange kind}
    {size : Nat} : checkRange node list range size = .ok () ↔ range.stop ≤ size := by
  unfold checkRange
  by_cases behind : size < range.stop
  · simp only [if_pos behind, reduceCtorEq, false_iff]
    omega
  · simp only [if_neg behind, true_iff]
    omega

private theorem checkCount_eq_ok_iff {node : NodeId} {list : NodeList} {expected actual : UInt32} :
    checkCount node list expected actual = .ok () ↔ actual = expected := by
  unfold checkCount
  by_cases same : expected = actual
  · rw [if_pos same]
    exact ⟨fun _ => same.symm, fun _ => rfl⟩
  · simp only [if_neg same, reduceCtorEq, false_iff]
    exact fun equal => same equal.symm

private theorem checkOptionalCount_eq_ok_iff {node : NodeId} {list : NodeList} {expected : UInt32}
    {range : ListRange kind} :
    checkOptionalCount node list expected range = .ok () ↔
      range.len = 0 ∨ range.len = expected := by
  unfold checkOptionalCount
  by_cases empty : range.isEmpty = true
  · simp only [if_pos empty, true_iff]
    exact Or.inl ((isEmpty_iff range).mp empty)
  · rw [if_neg empty, checkCount_eq_ok_iff]
    constructor
    · exact Or.inr
    · rintro (none | same)
      · exact absurd ((isEmpty_iff range).mpr none) empty
      · exact same

private theorem checkRanges_eq_ok_iff {arena : Arena} {id : NodeId} {record : NodeRecord} :
    checkRanges arena id record = .ok () ↔ RangesFit arena record := by
  unfold checkRanges
  simp only [check_then_eq_ok, checkRange_eq_ok_iff]
  constructor
  · intro ⟨inlinees, fieldInlinees, sharedGuards, typeSpecs, globalTypeSpecs⟩
    exact { inlinees, fieldInlinees, sharedGuards, typeSpecs, globalTypeSpecs }
  · intro fit
    exact ⟨fit.inlinees, fit.fieldInlinees, fit.sharedGuards, fit.typeSpecs,
      fit.globalTypeSpecs⟩

private theorem bodyData?_eq_none_iff {record : NodeRecord} :
    bodyData? record = none ↔ Bare record := by
  constructor
  · intro nothing
    unfold bodyData? at nothing
    split_ifs at nothing with runtime slots guards specs next
    simp only [Option.not_isSome_iff_eq_none] at runtime next
    simp only [Bool.or_eq_true, Bool.not_eq_true', not_or, Bool.not_eq_false, isEmpty_iff]
      at slots guards specs
    exact
      { runtime
        inlinees := slots.1
        fieldInlinees := slots.2
        sharedGuards := guards
        typeSpecs := specs.1
        globalTypeSpecs := specs.2
        next }
  · intro bare
    simp only [bodyData?, bare.runtime, bare.next, ListRange.isEmpty, bare.inlinees,
      bare.fieldInlinees, bare.sharedGuards, bare.typeSpecs, bare.globalTypeSpecs]
    rfl

private theorem checkBodyless_eq_ok_iff {id : NodeId} {record : NodeRecord} :
    checkBodyless id record = .ok () ↔ Bare record := by
  rw [← bodyData?_eq_none_iff]
  unfold checkBodyless
  cases bodyData? record with
  | none => exact ⟨fun _ => rfl, fun _ => rfl⟩
  | some data => simp only [reduceCtorEq]

private theorem checkProfile_eq_ok_iff {arena : Arena} {id : NodeId} {record : NodeRecord}
    {body : BodyRecord} :
    checkProfile arena id record body = .ok () ↔
      (∀ id, body.profile = some id → ∃ profile, arena.profile? id = some profile) ∧
        (body.profile = none → record.sharedGuards.len = 0) := by
  unfold checkProfile
  cases body.profile with
  | none =>
      rw [← isEmpty_iff]
      by_cases empty : record.sharedGuards.isEmpty = true
      · simp [empty]
      · simp [empty]
  | some profileId =>
      cases found : arena.profile? profileId with
      | none => simp [found]
      | some profile => simp [found]

private theorem checkRuntime_eq_ok_iff {arena : Arena} {id : NodeId} {record : NodeRecord}
    {body : BodyRecord} :
    checkRuntime arena id record body = .ok () ↔
      ∃ runtime, RuntimeFits arena record body runtime := by
  unfold checkRuntime
  cases atRecord : record.runtime with
  | none =>
      simp only [reduceCtorEq, false_iff]
      intro ⟨runtime, fits⟩
      obtain ⟨runtimeId, named, _⟩ := fits.found
      rw [atRecord] at named
      cases named
  | some runtimeId =>
      cases found : arena.runtime? runtimeId with
      | none =>
          simp only [found, reduceCtorEq, false_iff]
          intro ⟨runtime, fits⟩
          obtain ⟨otherId, named, present⟩ := fits.found
          rw [atRecord, Option.some.injEq] at named
          subst named
          rw [found] at present
          cases present
      | some runtime =>
          simp only [found, check_then_eq_ok, checkRange_eq_ok_iff,
            checkOptionalCount_eq_ok_iff]
          constructor
          · intro ⟨clonedCaches, cloneCount⟩
            exact ⟨runtime, ⟨runtimeId, atRecord, found⟩, clonedCaches, cloneCount⟩
          · intro ⟨other, ⟨otherId, named, present⟩, clonedCaches, cloneCount⟩
            rw [atRecord, Option.some.injEq] at named
            subst named
            rw [found, Option.some.injEq] at present
            subst present
            exact ⟨clonedCaches, cloneCount⟩

private theorem checkBody_eq_ok_iff {arena : Arena} {id : NodeId} {record : NodeRecord}
    {body : BodyRecord} :
    checkBody arena id record body = .ok () ↔ BodyFits arena record body := by
  unfold checkBody
  simp only [check_then_eq_ok, checkProfile_eq_ok_iff, checkCount_eq_ok_iff,
    checkOptionalCount_eq_ok_iff, checkRuntime_eq_ok_iff]
  constructor
  · intro ⟨⟨profile, sharedGuards⟩, inlinees, fieldInlinees, typeSpecs, runtime⟩
    exact { profile, sharedGuards, inlinees, fieldInlinees, typeSpecs, runtime }
  · intro fits
    exact ⟨⟨fits.profile, fits.sharedGuards⟩, fits.inlinees, fits.fieldInlinees,
      fits.typeSpecs, fits.runtime⟩

theorem checkNode_eq_ok_iff {arena : Arena} {id : NodeId} {record : NodeRecord} :
    checkNode arena id record = .ok () ↔ WellFormed arena record := by
  unfold checkNode
  rw [check_then_eq_ok, checkRanges_eq_ok_iff]
  cases atRecord : record.body with
  | none =>
      simp only [checkBodyless_eq_ok_iff]
      constructor
      · intro ⟨ranges, bare⟩
        refine { ranges, bare := fun _ => bare, body := ?_ }
        intro bodyId named
        rw [atRecord] at named
        cases named
      · intro wellFormed
        exact ⟨wellFormed.ranges, wellFormed.bare atRecord⟩
  | some bodyId =>
      cases found : arena.body? bodyId with
      | none =>
          simp only [found, reduceCtorEq, and_false, false_iff]
          intro wellFormed
          obtain ⟨body, present, _⟩ := wellFormed.body bodyId atRecord
          rw [found] at present
          cases present
      | some body =>
          simp only [found, checkBody_eq_ok_iff]
          constructor
          · intro ⟨ranges, fits⟩
            refine { ranges, bare := ?_, body := ?_ }
            · intro absent
              rw [atRecord] at absent
              cases absent
            · intro otherId named
              rw [atRecord, Option.some.injEq] at named
              subst named
              exact ⟨body, found, fits⟩
          · intro wellFormed
            obtain ⟨other, present, fits⟩ := wellFormed.body bodyId atRecord
            rw [found, Option.some.injEq] at present
            subst present
            exact ⟨wellFormed.ranges, fits⟩

end JitSnapshot.Shape
