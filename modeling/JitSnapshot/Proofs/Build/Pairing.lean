import JitSnapshot.Proofs.Arena.Relocation
import JitSnapshot.Proofs.Build.Captures
import JitSnapshot.Proofs.Source.Agreement

set_option autoImplicit false

/-!
Two builds side by side. A pairing says which states of a second build go with
a state of a first one, and what the second names where the first names
something. It owes that every single addition, made on both sides, keeps the
states together; that captures and whole builds do so then follows.

An addition may be too much for the second build alone. A pairing says with
which faults the second may end where the first goes on.
-/

namespace JitSnapshot

def Together {α : Type} (related : BuildState → BuildState → Prop) (move : α → α)
    (left right : α × BuildState) : Prop :=
  right.1 = move left.1 ∧ related left.2 right.2

/-- States of two builds that go together, and what additions owe to keep them so. Who is
asked for runtime contexts has no part in it, and neither have guards and cloned caches, as
only a root can have any. -/
structure Pairing where
  /-- What the second build names where the first names something. -/
  moves : Moves
  excused : BuildError → Prop
  related : BuildState → BuildState → Prop
  empty : moves.KeepsEmpty
  unread : ∀ {left right : BuildState} (leftReads rightReads : List Read), related left right →
    related { left with reads := leftReads } { right with reads := rightReads }
  allocNode : ∀ {left right : BuildState}, related left right →
    InStep excused (Together related moves.node) left.allocNode right.allocNode
  pushBody : ∀ {left right : BuildState} (body : BodyRecord), related left right →
    InStep excused (Together related moves.body) (left.pushBody body)
      (right.pushBody (moves.ofBody body))
  pushRuntime : ∀ {left right : BuildState} (runtime : RuntimeRecord), related left right →
    InStep excused (Together related moves.runtime) (left.pushRuntime runtime)
      (right.pushRuntime (moves.ofRuntime runtime))
  pushProfile : ∀ {left right : BuildState} (body : BodyRecord), related left right →
    InStep excused (Together related moves.profile) (left.pushProfile body)
      (right.pushProfile body)
  pushSlots : ∀ {left right : BuildState} (slots : List Slot), related left right →
    InStep excused (Together related moves.slots) (left.pushSlots slots)
      (right.pushSlots (slots.map moves.slot))
  pushTypeSpecs : ∀ {left right : BuildState} (sources : List (Option Address)) (count : Nat),
    related left right →
      InStep excused (Together related moves.typeSpecs) (left.pushTypeSpecs sources count)
        (right.pushTypeSpecs sources count)
  setNode : ∀ {left right leftAfter : BuildState} {id : NodeId} {record : NodeRecord},
    related left right → left.setNode id record = .ok leftAfter →
      ∃ rightAfter, right.setNode (moves.node id) (moves.ofNode record) = .ok rightAfter ∧
        related leftAfter rightAfter

structure RootPairing extends Pairing where
  pushAddresses : ∀ {left right : BuildState} (addresses : List Address), related left right →
    InStep excused (Together related moves.addresses) (left.pushAddresses addresses)
      (right.pushAddresses addresses)
  pushGuards : ∀ {left right : BuildState} (guards : GuardSet), related left right →
    InStep excused (Together related moves.guards) (left.pushGuards guards)
      (right.pushGuards guards)

namespace Pairing

abbrev Moved {α : Type} (pairing : Pairing) (move : α → α)
    (left right : Except BuildError (α × BuildState)) : Prop :=
  InStep pairing.excused (Together pairing.related move) left right

section

variable {pairing : Pairing} {α β : Type} {move : α → α} {moveLater : β → β}

theorem Moved.refl {first second : α} {left right : BuildState}
    (same : second = move first) (related : pairing.related left right) :
    pairing.Moved move (.ok (first, left)) (.ok (second, right)) :=
  .returns ⟨same, related⟩

theorem Moved.followed {left right : Except BuildError (α × BuildState)}
    {onLeft onRight : α × BuildState → Except BuildError (β × BuildState)}
    (moved : pairing.Moved move left right)
    (onward : ∀ value leftState rightState, pairing.related leftState rightState →
      pairing.Moved moveLater (onLeft (value, leftState)) (onRight (move value, rightState))) :
    pairing.Moved moveLater (left >>= onLeft) (right >>= onRight) := by
  refine InStep.followed moved ?_
  rintro ⟨value, leftState⟩ ⟨_, rightState⟩ _ _ ⟨same, related⟩
  cases same
  exact onward value leftState rightState related

end

variable (pairing : Pairing) {left right : BuildState}

/-! ### Captures -/

theorem ofNode_record (facts : FunctionFacts) :
    pairing.moves.ofNode facts.record = facts.record := by
  simp only [Moves.ofNode, FunctionFacts.record, Option.map_none, Moves.slot, pairing.empty.slots,
    pairing.empty.guards, pairing.empty.typeSpecs]

/-- A body is captured alike if what an inlinee's entry point adds is. -/
theorem captureBody_moved {leftBody rightBody : SourceBody} {isInlinee : Bool}
    (record : NodeRecord) (agree : leftBody.Agree rightBody)
    (entries : isInlinee = true → leftBody.hasProfile = true →
      ∀ {left right : BuildState}, pairing.related left right →
        pairing.Moved pairing.moves.ofNode (left.captureEntryPoint leftBody.entryPoint record)
          (right.captureEntryPoint rightBody.entryPoint (pairing.moves.ofNode record)))
    (related : pairing.related left right) :
    pairing.Moved pairing.moves.ofNode (left.captureBody leftBody isInlinee record)
      (right.captureBody rightBody isInlinee (pairing.moves.ofNode record)) := by
  unfold BuildState.captureBody
  rw [← agree.record, ← agree.hasProfile]
  cases profiled : leftBody.hasProfile with
  | false =>
      exact Moved.followed (pairing.pushBody _ related) fun id _ _ => .refl rfl
  | true =>
      refine Moved.followed (pairing.pushProfile _ related)
        fun profile leftCopied rightCopied copied => ?_
      have entered : pairing.Moved pairing.moves.ofNode
          (if isInlinee then leftCopied.captureEntryPoint leftBody.entryPoint record
            else .ok (record, leftCopied))
          (if isInlinee then
            rightCopied.captureEntryPoint rightBody.entryPoint (pairing.moves.ofNode record)
            else .ok (pairing.moves.ofNode record, rightCopied)) := by
        cases isInlinee with
        | false => exact .refl rfl copied
        | true => exact entries rfl profiled copied
      refine entered.followed fun captured _ _ stored => ?_
      exact Moved.followed
        (pairing.pushBody { leftBody.record with profile := some profile } stored)
        fun id _ _ => .refl rfl

theorem pushRuntime_empty_moved (related : pairing.related left right) :
    pairing.Moved pairing.moves.runtime (left.pushRuntime {}) (right.pushRuntime {}) := by
  have fresh : pairing.moves.ofRuntime {} = {} := by
    simp only [Moves.ofRuntime, pairing.empty.addresses]
  have pushed := pairing.pushRuntime {} related
  rwa [fresh] at pushed

theorem captureTypeSpecs_moved (sources : Option (List (Option Address))) (caches : Nat)
    (related : pairing.related left right) :
    pairing.Moved pairing.moves.typeSpecs (left.captureTypeSpecs sources caches)
      (right.captureTypeSpecs sources caches) := by
  have nothing : pairing.Moved pairing.moves.typeSpecs (.ok (.empty, left))
      (.ok (.empty, right)) := .refl pairing.empty.typeSpecs.symm related
  cases sources with
  | none => exact nothing
  | some sources =>
      unfold BuildState.captureTypeSpecs
      by_cases noCaches : caches = 0
      · simp only [if_pos noCaches]
        exact nothing
      · simp only [if_neg noCaches]
        exact pairing.pushTypeSpecs sources caches related

theorem captureGlobalTypeSpecs_moved (sources : List (Option Address))
    (related : pairing.related left right) :
    pairing.Moved pairing.moves.typeSpecs (left.captureGlobalTypeSpecs sources)
      (right.captureGlobalTypeSpecs sources) := by
  unfold BuildState.captureGlobalTypeSpecs
  cases sources with
  | nil => exact .refl pairing.empty.typeSpecs.symm related
  | cons first rest => exact pairing.pushTypeSpecs _ _ related

end Pairing

namespace RootPairing

variable (pairing : RootPairing) {left right : BuildState}

theorem pushGuards_moved {leftGuards rightGuards : GuardSet} (agree : leftGuards.Agree rightGuards)
    (related : pairing.related left right) :
    pairing.Moved pairing.moves.guards (left.pushGuards leftGuards)
      (right.pushGuards rightGuards) := by
  have drained : leftGuards.drain = rightGuards.drain := by
    rw [leftGuards.drain_eq, rightGuards.drain_eq]
    exact agree
  have same : left.pushGuards leftGuards = left.pushGuards rightGuards := by
    rw [BuildState.pushGuards, BuildState.pushGuards, drained]
  rw [same]
  exact pairing.pushGuards rightGuards related

theorem captureEntryPoint_moved {leftEntry rightEntry : EntryPoint} (record : NodeRecord)
    (agree : leftEntry.Agree rightEntry) (related : pairing.related left right) :
    pairing.Moved pairing.moves.ofNode (left.captureEntryPoint leftEntry record)
      (right.captureEntryPoint rightEntry (pairing.moves.ofNode record)) := by
  obtain ⟨counter, leftGuards⟩ := leftEntry
  obtain ⟨alsoCounter, rightGuards⟩ := rightEntry
  obtain ⟨sameCounter, guards⟩ := agree
  cases sameCounter
  cases guards with
  | none => exact .refl rfl related
  | some members =>
      exact (pairing.pushGuards_moved members related).followed fun sharedGuards _ _ => .refl rfl

theorem captureRuntime_moved {leftOwn rightOwn : Option RuntimeContext} (caches : Nat)
    (agree : leftOwn.map RuntimeContext.clonedCaches = rightOwn.map RuntimeContext.clonedCaches)
    (related : pairing.related left right) :
    pairing.Moved pairing.moves.runtime (left.captureRuntime leftOwn caches)
      (right.captureRuntime rightOwn caches) := by
  cases leftOwn with
  | none =>
      cases rightOwn with
      | none => exact pairing.pushRuntime_empty_moved related
      | some rightOwn => cases agree
  | some leftOwn =>
      cases rightOwn with
      | none => cases agree
      | some rightOwn =>
          have cloned : leftOwn.clonedCaches = rightOwn.clonedCaches := Option.some.inj agree
          have sameHas : leftOwn.hasClonedCaches = rightOwn.hasClonedCaches := by
            rw [RuntimeContext.hasClonedCaches, cloned, RuntimeContext.hasClonedCaches]
          have sameClones : leftOwn.clonedCachesFor caches = rightOwn.clonedCachesFor caches := by
            rw [RuntimeContext.clonedCachesFor, cloned, RuntimeContext.clonedCachesFor]
          simp only [BuildState.captureRuntime, sameHas, sameClones]
          cases rightOwn.hasClonedCaches with
          | false => exact pairing.pushRuntime_empty_moved related
          | true =>
              exact Pairing.Moved.followed (pairing.pushAddresses _ related)
                fun clones _ _ pushed => pairing.pushRuntime { clonedCaches := clones } pushed

end RootPairing

end JitSnapshot
