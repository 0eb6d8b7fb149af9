import JitSnapshot.Proofs.Build.Beside

set_option autoImplicit false

/-!
What it changes to build a function as an inlinee. The candidates are asked for
elsewhere and may be given other runtime contexts, but they are not built as
inlinees, so nothing of this can be seen below the root. What remains is the
root's own: the call counter and the guards in its record, the clones in its
runtime record, and the entries of the two flat lists that hold them. These
alone can be too many where there is room for all else.
-/

namespace JitSnapshot

variable {excused : BuildError → Prop}

/-! ### The captures of the root -/

namespace BuildState

variable {own : Nat → Prop} {left right : BuildState}

end BuildState

/-! ### The root -/

/-- What fills the root's record as an inlinee and as none: the same record but for the two
fields of the entry point, and states that differ in the runtime record that it names. -/
structure FilledBeside (plain inlinee : NodeRecord × BuildState) : Prop where
  record : ∃ callCounter sharedGuards,
    inlinee.1 = { plain.1 with callCounter, sharedGuards }
  state : Beside (fun place => plain.1.runtime.map Id.index = some place) plain.2 inlinee.2

namespace SourceFunction

end SourceFunction

/-! ### The whole build -/

/-- The states differ in nothing but what is the root's own: the call counter and the range of
shared guards in its record, and the runtime record that it names. The lists of guards and of
clones are not compared, nor is the count of guards. -/
structure DiffersAtRoot (root : NodeId) (plain inlinee : BuildState) : Prop where
  bodies : inlinee.arena.bodies = plain.arena.bodies
  profiles : inlinee.arena.profiles = plain.arena.profiles
  slots : inlinee.arena.slots = plain.arena.slots
  typeSpecs : inlinee.arena.typeSpecs = plain.arena.typeSpecs
  nodeCount : inlinee.arena.nodes.size = plain.arena.nodes.size
  nodes : ∀ position, position ≠ root.index →
    inlinee.arena.nodes[position]? = plain.arena.nodes[position]?
  runtimeCount : inlinee.arena.runtimes.size = plain.arena.runtimes.size
  atRoot : ∃ record callCounter sharedGuards, plain.arena.node? root = some record ∧
    inlinee.arena.node? root = some { record with callCounter, sharedGuards } ∧
      ∀ place, record.runtime.map Id.index ≠ some place →
        inlinee.arena.runtimes[place]? = plain.arena.runtimes[place]?
  stats : inlinee.stats = { plain.stats with guards := inlinee.stats.guards }
  materialized : inlinee.materialized = plain.materialized

theorem FilledBeside.stored {plain inlinee : NodeRecord × BuildState} {root : NodeId}
    {plainAfter : BuildState} (filled : FilledBeside plain inlinee)
    (storedPlain : plain.2.setNode root plain.1 = .ok plainAfter) :
    ∃ inlineeAfter, inlinee.2.setNode root inlinee.1 = .ok inlineeAfter ∧
      DiffersAtRoot root plainAfter inlineeAfter := by
  obtain ⟨⟨callCounter, sharedGuards, isRecord⟩, beside⟩ := filled
  obtain ⟨within, rfl⟩ := exists_set_of_setNode storedPlain
  have alsoWithin : root.index < inlinee.2.arena.nodes.size := by rwa [beside.nodes]
  have replaced : inlinee.2.arena.setNode? root inlinee.1 = some { inlinee.2.arena with
      nodes := inlinee.2.arena.nodes.set root.index inlinee.1 alsoWithin } := dif_pos alsoWithin
  refine ⟨_, setNode_eq_ok_iff.mpr ⟨_, replaced, rfl⟩, ?_⟩
  refine
    { bodies := beside.bodies
      profiles := beside.profiles
      slots := beside.slots
      typeSpecs := beside.typeSpecs
      nodeCount := ?_
      nodes := ?_
      runtimeCount := beside.runtimeCount
      atRoot := ⟨plain.1, callCounter, sharedGuards, ?_, ?_, beside.runtimes⟩
      stats := beside.stats
      materialized := beside.materialized }
  · simp only [Array.size_set, beside.nodes]
  · intro position elsewhere
    rw [Array.getElem?_set_ne _ (Ne.symm elsewhere), Array.getElem?_set_ne _ (Ne.symm elsewhere),
      beside.nodes]
  · exact Array.getElem?_set_self within
  · rw [← isRecord]
    exact Array.getElem?_set_self alsoWithin

namespace BuildState

variable (state : BuildState) (function : SourceFunction) (context : RuntimeContext)

end BuildState

end JitSnapshot
