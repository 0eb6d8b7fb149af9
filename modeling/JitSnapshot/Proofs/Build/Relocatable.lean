import JitSnapshot.Proofs.Build.Lockstep

set_option autoImplicit false

/-!
A build into an arena that already holds something. It adds just what it would
have put into an empty arena, moved behind what is there.
-/

namespace JitSnapshot

/-- The whole has what was built alone behind a base, and the same has been counted and
materialized for both. There was room for all nodes behind the base. -/
structure Behind (base : Arena) (alone whole : BuildState) : Prop where
  arena : whole.arena = base.followedBy alone.arena
  named : ∀ position < alone.arena.size, base.size + position < UInt32.size
  stats : whole.stats = alone.stats
  materialized : whole.materialized = alone.materialized

namespace Behind

variable {base : Arena} {alone whole : BuildState} (behind : Behind base alone whole)
include behind

/-- What is put beside the nodes on both sides, and counted alike. -/
theorem put {α : Type} {move : α → α} {alonePushed wholePushed : Except Overflow (α × Arena)}
    {aloneCounted wholeCounted : BuildState}
    (moved : InStep (fun _ => True) (Arena.MovedBehind base move) alonePushed wholePushed)
    (adds : ∀ value arena, alonePushed = .ok (value, arena) → alone.arena.Adds arena)
    (stats : wholeCounted.stats = aloneCounted.stats)
    (materialized : wholeCounted.materialized = aloneCounted.materialized) :
    InStep BuildError.IsOverflow (Together (Behind base) move) (aloneCounted.put alonePushed)
      (wholeCounted.put wholePushed) := by
  cases moved with
  | fails cause => exact .fails _
  | @returns first second placed =>
      have named := behind.named
      rw [← (adds first.1 first.2 rfl).size] at named
      exact .returns ⟨placed.1, { arena := placed.2, named, stats, materialized }⟩
  | excuses _ => exact .excuses ⟨_, rfl⟩

/-! ### Nodes -/

theorem allocNode :
    InStep BuildError.IsOverflow (Together (Behind base) (Moves.behind base).node)
      alone.allocNode whole.allocNode := by
  have moved := Arena.allocNode_behind base alone.arena
  unfold BuildState.allocNode
  rw [behind.arena, behind.stats]
  generalize onAlone : alone.arena.allocNode = alonePushed,
    onWhole : (base.followedBy alone.arena).allocNode = wholePushed at moved ⊢
  cases moved with
  | fails cause => exact .fails _
  | @returns first second placed =>
      have exactly := (Arena.allocNode_eq_ok_iff.mp onWhole).1
      have size := (Arena.listsGrow_allocNode onAlone).2
      have fits := second.1.index_lt
      rw [exactly, Arena.size_followedBy] at fits
      refine .returns ⟨placed.1,
        { arena := placed.2, named := ?_, stats := rfl, materialized := behind.materialized }⟩
      intro position within
      have below : position < first.2.size := within
      omega
  | excuses _ => exact .excuses ⟨_, rfl⟩

/-- A node that is there in the first build has been given its moved id in the second. -/
theorem setNode {aloneAfter : BuildState} {id : NodeId} {record : NodeRecord}
    (stored : alone.setNode id record = .ok aloneAfter) :
    ∃ wholeAfter, whole.setNode ((Moves.behind base).node id)
        ((Moves.behind base).ofNode record) = .ok wholeAfter ∧
      Behind base aloneAfter wholeAfter := by
  obtain ⟨within, _⟩ := exists_set_of_setNode stored
  obtain ⟨arena, replaced, rfl⟩ := setNode_eq_ok_iff.mp stored
  have exactly : ((Moves.behind base).node id).index = base.size + id.index :=
    Id.index_shift (behind.named id.index within)
  have law := Arena.setNode?_behind exactly replaced
  rw [← behind.arena] at law
  refine ⟨_, setNode_eq_ok_iff.mpr ⟨_, law, rfl⟩, ?_⟩
  refine { behind with arena := rfl, named := ?_ }
  rw [(Arena.setNode?_eq_some replaced).2.1]
  exact behind.named

/-! ### Records -/

theorem pushBody (body : BodyRecord) :
    InStep BuildError.IsOverflow (Together (Behind base) (Moves.behind base).body)
      (alone.pushBody body) (whole.pushBody ((Moves.behind base).ofBody body)) := by
  unfold BuildState.pushBody
  rw [behind.arena, behind.stats]
  exact behind.put (Arena.pushBody_behind base alone.arena body)
    (fun _ _ pushed => Arena.adds_pushBody pushed) rfl behind.materialized

theorem pushRuntime (runtime : RuntimeRecord) :
    InStep BuildError.IsOverflow (Together (Behind base) (Moves.behind base).runtime)
      (alone.pushRuntime runtime) (whole.pushRuntime ((Moves.behind base).ofRuntime runtime)) := by
  unfold BuildState.pushRuntime
  rw [behind.arena]
  exact behind.put (Arena.pushRuntime_behind base alone.arena runtime)
    (fun _ _ pushed => Arena.adds_pushRuntime pushed) behind.stats behind.materialized

theorem pushProfile (body : BodyRecord) :
    InStep BuildError.IsOverflow (Together (Behind base) (Moves.behind base).profile)
      (alone.pushProfile body) (whole.pushProfile body) := by
  unfold BuildState.pushProfile
  rw [behind.arena, behind.stats, behind.materialized]
  exact behind.put (Arena.pushProfile_behind base alone.arena _)
    (fun _ _ pushed => Arena.adds_pushProfile pushed) rfl rfl

/-! ### Flat lists -/

theorem pushSlots (slots : List Slot) :
    InStep BuildError.IsOverflow (Together (Behind base) (Moves.behind base).slots)
      (alone.pushSlots slots) (whole.pushSlots (slots.map (Moves.behind base).slot)) := by
  unfold BuildState.pushSlots
  rw [behind.arena]
  exact behind.put (Arena.pushSlots_behind base alone.arena slots)
    (fun _ _ pushed => Arena.adds_pushSlots pushed) behind.stats behind.materialized

theorem pushAddresses (addresses : List Address) :
    InStep BuildError.IsOverflow (Together (Behind base) (Moves.behind base).addresses)
      (alone.pushAddresses addresses) (whole.pushAddresses addresses) := by
  unfold BuildState.pushAddresses
  rw [behind.arena]
  exact behind.put (Arena.pushAddresses_behind base alone.arena addresses)
    (fun _ _ pushed => Arena.adds_pushAddresses pushed) behind.stats behind.materialized

theorem pushGuards (guards : GuardSet) :
    InStep BuildError.IsOverflow (Together (Behind base) (Moves.behind base).guards)
      (alone.pushGuards guards) (whole.pushGuards guards) := by
  unfold BuildState.pushGuards
  rw [behind.arena, behind.stats]
  exact behind.put (Arena.pushGuards_behind base alone.arena guards.drain)
    (fun _ _ pushed => Arena.adds_pushGuards pushed) rfl behind.materialized

theorem pushTypeSpecs (sources : List (Option Address)) (count : Nat) :
    InStep BuildError.IsOverflow (Together (Behind base) (Moves.behind base).typeSpecs)
      (alone.pushTypeSpecs sources count) (whole.pushTypeSpecs sources count) := by
  unfold BuildState.pushTypeSpecs
  rw [behind.arena, behind.stats, behind.materialized]
  by_cases short : sources.length < count
  · rw [if_pos short, if_pos short]
    exact .fails _
  · rw [if_neg short, if_neg short]
    exact behind.put (Arena.pushTypeSpecs_behind base alone.arena _)
      (fun _ _ pushed => Arena.adds_pushTypeSpecs pushed) rfl rfl

end Behind

def RootPairing.behind (base : Arena) : RootPairing where
  moves := .behind base
  excused := BuildError.IsOverflow
  related := Behind base
  empty := Moves.behind_keepsEmpty base
  unread _ _ behind := { behind with }
  allocNode := Behind.allocNode
  pushBody body behind := behind.pushBody body
  pushRuntime runtime behind := behind.pushRuntime runtime
  pushProfile body behind := behind.pushProfile body
  pushSlots slots behind := behind.pushSlots slots
  pushAddresses addresses behind := behind.pushAddresses addresses
  pushGuards guards behind := behind.pushGuards guards
  pushTypeSpecs sources count behind := behind.pushTypeSpecs sources count
  setNode behind := behind.setNode

def occupied : Arena :=
  { nodes := #[{}]
    bodies := #[{}]
    runtimes := #[{}]
    profiles := #[{}]
    slots := #[none]
    addresses := #[⟨7⟩]
    guards := #[⟨1⟩]
    typeSpecs := #[none] }

def clonedCaller : SourceFunction :=
  { facts :=
      { body := some
          { record := { callSiteCount := 1, cacheCount := 2 }
            hasProfile := true
            entryPoint := { guards := some (.ofList [⟨3⟩]) } }
        typeSpecs := some [some ⟨8⟩, none] }
    inlinees := [some { facts := {} }] }

end JitSnapshot
