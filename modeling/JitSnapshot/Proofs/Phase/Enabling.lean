import JitSnapshot.Proofs.Phase.RoundTrip
import Mathlib.Data.Set.Insert

set_option autoImplicit false

/-!
Phase lists as the outcome of requests. A request enables phases for every
function or for one; a list that was put together by requests holds exactly
what is among them, so neither their order nor their number matters. What is
told in this way is told bit by bit, since a query may be answered by phases
from several requests.
-/

namespace JitSnapshot

/-! ### Bits -/

namespace Flags

variable {kind : FlagKind} {flags left right wanted : Flags kind} {bit : Nat}

/-- The bit at a position, from the lowest on, is in the set. -/
def Has (flags : Flags kind) (bit : Nat) : Prop :=
  flags.bits.toBitVec.getLsbD bit = true

theorem ext_has (same : ∀ bit, left.Has bit ↔ right.Has bit) : left = right := by
  obtain ⟨leftBits⟩ := left
  obtain ⟨rightBits⟩ := right
  refine congrArg mk (UInt8.toBitVec_inj.mp (BitVec.eq_of_getLsbD_eq fun bit _ => ?_))
  exact Bool.eq_iff_iff.mpr (same bit)

theorem not_has_empty (bit : Nat) : ¬(empty : Flags kind).Has bit := by
  have clear : (0 : UInt8).toBitVec.getLsbD bit = false := BitVec.getLsbD_zero
  rw [Has, empty, clear]
  exact Bool.false_ne_true

theorem has_union : (left.union right).Has bit ↔ left.Has bit ∨ right.Has bit := by
  rw [Has, union, UInt8.toBitVec_or, BitVec.getLsbD_or, Bool.or_eq_true]
  rfl

theorem contains_iff_has :
    flags.contains wanted = true ↔ ∀ bit, wanted.Has bit → flags.Has bit := by
  have both (bit : Nat) : (⟨flags.bits &&& wanted.bits⟩ : Flags kind).Has bit ↔
      flags.Has bit ∧ wanted.Has bit := by
    rw [Has, UInt8.toBitVec_and, BitVec.getLsbD_and, Bool.and_eq_true]
    rfl
  rw [contains, beq_iff_eq]
  constructor
  · intro same bit inWanted
    have inBoth : (⟨flags.bits &&& wanted.bits⟩ : Flags kind).Has bit := by
      rw [same]
      exact inWanted
    exact ((both bit).mp inBoth).1
  · intro within
    have same : (⟨flags.bits &&& wanted.bits⟩ : Flags kind) = wanted := by
      refine ext_has fun bit => ?_
      rw [both]
      exact and_iff_right_of_imp (within bit)
    exact congrArg bits same

private theorem exists_has (nonempty : flags.isEmpty = false) : ∃ bit, flags.Has bit := by
  by_contra nothing
  have same : flags = empty := ext_has fun bit =>
    iff_of_false (fun present => nothing ⟨bit, present⟩) (not_has_empty bit)
  rw [same] at nonempty
  contradiction

end Flags

/-! ### Requests -/

/-- A request to enable phases, for every function or for one. -/
inductive Enabling where
  | everywhere (phases : Phases)
  | single (phases : Phases) (key : FunctionKey)
  deriving DecidableEq

/-- A bit that a request enables for a function. -/
def Enabling.Reaches : Enabling → FunctionKey → Nat → Prop
  | .everywhere phases, _, bit => phases.Has bit
  | .single phases other, key, bit => other = key ∧ phases.Has bit

/-- Whether what a request enables may hold for the function. -/
def Enabling.concerns (key : FunctionKey) : Enabling → Bool
  | .everywhere _ => true
  | .single _ other => other = key

/-- The requests without those for other functions. -/
def Enabling.concerning (key : FunctionKey) (requests : List Enabling) : List Enabling :=
  requests.filter (concerns key)

theorem Enabling.Reaches.concerns {request : Enabling} {key : FunctionKey} {bit : Nat}
    (reaches : request.Reaches key bit) : request.concerns key = true := by
  cases request with
  | everywhere phases => rfl
  | single phases other => exact decide_eq_true reaches.1

namespace PhaseList

variable {list first second : PhaseList} {asked others : Set Enabling} {key : FunctionKey}
  {bit : Nat}

def perform (list : PhaseList) : Enabling → PhaseList
  | .everywhere phases => list.enable phases
  | .single phases key => list.enableFor phases key

def enableAll (list : PhaseList) (requests : List Enabling) : PhaseList :=
  requests.foldl perform list

/-- A list holds what is asked for and nothing else. A key that phases are asked
for has an entry, be it for no phases. -/
structure Holds (list : PhaseList) (asked : Set Enabling) : Prop where
  everywhere : ∀ bit, list.everywhere.Has bit ↔
    ∃ phases, .everywhere phases ∈ asked ∧ phases.Has bit
  listed : ∀ key, (∃ held, list.held? key = some held) ↔ ∃ phases, .single phases key ∈ asked
  single : ∀ key held, list.held? key = some held → ∀ bit, held.Has bit ↔
    ∃ phases, .single phases key ∈ asked ∧ phases.Has bit

namespace Holds

theorem empty : PhaseList.empty.Holds ∅ := by
  refine { everywhere := fun bit => ?_, listed := fun key => ?_, single := nofun }
  · refine iff_of_false (Flags.not_has_empty bit) ?_
    rintro ⟨phases, impossible, _⟩
    exact impossible
  · refine iff_of_false nofun ?_
    rintro ⟨phases, impossible⟩
    exact impossible

/-- What is asked for tells the list. -/
theorem unique (holds : first.Holds asked) (also : second.Holds asked) : first = second := by
  refine ext_held ?_ fun key => ?_
  · exact Flags.ext_has fun bit => (holds.everywhere bit).trans (also.everywhere bit).symm
  · have sameKeys := (holds.listed key).trans (also.listed key).symm
    cases atFirst : first.held? key with
    | none =>
        cases atSecond : second.held? key with
        | none => rfl
        | some held =>
            obtain ⟨_, impossible⟩ := sameKeys.mpr ⟨held, atSecond⟩
            rw [atFirst] at impossible
            contradiction
    | some held =>
        obtain ⟨other, atSecond⟩ := sameKeys.mp ⟨held, atFirst⟩
        rw [atSecond]
        refine congrArg some (Flags.ext_has fun bit => ?_)
        exact (holds.single key held atFirst bit).trans (also.single key other atSecond bit).symm

theorem has_phasesFor (holds : list.Holds asked) : (list.phasesFor key).Has bit ↔
    ∃ phases, .single phases key ∈ asked ∧ phases.Has bit := by
  rw [phasesFor_eq]
  cases found : list.held? key with
  | none =>
      refine iff_of_false (Flags.not_has_empty bit) ?_
      rintro ⟨phases, member, _⟩
      obtain ⟨held, impossible⟩ := (holds.listed key).mpr ⟨phases, member⟩
      rw [found] at impossible
      contradiction
  | some held => exact holds.single key held found bit

/-- A query is answered from all requests together. -/
theorem contains_iff (holds : list.Holds asked) {query : Phases} :
    list.contains query key = true ↔
      ∀ bit, query.Has bit → ∃ request ∈ asked, request.Reaches key bit := by
  rw [contains, Flags.contains_iff_has]
  refine forall_congr' fun bit => imp_congr_right fun _ => ?_
  rw [Flags.has_union, holds.everywhere, holds.has_phasesFor]
  constructor
  · rintro (⟨phases, member, inPhases⟩ | ⟨phases, member, inPhases⟩)
    · exact ⟨.everywhere phases, member, inPhases⟩
    · exact ⟨.single phases key, member, rfl, inPhases⟩
  · rintro ⟨request, member, reaches⟩
    cases request with
    | everywhere phases => exact Or.inl ⟨phases, member, reaches⟩
    | single phases other =>
        obtain ⟨rfl, inPhases⟩ := reaches
        exact Or.inr ⟨phases, member, inPhases⟩

/-- One more request adds itself to what is held. -/
theorem perform (holds : list.Holds asked) (request : Enabling) :
    (list.perform request).Holds (insert request asked) := by
  cases request with
  | everywhere phases =>
      refine { everywhere := fun bit => ?_, listed := fun key => ?_, single := ?_ }
      · rw [PhaseList.perform, enable, Flags.has_union, holds.everywhere]
        simp only [Set.mem_insert_iff, Enabling.everywhere.injEq, or_and_right, exists_or,
          exists_eq_left, or_comm]
      · simp only [Set.mem_insert_iff, reduceCtorEq, false_or]
        exact holds.listed key
      · intro key held found bit
        simp only [Set.mem_insert_iff, reduceCtorEq, false_or]
        exact holds.single key held found bit
  | single phases changed =>
      have heldAfter (key : FunctionKey) := list.held?_enableFor phases changed key
      refine { everywhere := fun bit => ?_, listed := fun key => ?_, single := ?_ }
      · simp only [Set.mem_insert_iff, reduceCtorEq, false_or]
        exact holds.everywhere bit
      · rw [PhaseList.perform, heldAfter]
        by_cases same : key = changed
        · subst same
          rw [if_pos rfl]
          exact iff_of_true ⟨_, rfl⟩ ⟨phases, Set.mem_insert _ _⟩
        · simp only [Set.mem_insert_iff, Enabling.single.injEq, same, if_false, and_false, false_or]
          exact holds.listed key
      · intro key held found bit
        rw [PhaseList.perform, heldAfter] at found
        by_cases same : key = changed
        · subst same
          rw [if_pos rfl, Option.some.injEq] at found
          subst found
          rw [Flags.has_union, ← phasesFor_eq, holds.has_phasesFor]
          simp only [Set.mem_insert_iff, Enabling.single.injEq, and_true, or_and_right, exists_or,
            exists_eq_left, or_comm]
        · rw [if_neg same] at found
          simp only [Set.mem_insert_iff, Enabling.single.injEq, same, and_false, false_or]
          exact holds.single key held found bit

theorem enableAll (holds : list.Holds asked) (requests : List Enabling) :
    (list.enableAll requests).Holds (asked ∪ {request | request ∈ requests}) := by
  induction requests generalizing list asked with
  | nil =>
      have nothing : {request : Enabling | request ∈ []} = ∅ :=
        Set.eq_empty_of_forall_notMem fun _ => List.not_mem_nil
      rw [nothing, Set.union_empty]
      exact holds
  | cons request rest ih =>
      have onward := ih (holds.perform request)
      have sameRequests : insert request asked ∪ {other | other ∈ rest} =
          asked ∪ {other | other ∈ request :: rest} := by
        refine Set.ext fun other => ?_
        change (other = request ∨ other ∈ asked) ∨ other ∈ rest ↔
          other ∈ asked ∨ other ∈ request :: rest
        rw [List.mem_cons, or_assoc, or_left_comm]
      rw [← sameRequests]
      exact onward

end Holds

theorem holds_enableAll (requests : List Enabling) :
    (empty.enableAll requests).Holds {request | request ∈ requests} := by
  have holds := Holds.empty.enableAll requests
  rwa [Set.empty_union] at holds

/-! ### Further requests -/

/-- The requests that the phases of a list could have come from. -/
def content (list : PhaseList) : Set Enabling :=
  insert (.everywhere list.everywhere)
    {request | ∃ key held, list.held? key = some held ∧ request = .single held key}

theorem holds_content (list : PhaseList) : list.Holds list.content := by
  have single_mem {phases : Phases} {key : FunctionKey} :
      .single phases key ∈ list.content ↔ list.held? key = some phases := by
    simp [content]
  have everywhere_mem {phases : Phases} :
      .everywhere phases ∈ list.content ↔ phases = list.everywhere := by
    simp [content]
  refine { everywhere := ?_, listed := ?_, single := ?_ }
  · intro bit
    simp only [everywhere_mem, exists_eq_left]
  · intro key
    simp only [single_mem]
  · intro key held found bit
    simp only [single_mem, found, Option.some.injEq, exists_eq_left']

theorem contains_enableAll_iff (list : PhaseList) (requests : List Enabling) {query : Phases} :
    (list.enableAll requests).contains query key = true ↔
      ∀ bit, query.Has bit →
        ∃ request, (request ∈ list.content ∨ request ∈ requests) ∧ request.Reaches key bit :=
  (list.holds_content.enableAll requests).contains_iff

theorem contains_enableAll {query : Phases} (contained : list.contains query key = true)
    (requests : List Enabling) : (list.enableAll requests).contains query key = true := by
  rw [contains_enableAll_iff]
  intro bit asked
  obtain ⟨request, member, reaches⟩ := list.holds_content.contains_iff.mp contained bit asked
  exact ⟨request, Or.inl member, reaches⟩

/-- Requests for other functions do not matter, wherever they stand in a sequence. -/
theorem contains_enableAll_concerning (list : PhaseList) (requests : List Enabling)
    (query : Phases) (key : FunctionKey) :
    (list.enableAll (Enabling.concerning key requests)).contains query key =
      (list.enableAll requests).contains query key := by
  rw [Bool.eq_iff_iff, contains_enableAll_iff, contains_enableAll_iff]
  refine forall_congr' fun bit => imp_congr_right fun _ => exists_congr fun request => ?_
  rw [Enabling.concerning, List.mem_filter]
  refine and_congr_left fun reaches => or_congr_right ?_
  exact and_iff_left reaches.concerns

/-! ### Keys in the text -/

private theorem mem_splitOn_chars {piece : List Char} (nonempty : piece ≠ []) :
    piece ∈ list.chars.splitOn ';' ↔ piece ∈ list.globalPieces ++ list.keyedPieces := by
  have plain : ∀ piece ∈ list.globalPieces ++ list.keyedPieces, Plain piece :=
    fun piece => plain_of_mem_pieces
  rw [chars]
  cases pieces : list.globalPieces ++ list.keyedPieces with
  | nil =>
      refine iff_of_false ?_ List.not_mem_nil
      intro member
      exact nonempty (List.mem_singleton.mp member)
  | cons first rest =>
      rw [pieces] at plain
      rw [Separated.splitOn_join (List.cons_ne_nil _ _) fun piece member =>
        (plain piece member).undivided]

/-- A phase is followed by its keys and by nothing else, wherever it is followed by keys. -/
private theorem keyed_mem_splitOn_iff {phase : Phases} {name : String} {keysText : List Char}
    (isNamed : (phase, name) ∈ Phase.named) :
    name.toList ++ ':' :: keysText ∈ list.chars.splitOn ';' ↔
      list.keysOf phase ≠ [] ∧
        keysText = [','].intercalate ((list.keysOf phase).map FunctionKey.chars) := by
  rw [mem_splitOn_chars (List.append_ne_nil_of_right_ne_nil _ (List.cons_ne_nil _ _)),
    List.mem_append]
  constructor
  · rintro (inGlobal | inKeyed)
    · obtain ⟨⟨other, otherName⟩, otherNamed, shown⟩ := List.mem_filterMap.mp inGlobal
      obtain ⟨_, same⟩ := Option.ite_none_right_eq_some.mp shown
      have colon : ':' ∈ otherName.toList := by
        rw [Option.some.inj same]
        exact List.mem_append_right _ List.mem_cons_self
      exact absurd colon (Phase.colon_not_mem_name otherNamed)
    · obtain ⟨⟨other, otherName⟩, otherNamed, shown⟩ := List.mem_filterMap.mp inKeyed
      obtain ⟨someKey, same⟩ := eq_of_keyedPiece? shown
      have cuts := congrArg (Separated.cutFirst? ':') same
      rw [Separated.cutFirst?_append (Phase.colon_not_mem_name isNamed),
        Separated.cutFirst?_append (Phase.colon_not_mem_name otherNamed), Option.some.injEq,
        Prod.mk.injEq] at cuts
      have samePhase := Phase.ofName?_toList isNamed
      rw [cuts.1, Phase.ofName?_toList otherNamed, Option.some.injEq] at samePhase
      subst samePhase
      exact ⟨someKey, cuts.2⟩
  · rintro ⟨someKey, rfl⟩
    refine Or.inr (List.mem_filterMap.mpr ⟨(phase, name), isNamed, ?_⟩)
    change keyedPiece? name (list.keysOf phase) = _
    cases keys : list.keysOf phase with
    | nil => exact absurd keys someKey
    | cons key rest => rfl

private theorem pairwise_keysOf (list : PhaseList) (phase : Phases) :
    (list.keysOf phase).Pairwise FunctionKey.Before :=
  List.pairwise_map.mpr (list.ascending.filter _)

private theorem Holds.mem_keysOf_iff {phase : Phases} (holds : list.Holds asked)
    (nonempty : phase.isEmpty = false) : key ∈ list.keysOf phase ↔
      ∀ bit, phase.Has bit → ∃ phases, .single phases key ∈ asked ∧ phases.Has bit := by
  rw [mem_keysOf]
  constructor
  · intro ⟨held, found, contained⟩ bit inPhase
    exact (holds.single key held found bit).mp (Flags.contains_iff_has.mp contained bit inPhase)
  · intro each
    obtain ⟨someBit, inPhase⟩ := Flags.exists_has nonempty
    obtain ⟨phases, member, _⟩ := each someBit inPhase
    obtain ⟨held, found⟩ := (holds.listed key).mpr ⟨phases, member⟩
    refine ⟨held, found, Flags.contains_iff_has.mpr fun bit inPhase => ?_⟩
    exact (holds.single key held found bit).mpr (each bit inPhase)

/-- A list put together by requests answers a query from what is enabled where,
is the same in whatever order they come, and shows for each phase the keys that
all of the phase is enabled for, in strictly ascending order. -/
theorem enableAll_regardless_of_order (requests : List Enabling) :
    (∀ query key, (empty.enableAll requests).contains query key = true ↔
        ∀ bit, query.Has bit → ∃ request ∈ requests, request.Reaches key bit) ∧
      (∀ others : List Enabling, others.Perm requests →
        empty.enableAll others = empty.enableAll requests ∧
          (empty.enableAll others).text = (empty.enableAll requests).text) ∧
      ∀ phase name, (phase, name) ∈ Phase.named →
        ∃ keys : List FunctionKey, keys.Pairwise FunctionKey.Before ∧
          (∀ key, key ∈ keys ↔ ∀ bit, phase.Has bit →
            ∃ phases, .single phases key ∈ requests ∧ phases.Has bit) ∧
          ∀ keysText, name.toList ++ ':' :: keysText ∈
              (empty.enableAll requests).text.toList.splitOn ';' ↔
            keys ≠ [] ∧ keysText = [','].intercalate (keys.map FunctionKey.chars) := by
  have holds := holds_enableAll requests
  refine ⟨fun query key => holds.contains_iff, ?_, ?_⟩
  · intro others rearranged
    have sameRequests : {request | request ∈ others} = {request | request ∈ requests} :=
      Set.ext fun request => rearranged.mem_iff
    have alsoHolds := holds_enableAll others
    rw [sameRequests] at alsoHolds
    have same := alsoHolds.unique holds
    exact ⟨same, congrArg text same⟩
  · intro phase name isNamed
    have nonempty := (Phase.proper_of_ofName? (Phase.ofName?_toList isNamed)).2
    refine ⟨(empty.enableAll requests).keysOf phase, pairwise_keysOf _ phase,
      fun key => holds.mem_keysOf_iff nonempty, fun keysText => ?_⟩
    rw [text, String.toList_ofList]
    exact keyed_mem_splitOn_iff isNamed

/-- Keys that do not come in ascending order, and one phase for every function. -/
def scattered : List Enabling :=
  [.single .loopBody ⟨⟨3⟩, ⟨12⟩⟩, .everywhere .fullJit, .single .loopBody ⟨⟨3⟩, ⟨4⟩⟩]

theorem enableAll_regardless_of_order_scattered :
    scattered.reverse.Perm scattered ∧
      (empty.enableAll scattered.reverse).text = (empty.enableAll scattered).text ∧
      (.loopBody, "JITLoopBody") ∈ Phase.named ∧
      ∃ keys : List FunctionKey, keys.Pairwise FunctionKey.Before ∧
        "3.4,3.12".toList = [','].intercalate (keys.map FunctionKey.chars) := by
  have isNamed : (.loopBody, "JITLoopBody") ∈ Phase.named := by decide
  have rearranged : scattered.reverse.Perm scattered := List.reverse_perm _
  obtain ⟨_, anyOrder, shows⟩ := enableAll_regardless_of_order scattered
  obtain ⟨keys, ascending, _, inText⟩ := shows _ _ isNamed
  refine ⟨rearranged, (anyOrder _ rearranged).2, isNamed, keys, ascending, ?_⟩
  exact ((inText "3.4,3.12".toList).mp (by decide)).2

end PhaseList

end JitSnapshot
