import JitSnapshot.Name
import JitSnapshot.Flags

set_option autoImplicit false

/-!
Phase lists: the phases enabled for every function, and those enabled for
single functions. The functions are kept in ascending order, so two lists that
hold the same phases for the same functions are equal.
-/

namespace JitSnapshot

structure FunctionKey where
  source : SourceContextId
  localFunction : LocalFunctionId
  deriving DecidableEq

def FunctionKey.Before (earlier later : FunctionKey) : Prop :=
  earlier.source.raw < later.source.raw ∨
    earlier.source.raw = later.source.raw ∧ earlier.localFunction.raw < later.localFunction.raw

instance (earlier later : FunctionKey) : Decidable (earlier.Before later) :=
  inferInstanceAs (Decidable (_ ∨ _))

namespace FunctionKey

theorem Before.trans {first second third : FunctionKey} (left : first.Before second)
    (right : second.Before third) : first.Before third := by
  simp only [Before, UInt32.lt_iff_toNat_lt, ← UInt32.toNat_inj] at left right ⊢
  omega

theorem before_of_ne {left right : FunctionKey} (different : left ≠ right)
    (notBefore : ¬right.Before left) : left.Before right := by
  obtain ⟨⟨leftSource⟩, ⟨leftLocal⟩⟩ := left
  obtain ⟨⟨rightSource⟩, ⟨rightLocal⟩⟩ := right
  simp only [Before, UInt32.lt_iff_toNat_lt, ← UInt32.toNat_inj] at notBefore ⊢
  have distinct : ¬(leftSource.toNat = rightSource.toNat ∧
      leftLocal.toNat = rightLocal.toNat) := by
    intro ⟨sameSource, sameLocal⟩
    exact different (by rw [UInt32.toNat_inj.mp sameSource, UInt32.toNat_inj.mp sameLocal])
  omega

end FunctionKey

/-- Functions with the phases enabled for them, in ascending order of keys. -/
def Ascending (entries : List (FunctionKey × Phases)) : Prop :=
  entries.Pairwise fun earlier later => earlier.1.Before later.1

def enableEntry (phases : Phases) (key : FunctionKey) :
    List (FunctionKey × Phases) → List (FunctionKey × Phases)
  | [] => [(key, phases)]
  | (other, held) :: rest =>
      if other = key then (other, held.union phases) :: rest
      else if key.Before other then (key, phases) :: (other, held) :: rest
      else (other, held) :: enableEntry phases key rest

theorem mem_keys_enableEntry {phases : Phases} {key : FunctionKey}
    {entries : List (FunctionKey × Phases)} {entry : FunctionKey × Phases}
    (member : entry ∈ enableEntry phases key entries) :
    entry.1 = key ∨ ∃ held, (entry.1, held) ∈ entries := by
  induction entries with
  | nil =>
      left
      simp only [enableEntry, List.mem_singleton] at member
      rw [member]
  | cons head rest ih =>
      obtain ⟨other, held⟩ := head
      simp only [enableEntry] at member
      split at member
      · rcases List.mem_cons.mp member with atHead | inRest
        · exact Or.inr ⟨held, by rw [atHead]; exact List.mem_cons_self⟩
        · exact Or.inr ⟨entry.2, List.mem_cons_of_mem _ inRest⟩
      · split at member
        · rcases List.mem_cons.mp member with atHead | inRest
          · exact Or.inl (by rw [atHead])
          · exact Or.inr ⟨entry.2, inRest⟩
        · rcases List.mem_cons.mp member with atHead | inRest
          · exact Or.inr ⟨held, by rw [atHead]; exact List.mem_cons_self⟩
          · rcases ih inRest with same | ⟨before, present⟩
            · exact Or.inl same
            · exact Or.inr ⟨before, List.mem_cons_of_mem _ present⟩

theorem ascending_enableEntry {phases : Phases} {key : FunctionKey}
    {entries : List (FunctionKey × Phases)} (ascending : Ascending entries) :
    Ascending (enableEntry phases key entries) := by
  induction entries with
  | nil => exact List.pairwise_singleton _ _
  | cons head rest ih =>
      obtain ⟨other, held⟩ := head
      obtain ⟨below, restAscending⟩ := List.pairwise_cons.mp ascending
      simp only [enableEntry]
      split
      · exact List.pairwise_cons.mpr ⟨below, restAscending⟩
      · rename_i different
        split
        · rename_i before
          refine List.pairwise_cons.mpr ⟨?_, ascending⟩
          intro entry member
          rcases List.mem_cons.mp member with atHead | inRest
          · rw [atHead]
            exact before
          · exact before.trans (below entry inRest)
        · rename_i notBefore
          refine List.pairwise_cons.mpr ⟨?_, ih restAscending⟩
          intro entry member
          rcases mem_keys_enableEntry member with same | ⟨earlier, present⟩
          · rw [same]
            exact FunctionKey.before_of_ne different notBefore
          · exact below (entry.1, earlier) present

/-- The phases enabled everywhere and for single functions. An entry for no
phases is still an entry. -/
structure PhaseList where
  everywhere : Phases := .empty
  entries : List (FunctionKey × Phases) := []
  ascending : Ascending entries := by exact List.Pairwise.nil
  deriving DecidableEq

namespace PhaseList

def empty : PhaseList := {}

instance : Inhabited PhaseList := ⟨empty⟩

def enable (list : PhaseList) (phases : Phases) : PhaseList :=
  { list with everywhere := list.everywhere.union phases }

def enableFor (list : PhaseList) (phases : Phases) (key : FunctionKey) : PhaseList :=
  { list with
    entries := enableEntry phases key list.entries
    ascending := ascending_enableEntry list.ascending }

def phasesFor (list : PhaseList) (key : FunctionKey) : Phases :=
  (list.entries.lookup key).getD .empty

def contains (list : PhaseList) (phases : Phases) (key : FunctionKey) : Bool :=
  (list.everywhere.union (list.phasesFor key)).contains phases

def isEmpty (list : PhaseList) : Bool :=
  list.everywhere.isEmpty && list.entries.all fun entry => entry.2.isEmpty

end PhaseList

end JitSnapshot
