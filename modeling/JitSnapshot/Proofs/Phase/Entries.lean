import JitSnapshot.Phase.List

set_option autoImplicit false

/-!
What a phase list holds, key by key. The entries are in ascending order, so a
list is told by the phases it holds everywhere and by what a look-up of each
key finds. An entry for no phases is found as such, and is not the same as no
entry.

A list is normal if it holds nothing but phases with a name and has no entry
without one. Every list has a normal form, and that of a normal list is the
list itself.
-/

namespace JitSnapshot

theorem FunctionKey.not_before_self (key : FunctionKey) : ¬key.Before key := by
  simp only [Before, UInt32.lt_irrefl, and_false, or_self, not_false_eq_true]

/-! ### Entries in ascending order -/

section Entries

variable {entries others : List (FunctionKey × Phases)} {key other first : FunctionKey}
  {held : Phases}

theorem lookup_cons_eq_ite : ((first, held) :: entries).lookup key =
    if key = first then some held else entries.lookup key := by
  rw [List.lookup_cons]
  by_cases same : key = first
  · rw [if_pos same, beq_iff_eq.mpr same]
  · rw [if_neg same, beq_false_of_ne same]

theorem lookup_eq_none_of_behind (behind : ∀ entry ∈ entries, key.Before entry.1) :
    entries.lookup key = none := by
  rw [List.lookup_eq_none_iff]
  intro entry member
  have before := behind entry member
  apply bne_iff_ne.mpr
  rintro rfl
  exact entry.1.not_before_self before

theorem Ascending.lookup_eq_some_iff (ascending : Ascending entries) :
    entries.lookup key = some held ↔ (key, held) ∈ entries := by
  induction entries with
  | nil => simp only [List.lookup_nil, reduceCtorEq, List.not_mem_nil]
  | cons head rest ih =>
      obtain ⟨first, firstHeld⟩ := head
      obtain ⟨behind, restAscending⟩ := List.pairwise_cons.mp ascending
      rw [lookup_cons_eq_ite, List.mem_cons, Prod.mk.injEq]
      by_cases same : key = first
      · subst same
        have notInRest : (key, held) ∉ rest := fun member =>
          key.not_before_self (behind _ member)
        rw [if_pos rfl, Option.some.injEq, and_iff_right rfl, or_iff_left notInRest, eq_comm]
      · rw [if_neg same, ih restAscending]
        simp only [same, false_and, false_or]

/-- Two lists in which every key is found with the same phases are the same list. -/
theorem Ascending.ext (ascending : Ascending entries) (alsoAscending : Ascending others)
    (same : ∀ key, entries.lookup key = others.lookup key) : entries = others := by
  have nodup {list : List (FunctionKey × Phases)} (ascending : Ascending list) : list.Nodup := by
    refine List.Pairwise.imp ?_ ascending
    rintro left right before rfl
    exact left.1.not_before_self before
  have sameMembers : entries.Perm others := by
    refine (List.perm_ext_iff_of_nodup (nodup ascending) (nodup alsoAscending)).mpr ?_
    intro entry
    rw [← ascending.lookup_eq_some_iff, same, alsoAscending.lookup_eq_some_iff]
  refine sameMembers.eq_of_pairwise ?_ ascending alsoAscending
  intro left right _ _ before after
  exact absurd (before.trans after) left.1.not_before_self

/-- Enabling phases for a key adds them to what it holds, and leaves all other keys alone. -/
theorem lookup_enableEntry (phases : Phases) (ascending : Ascending entries) :
    (enableEntry phases key entries).lookup other =
      if other = key then some (((entries.lookup key).getD .empty).union phases)
      else entries.lookup other := by
  induction entries with
  | nil =>
      rw [enableEntry, lookup_cons_eq_ite]
      simp only [List.lookup_nil, Option.getD_none, Flags.empty_union]
  | cons head rest ih =>
      obtain ⟨first, firstHeld⟩ := head
      obtain ⟨behind, restAscending⟩ := List.pairwise_cons.mp ascending
      rw [enableEntry]
      split
      · rename_i same
        subst same
        simp only [lookup_cons_eq_ite, if_true, Option.getD_some]
        split <;> rfl
      · rename_i different
        split
        · rename_i before
          have absent : ((first, firstHeld) :: rest).lookup key = none := by
            refine lookup_eq_none_of_behind fun entry member => ?_
            rcases List.mem_cons.mp member with atHead | inRest
            · rw [atHead]
              exact before
            · exact before.trans (behind entry inRest)
          rw [absent, lookup_cons_eq_ite, Option.getD_none, Flags.empty_union]
        · rw [lookup_cons_eq_ite, lookup_cons_eq_ite, lookup_cons_eq_ite, ih restAscending,
            if_neg (Ne.symm different)]
          by_cases atFirst : other = first
          · rw [if_pos atFirst, if_neg (atFirst ▸ different), if_pos atFirst]
          · rw [if_neg atFirst, if_neg atFirst]

end Entries

namespace PhaseList

variable {list left right : PhaseList} {phases : Phases} {key other : FunctionKey}

/-- The phases a list has for a key alone, if it has an entry for the key. -/
def held? (list : PhaseList) (key : FunctionKey) : Option Phases :=
  list.entries.lookup key

theorem phasesFor_eq (list : PhaseList) (key : FunctionKey) :
    list.phasesFor key = (list.held? key).getD .empty :=
  rfl

theorem ext_held (everywhere : left.everywhere = right.everywhere)
    (held : ∀ key, left.held? key = right.held? key) : left = right := by
  obtain ⟨leftEverywhere, leftEntries, leftAscending⟩ := left
  obtain ⟨rightEverywhere, rightEntries, rightAscending⟩ := right
  cases everywhere
  cases leftAscending.ext rightAscending held
  rfl

theorem held?_enableFor (list : PhaseList) (phases : Phases) (key other : FunctionKey) :
    (list.enableFor phases key).held? other =
      if other = key then some (((list.held? key).getD .empty).union phases)
      else list.held? other :=
  lookup_enableEntry phases list.ascending

/-! ### Many keys at once -/

/-- The same phases enabled for one key after another. -/
def enableForAll (list : PhaseList) (phases : Phases) (keys : List FunctionKey) : PhaseList :=
  keys.foldl (fun list key => list.enableFor phases key) list

@[simp] theorem everywhere_enableForAll (list : PhaseList) (phases : Phases)
    (keys : List FunctionKey) : (list.enableForAll phases keys).everywhere = list.everywhere := by
  induction keys generalizing list with
  | nil => rfl
  | cons key rest ih => exact ih (list.enableFor phases key)

/-- A key that occurs several times gets the phases once. -/
theorem held?_enableForAll (list : PhaseList) (phases : Phases) (keys : List FunctionKey)
    (key : FunctionKey) :
    (list.enableForAll phases keys).held? key =
      if key ∈ keys then some (((list.held? key).getD .empty).union phases)
      else list.held? key := by
  induction keys generalizing list with
  | nil => rw [if_neg List.not_mem_nil, enableForAll, List.foldl_nil]
  | cons first rest ih =>
      have onward : list.enableForAll phases (first :: rest) =
          (list.enableFor phases first).enableForAll phases rest := rfl
      rw [onward, ih, held?_enableFor]
      by_cases atFirst : key = first
      · subst atFirst
        rw [if_pos rfl, if_pos List.mem_cons_self, Option.getD_some, Flags.union_assoc,
          Flags.union_self, ite_self]
      · simp only [List.mem_cons, atFirst, false_or, if_false]

/-! ### Normal form -/

/-- Unnamed bits are dropped, and so are the entries that are empty then. -/
def normal (list : PhaseList) : PhaseList :=
  { everywhere := list.everywhere.truncate
    entries := (list.entries.map fun entry => (entry.1, entry.2.truncate)).filter
      fun entry => !entry.2.isEmpty
    ascending := by
      refine List.Pairwise.filter _ (List.pairwise_map.mpr ?_)
      exact list.ascending }

theorem held?_eq_some_iff {held : Phases} :
    list.held? key = some held ↔ (key, held) ∈ list.entries :=
  list.ascending.lookup_eq_some_iff

theorem held?_normal (list : PhaseList) (key : FunctionKey) :
    list.normal.held? key = (list.held? key).bind fun held =>
      if held.truncate.isEmpty then none else some held.truncate := by
  refine Option.ext fun phases => ?_
  rw [held?_eq_some_iff, Option.bind_eq_some_iff, normal, List.mem_filter, List.mem_map,
    Bool.not_eq_true']
  constructor
  · rintro ⟨⟨entry, member, same⟩, nonempty⟩
    cases same
    refine ⟨entry.2, held?_eq_some_iff.mpr member, ?_⟩
    rw [nonempty]
    rfl
  · rintro ⟨held, found, same⟩
    split at same
    · contradiction
    · rename_i nonempty
      cases same
      exact ⟨⟨(key, held), held?_eq_some_iff.mp found, rfl⟩,
        Bool.eq_false_iff.mpr nonempty⟩

/-- A list without unnamed bits and without an entry for no phases. -/
structure IsNormal (list : PhaseList) : Prop where
  everywhere : list.everywhere.isKnown = true
  known : ∀ key held, list.held? key = some held → held.isKnown = true
  nonempty : ∀ key held, list.held? key = some held → held.isEmpty = false

theorem normal_eq_self_iff : list.normal = list ↔ list.IsNormal := by
  constructor
  · intro same
    have entries : ∀ key held, list.held? key = some held →
        held.truncate = held ∧ held.isEmpty = false := by
      intro key held found
      have again := list.held?_normal key
      rw [same, found, Option.bind_some] at again
      split at again
      · contradiction
      · rename_i nonempty
        have truncated := Option.some.inj again
        exact ⟨truncated.symm, Bool.eq_false_iff.mpr (truncated ▸ nonempty)⟩
    refine
      { everywhere := Flags.isKnown_iff_truncate_eq.mpr (congrArg everywhere same)
        known := ?_
        nonempty := fun key held found => (entries key held found).2 }
    intro key held found
    exact Flags.isKnown_iff_truncate_eq.mpr (entries key held found).1
  · intro isNormal
    refine ext_held (Flags.isKnown_iff_truncate_eq.mp isNormal.everywhere) fun key => ?_
    rw [held?_normal]
    rcases found : list.held? key with _ | held
    · rfl
    · have truncated := Flags.isKnown_iff_truncate_eq.mp (isNormal.known key held found)
      rw [Option.bind_some, truncated, isNormal.nonempty key held found]
      rfl

theorem IsNormal.empty : IsNormal .empty :=
  { everywhere := rfl
    known := fun _ _ found => nomatch found
    nonempty := fun _ _ found => nomatch found }

theorem IsNormal.enable (isNormal : list.IsNormal) (known : phases.isKnown = true) :
    (list.enable phases).IsNormal :=
  { everywhere := Flags.isKnown_union isNormal.everywhere known
    known := isNormal.known
    nonempty := isNormal.nonempty }

theorem IsNormal.enableFor (isNormal : list.IsNormal) (known : phases.isKnown = true)
    (nonempty : phases.isEmpty = false) (key : FunctionKey) :
    (list.enableFor phases key).IsNormal := by
  refine { everywhere := isNormal.everywhere, known := ?_, nonempty := ?_ }
  · intro other held found
    rw [held?_enableFor] at found
    split at found
    · cases found
      refine Flags.isKnown_union ?_ known
      rcases before : list.held? key with _ | alreadyHeld
      · rfl
      · exact isNormal.known key alreadyHeld before
    · exact isNormal.known other held found
  · intro other held found
    rw [held?_enableFor] at found
    split at found
    · cases found
      rw [Flags.isEmpty_union, nonempty, Bool.and_false]
    · exact isNormal.nonempty other held found

end PhaseList

end JitSnapshot
