import JitSnapshot.Name

set_option autoImplicit false

/-!
What stands right below an instance in a tree, whatever represents the
instances: something or nothing in each slot for a call site, in each slot for
an inline cache, and behind. The list of what is there has each step once, in
the order in which snapshots are built and walked.
-/

namespace JitSnapshot

variable {α β : Type}

/-- What each step from an instance leads to. -/
structure Branches (α : Type) where
  inlinees : List (Option α) := []
  fieldInlinees : List (Option α) := []
  next : Option α := none

/-- A sequence of steps, the first one first. -/
abbrev Path := List Step

namespace Branches

def at? (branches : Branches α) : Step → Option α
  | .inlinee site => branches.inlinees[site]?.join
  | .fieldInlinee cache => branches.fieldInlinees[cache]?.join
  | .next => branches.next

/-- What stands in slots, with the steps that lead there. The first slot has the number `first`. -/
def present (step : Nat → Step) (first : Nat) : List (Option α) → List (Step × α)
  | [] => []
  | none :: rest => present step (first + 1) rest
  | some value :: rest => (step first, value) :: present step (first + 1) rest

theorem present_cons (step : Nat → Step) (first : Nat) (slot : Option α)
    (rest : List (Option α)) :
    present step first (slot :: rest) =
      (slot.toList.map fun value => (step first, value)) ++ present step (first + 1) rest := by
  cases slot <;> rfl

theorem present_replicate_none (step : Nat → Step) (first count : Nat) :
    present step first (List.replicate count (none : Option α)) = [] := by
  induction count generalizing first with
  | zero => rfl
  | succ count ih => exact ih (first + 1)

/-- Everything below an instance: for call sites, for inline caches, and behind. -/
def toList (branches : Branches α) : List (Step × α) :=
  present .inlinee 0 branches.inlinees ++
    (present .fieldInlinee 0 branches.fieldInlinees ++
      branches.next.toList.map fun value => (.next, value))

theorem mem_present {step : Nat → Step} {first : Nat} {slots : List (Option α)}
    {taken : Step} {value : α} :
    (taken, value) ∈ present step first slots ↔
      ∃ offset, taken = step (first + offset) ∧ slots[offset]? = some (some value) := by
  induction slots generalizing first with
  | nil => simp [present]
  | cons slot rest ih =>
      have tail : (taken, value) ∈ present step (first + 1) rest ↔
          ∃ offset, taken = step (first + (offset + 1)) ∧
            (slot :: rest)[offset + 1]? = some (some value) := by
        simp only [ih, List.getElem?_cons_succ, Nat.add_assoc, Nat.add_comm 1]
      cases slot with
      | none =>
          rw [present, tail]
          constructor
          · intro ⟨offset, found⟩
            exact ⟨offset + 1, found⟩
          · intro ⟨offset, found⟩
            cases offset with
            | zero => cases found.2
            | succ offset => exact ⟨offset, found⟩
      | some head =>
          rw [present, List.mem_cons, tail]
          constructor
          · rintro (same | ⟨offset, found⟩)
            · cases same
              exact ⟨0, rfl, rfl⟩
            · exact ⟨offset + 1, found⟩
          · intro ⟨offset, found⟩
            cases offset with
            | zero =>
                obtain ⟨rfl, same⟩ := found
                cases same
                exact Or.inl rfl
            | succ offset => exact Or.inr ⟨offset, found⟩

theorem mem_of_mem_present_take {step : Nat → Step} {first count : Nat} {slots : List (Option α)}
    {entry : Step × α} (member : entry ∈ present step first (slots.take count)) :
    some entry.2 ∈ slots := by
  obtain ⟨offset, _, found⟩ := mem_present.mp member
  exact List.mem_of_mem_take (List.mem_of_getElem? found)

theorem eq_some_of_mem_map {step : Step} {slot : Option α} {entry : Step × α}
    (member : entry ∈ slot.toList.map fun value => (step, value)) : slot = some entry.2 := by
  obtain ⟨value, found, rfl⟩ := List.mem_map.mp member
  exact Option.mem_toList.mp found

theorem mem_toList {branches : Branches α} {step : Step} {value : α} :
    (step, value) ∈ branches.toList ↔ branches.at? step = some value := by
  simp only [toList, List.mem_append, mem_present, Nat.zero_add]
  cases step with
  | inlinee site =>
      simp [at?, Option.join_eq_some_iff]
  | fieldInlinee cache =>
      simp [at?, Option.join_eq_some_iff]
  | next =>
      simp [at?]

private theorem present_steps_ge {step : Nat → Step} (injective : ∀ i j, step i = step j → i = j)
    {first position : Nat} {slots : List (Option α)}
    (member : step position ∈ (present step first slots).map Prod.fst) : first ≤ position := by
  obtain ⟨⟨taken, value⟩, found, same⟩ := List.mem_map.mp member
  obtain ⟨offset, atOffset, _⟩ := mem_present.mp found
  have reached := injective _ _ (same.symm.trans atOffset)
  omega

theorem present_steps_nodup {step : Nat → Step} (injective : ∀ i j, step i = step j → i = j)
    (first : Nat) (slots : List (Option α)) :
    ((present step first slots).map Prod.fst).Nodup := by
  induction slots generalizing first with
  | nil => exact List.nodup_nil
  | cons slot rest ih =>
      cases slot with
      | none => exact ih (first + 1)
      | some value =>
          refine List.nodup_cons.mpr ⟨?_, ih (first + 1)⟩
          intro member
          have later := present_steps_ge injective member
          omega

theorem toList_steps_nodup (branches : Branches α) :
    (branches.toList.map Prod.fst).Nodup := by
  have ofPresent {make : Nat → Step} {slots : List (Option α)} {step : Step}
      (member : step ∈ (present make 0 slots).map Prod.fst) : ∃ position, step = make position := by
    obtain ⟨⟨taken, value⟩, found, rfl⟩ := List.mem_map.mp member
    obtain ⟨offset, same, _⟩ := mem_present.mp found
    exact ⟨0 + offset, same⟩
  have ofNext {step : Step}
      (member : step ∈ (branches.next.toList.map fun value => (Step.next, value)).map Prod.fst) :
      step = .next := by
    simp only [List.map_map, List.mem_map] at member
    obtain ⟨_, _, same⟩ := member
    exact same.symm
  simp only [toList, List.map_append]
  refine List.nodup_append.mpr ⟨present_steps_nodup (fun _ _ => Step.inlinee.inj) 0 _,
    List.nodup_append.mpr ⟨present_steps_nodup (fun _ _ => Step.fieldInlinee.inj) 0 _, ?_, ?_⟩, ?_⟩
  · cases branches.next <;> simp
  · intro field inFields other behind same
    obtain ⟨cache, rfl⟩ := ofPresent inFields
    rw [ofNext behind] at same
    cases same
  · intro inlinee inInlinees other later same
    obtain ⟨site, rfl⟩ := ofPresent inInlinees
    rcases List.mem_append.mp later with inFields | behind
    · obtain ⟨cache, rfl⟩ := ofPresent inFields
      cases same
    · rw [ofNext behind] at same
      cases same

theorem map_snd_present (step : Nat → Step) (first : Nat) (slots : List (Option α)) :
    (present step first slots).map Prod.snd = slots.filterMap id := by
  induction slots generalizing first with
  | nil => rfl
  | cons slot rest ih =>
      cases slot with
      | none => exact ih (first + 1)
      | some value => exact congrArg (value :: ·) (ih (first + 1))

theorem map_snd_toList (branches : Branches α) :
    branches.toList.map Prod.snd =
      branches.inlinees.filterMap id ++ branches.fieldInlinees.filterMap id ++
        branches.next.toList := by
  simp only [toList, List.map_append, map_snd_present, List.append_assoc, List.map_map,
    Function.comp_def, List.map_id']

end Branches

/-! ### Paths -/

section Paths

variable (child? : α → Step → Option α)

/-- Where a path leads from an instance, when every step of it leads somewhere. -/
def follow? (start : α) : Path → Option α
  | [] => some start
  | step :: rest => (child? start step).bind (follow? · rest)

theorem follow?_append (start : α) (front back : Path) :
    follow? child? start (front ++ back) =
      (follow? child? start front).bind (follow? child? · back) := by
  induction front generalizing start with
  | nil => rfl
  | cons step rest ih =>
      simp only [List.cons_append, follow?, Option.bind_assoc, ih]

theorem follow?_snoc (start : α) (path : Path) (step : Step) :
    follow? child? start (path ++ [step]) =
      (follow? child? start path).bind (child? · step) := by
  rw [follow?_append]
  cases follow? child? start path with
  | none => rfl
  | some reached =>
      simp only [Option.bind_some, follow?]
      cases child? reached step <;> rfl

end Paths

end JitSnapshot
