set_option autoImplicit false

/-!
Computations that may fail, taken apart: when a sequence of two succeeds, and
when it fails.
-/

namespace JitSnapshot

variable {ε α β : Type}

@[simp] theorem ok_bind (value : α) (next : α → Except ε β) :
    (Except.ok value >>= next) = next value :=
  rfl

@[simp] theorem error_bind (fault : ε) (next : α → Except ε β) :
    (Except.error fault >>= next) = .error fault :=
  rfl

theorem bind_eq_ok {first : Except ε α} {next : α → Except ε β} {result : β} :
    first >>= next = .ok result ↔ ∃ value, first = .ok value ∧ next value = .ok result := by
  cases first with
  | error fault =>
      constructor
      · intro impossible
        cases impossible
      · intro ⟨value, impossible, _⟩
        cases impossible
  | ok value =>
      constructor
      · intro finished
        exact ⟨value, rfl, finished⟩
      · intro ⟨other, same, finished⟩
        cases same
        exact finished

theorem bind_eq_error {first : Except ε α} {next : α → Except ε β} {fault : ε} :
    first >>= next = .error fault ↔
      first = .error fault ∨ ∃ value, first = .ok value ∧ next value = .error fault := by
  cases first with
  | error other =>
      constructor
      · intro same
        cases same
        exact Or.inl rfl
      · rintro (same | ⟨value, impossible, _⟩)
        · cases same
          rfl
        · cases impossible
  | ok value =>
      constructor
      · intro failed
        exact Or.inr ⟨value, rfl, failed⟩
      · rintro (impossible | ⟨other, same, failed⟩)
        · cases impossible
        · cases same
          exact failed

theorem bind_return_eq_ok {first : Except ε α} {also other : β} {value : α} :
    (first >>= fun found => pure (found, also)) = .ok (value, other) ↔
      first = .ok value ∧ other = also := by
  rw [bind_eq_ok]
  constructor
  · rintro ⟨found, returned, same⟩
    cases same
    exact ⟨returned, rfl⟩
  · rintro ⟨returned, rfl⟩
    exact ⟨value, returned, rfl⟩

theorem check_then_eq_ok {check : Except ε Unit} {next : Except ε α} {result : α} :
    (check >>= fun _ => next) = .ok result ↔ check = .ok () ∧ next = .ok result := by
  rw [bind_eq_ok]
  constructor
  · intro ⟨_, passed, finished⟩
    exact ⟨passed, finished⟩
  · intro ⟨passed, finished⟩
    exact ⟨(), passed, finished⟩

theorem check_then_eq_error {check : Except ε Unit} {next : Except ε α} {fault : ε} :
    (check >>= fun _ => next) = .error fault ↔
      check = .error fault ∨ check = .ok () ∧ next = .error fault := by
  rw [bind_eq_error]
  constructor
  · rintro (failed | ⟨_, passed, failed⟩)
    · exact Or.inl failed
    · exact Or.inr ⟨passed, failed⟩
  · rintro (failed | ⟨passed, failed⟩)
    · exact Or.inl failed
    · exact Or.inr ⟨(), passed, failed⟩

/-- What every step keeps, a run that returns has kept. -/
theorem foldlM_keeps {step : β → α → Except ε β} {kept : β → Prop} {items : List α}
    {start result : β}
    (stepKeeps : ∀ before item after, step before item = .ok after → kept before → kept after)
    (finished : items.foldlM step start = .ok result) (atStart : kept start) : kept result := by
  induction items generalizing start with
  | nil =>
      cases finished
      exact atStart
  | cons item rest ih =>
      rw [List.foldlM_cons] at finished
      obtain ⟨after, stepped, onward⟩ := bind_eq_ok.mp finished
      exact ih onward (stepKeeps start item after stepped atStart)

/-- Reading all items returns what each of them is read as. -/
theorem mapM_eq_ok_iff {read : α → Except ε β} {items : List α} {values : List β} :
    items.mapM read = .ok values ↔ items.map read = values.map Except.ok := by
  induction items generalizing values with
  | nil =>
      constructor
      · intro finished
        cases finished
        rfl
      · intro same
        rw [List.map_eq_nil_iff.mp same.symm]
        rfl
  | cons item rest ih =>
      constructor
      · intro finished
        rw [List.mapM_cons] at finished
        obtain ⟨value, first, onward⟩ := bind_eq_ok.mp finished
        obtain ⟨others, remaining, returned⟩ := bind_eq_ok.mp onward
        cases returned
        rw [List.map_cons, List.map_cons, first, ih.mp remaining]
      · intro same
        cases values with
        | nil => cases same
        | cons value others =>
            rw [List.map_cons, List.map_cons, List.cons.injEq] at same
            rw [List.mapM_cons, same.1, ok_bind, ih.mpr same.2]
            rfl

/-- The first item that cannot be read is the one reported. -/
theorem mapM_eq_error_iff {read : α → Except ε β} {items : List α} {fault : ε} :
    items.mapM read = .error fault ↔
      ∃ before item after, items = before ++ item :: after ∧
        (∀ earlier ∈ before, ∃ value, read earlier = .ok value) ∧ read item = .error fault := by
  induction items with
  | nil =>
      constructor
      · intro impossible
        cases impossible
      · rintro ⟨before, item, after, impossible, _⟩
        exact absurd impossible.symm (List.append_ne_nil_of_right_ne_nil _ (List.cons_ne_nil _ _))
  | cons head rest ih =>
      rw [List.mapM_cons, bind_eq_error]
      constructor
      · rintro (failed | ⟨value, first, onward⟩)
        · exact ⟨[], head, rest, rfl, nofun, failed⟩
        · have failed : rest.mapM read = .error fault := by
            rcases bind_eq_error.mp onward with failed | ⟨_, _, impossible⟩
            · exact failed
            · cases impossible
          obtain ⟨before, item, after, split, readBefore, atItem⟩ := ih.mp failed
          refine ⟨head :: before, item, after, by rw [split, List.cons_append], ?_, atItem⟩
          intro earlier member
          rcases List.mem_cons.mp member with rfl | inBefore
          · exact ⟨value, first⟩
          · exact readBefore earlier inBefore
      · rintro ⟨before, item, after, split, readBefore, atItem⟩
        cases before with
        | nil =>
            cases split
            exact Or.inl atItem
        | cons first before =>
            cases split
            obtain ⟨value, atFirst⟩ := readBefore head List.mem_cons_self
            refine Or.inr ⟨value, atFirst, bind_eq_error.mpr (Or.inl ?_)⟩
            refine ih.mpr ⟨before, item, after, rfl, fun earlier inBefore => ?_, atItem⟩
            exact readBefore earlier (List.mem_cons_of_mem _ inBefore)

theorem mem_mapM_iff {read : α → Except ε β} {items : List α} {values : List β}
    (finished : items.mapM read = .ok values) {value : β} :
    value ∈ values ↔ ∃ item ∈ items, read item = .ok value := by
  rw [← List.mem_map, mapM_eq_ok_iff.mp finished]
  simp only [List.mem_map, Except.ok.injEq, exists_eq_right]

theorem exists_of_mapM {read : α → Except ε β} {items : List α} {values : List β} {item : α}
    (finished : items.mapM read = .ok values) (member : item ∈ items) :
    ∃ value, read item = .ok value := by
  have inImage : read item ∈ values.map Except.ok := by
    rw [← mapM_eq_ok_iff.mp finished]
    exact List.mem_map_of_mem member
  obtain ⟨value, _, same⟩ := List.mem_map.mp inImage
  exact ⟨value, same.symm⟩

theorem exists_mapM_eq_ok {read : α → Except ε β} {items : List α}
    (readable : ∀ item ∈ items, ∃ value, read item = .ok value) :
    ∃ values, items.mapM read = .ok values := by
  cases outcome : items.mapM read with
  | ok values => exact ⟨values, rfl⟩
  | error fault =>
      obtain ⟨before, item, after, rfl, _, failed⟩ := mapM_eq_error_iff.mp outcome
      obtain ⟨value, returned⟩ := readable item (List.mem_append_right _ List.mem_cons_self)
      rw [failed] at returned
      contradiction

theorem exists_ok_of_outcome {outcome : Except ε α} {view : α → β} {seen : β}
    (computed : outcome.toOption.map view = some seen) :
    ∃ value, outcome = .ok value ∧ view value = seen := by
  cases outcome with
  | error fault => cases computed
  | ok value => exact ⟨value, rfl, Option.some.inj computed⟩

/-! ### Faults -/

/-- The computation ends with the expected fault, or returns where none is expected. With some
faults it is excused from both. -/
inductive Ends (excused : ε → Prop) : Option ε → Except ε α → Prop
  | fails (fault : ε) : Ends excused (some fault) (.error fault)
  | returns (value : α) : Ends excused none (.ok value)
  | excuses {expected : Option ε} {fault : ε} : excused fault →
      Ends excused expected (.error fault)

namespace Ends

variable {excused : ε → Prop} {expected later : Option ε} {first : Except ε α}
  {next : α → Except ε β}

/-- A sequence ends with the fault of its first part, or else with that of the second, when
the latter is the same whatever the first part returns. -/
theorem followed (ends : Ends excused expected first)
    (onward : ∀ value, first = .ok value → Ends excused later (next value)) :
    Ends excused (expected.or later) (first >>= next) := by
  cases ends with
  | fails fault => exact .fails fault
  | returns value => exact onward value rfl
  | excuses isExcused => exact .excuses isExcused

theorem quietly (ends : Ends excused expected first)
    (onward : ∀ value, first = .ok value → Ends excused none (next value)) :
    Ends excused expected (first >>= next) := by
  have both := ends.followed onward
  rwa [Option.or_none] at both

theorem behind (ends : Ends excused none first)
    (onward : ∀ value, first = .ok value → Ends excused later (next value)) :
    Ends excused later (first >>= next) :=
  ends.followed onward

end Ends

/-! ### Two computations side by side -/

/-- Both fail with the same fault, or both return and what they return is related. With some
faults the second is excused from keeping up with the first. -/
inductive InStep (excused : ε → Prop) (related : α → β → Prop) : Except ε α → Except ε β → Prop
  | fails (fault : ε) : InStep excused related (.error fault) (.error fault)
  | returns {left : α} {right : β} : related left right →
      InStep excused related (.ok left) (.ok right)
  | excuses {left : Except ε α} {fault : ε} : excused fault →
      InStep excused related left (.error fault)

namespace InStep

variable {γ δ : Type} {excused : ε → Prop} {related : α → β → Prop} {later : γ → δ → Prop}
  {left : Except ε α} {right : Except ε β} {onLeft : α → Except ε γ} {onRight : β → Except ε δ}

theorem followed (inStep : InStep excused related left right)
    (onward : ∀ first second, left = .ok first → right = .ok second → related first second →
      InStep excused later (onLeft first) (onRight second)) :
    InStep excused later (left >>= onLeft) (right >>= onRight) := by
  cases inStep with
  | fails fault => exact .fails fault
  | returns areRelated => exact onward _ _ rfl rfl areRelated
  | excuses isExcused => exact .excuses isExcused

/-- What is related when both return may be sharpened by how each returned. -/
theorem sharpen {also : α → β → Prop} (inStep : InStep excused related left right)
    (sharper : ∀ first second, left = .ok first → right = .ok second → related first second →
      also first second) : InStep excused also left right := by
  cases inStep with
  | fails fault => exact .fails fault
  | returns areRelated => exact .returns (sharper _ _ rfl rfl areRelated)
  | excuses isExcused => exact .excuses isExcused

theorem weaken {also : α → β → Prop} (inStep : InStep excused related left right)
    (weaker : ∀ first second, related first second → also first second) :
    InStep excused also left right :=
  inStep.sharpen fun first second _ _ areRelated => weaker first second areRelated

/-- A computation keeps up with itself. -/
theorem same {outcome : Except ε α} {also : α → α → Prop}
    (reflects : ∀ value, outcome = .ok value → also value value) :
    InStep excused also outcome outcome := by
  cases outcome with
  | error fault => exact .fails fault
  | ok value => exact .returns (reflects value rfl)

end InStep

/-! ### Specifications -/

/-- The computation fails exactly with the faults there is a reason for, and
what it returns is good. -/
structure Answers (outcome : Except ε α) (reason : ε → Prop) (good : α → Prop) : Prop where
  fails : ∀ fault, outcome = .error fault ↔ reason fault
  returns : ∀ value, outcome = .ok value → good value

namespace Answers

variable {first : Except ε α} {next : α → Except ε β} {reason : ε → Prop}
  {good : α → Prop} {better : β → Prop}

theorem of_ok {value : α} (returned : first = .ok value) (isGood : good value)
    (noReason : ∀ fault, ¬reason fault) : Answers first reason good := by
  subst returned
  refine { fails := ?_, returns := ?_ }
  · intro fault
    simp only [reduceCtorEq, false_iff]
    exact noReason fault
  · intro other same
    cases same
    exact isGood

theorem of_error {fault : ε} (failed : first = .error fault)
    (only : ∀ other, reason other ↔ other = fault) : Answers first reason good := by
  subst failed
  refine { fails := ?_, returns := ?_ }
  · intro other
    rw [only, Except.error.injEq]
    exact eq_comm
  · intro value impossible
    cases impossible

theorem followed (answers : Answers first reason good)
    (total : ∀ value, first = .ok value → good value →
      ∃ result, next value = .ok result ∧ better result) :
    Answers (first >>= next) reason better := by
  cases outcome : first with
  | error fault =>
      apply of_error rfl
      intro other
      rw [← answers.fails, outcome, Except.error.injEq]
      exact eq_comm
  | ok value =>
      obtain ⟨result, returned, isBetter⟩ := total value outcome (answers.returns value outcome)
      apply of_ok returned isBetter
      intro fault isReason
      have failed := (answers.fails fault).mpr isReason
      rw [outcome] at failed
      cases failed

end Answers

end JitSnapshot
