import JitSnapshot.Proofs.Source.Candidates

set_option autoImplicit false

/-!
Positions in preorder. A function takes one position, and all that is reached
from it takes the positions right behind; so the positions of its candidates
are known before anything is built, and each candidate has an interval of
positions of its own.
-/

namespace JitSnapshot

structure Placed where
  step : Step
  function : SourceFunction
  position : Nat

def Placed.stop (placed : Placed) : Nat :=
  placed.position + placed.function.reached.length

def place (first : Nat) : List (Step × SourceFunction) → List Placed
  | [] => []
  | (step, function) :: rest =>
      { step, function, position := first } :: place (first + function.reached.length) rest

def SourceFunction.placed (function : SourceFunction) (first : Nat) : List Placed :=
  place (first + 1) function.branches.toList

variable {captures : List (Step × SourceFunction)} {first position : Nat} {placed other : Placed}

theorem place_append (first : Nat) (front back : List (Step × SourceFunction)) :
    place first (front ++ back) =
      place first front ++ place (first + (SourceFunction.reachedFrom front).length) back := by
  induction front generalizing first with
  | nil => rfl
  | cons capture rest ih =>
      simp only [List.cons_append, place, ih, SourceFunction.reachedFrom_cons, List.length_append,
        Nat.add_assoc]

theorem exists_mem_place {step : Step} {function : SourceFunction} :
    (step, function) ∈ captures ↔
      ∃ position, { step, function, position } ∈ place first captures := by
  induction captures generalizing first with
  | nil =>
      simp only [place, List.not_mem_nil, exists_false]
  | cons capture rest ih =>
      simp only [place, List.mem_cons, Placed.mk.injEq, exists_or]
      refine or_congr ?_ ih
      constructor
      · rintro rfl
        exact ⟨first, rfl, rfl, rfl⟩
      · rintro ⟨_, rfl, rfl, _⟩
        rfl

theorem place_within (member : placed ∈ place first captures) :
    first ≤ placed.position ∧
      placed.stop ≤ first + (SourceFunction.reachedFrom captures).length := by
  induction captures generalizing first with
  | nil => cases member
  | cons capture rest ih =>
      rw [SourceFunction.reachedFrom_cons, List.length_append]
      rcases List.mem_cons.mp member with rfl | later
      · simp only [Placed.stop]
        omega
      · obtain ⟨behind, inside⟩ := ih later
        omega

theorem place_unique (atPlaced : placed ∈ place first captures)
    (atOther : other ∈ place first captures) (lower : placed.position ≤ position)
    (upper : position < placed.stop) (otherLower : other.position ≤ position)
    (otherUpper : position < other.stop) : placed = other := by
  induction captures generalizing first with
  | nil => cases atPlaced
  | cons capture rest ih =>
      rcases List.mem_cons.mp atPlaced with rfl | placedLater
      · rcases List.mem_cons.mp atOther with rfl | otherLater
        · rfl
        · have behind := (place_within otherLater).1
          simp only [Placed.stop] at upper
          omega
      · rcases List.mem_cons.mp atOther with rfl | otherLater
        · have behind := (place_within placedLater).1
          simp only [Placed.stop] at otherUpper
          omega
        · exact ih placedLater otherLater

theorem place_covers (lower : first ≤ position)
    (upper : position < first + (SourceFunction.reachedFrom captures).length) :
    ∃ placed ∈ place first captures, placed.position ≤ position ∧ position < placed.stop := by
  induction captures generalizing first with
  | nil =>
      rw [SourceFunction.reachedFrom_nil, List.length_nil] at upper
      omega
  | cons capture rest ih =>
      rw [SourceFunction.reachedFrom_cons, List.length_append] at upper
      by_cases inHead : position < first + capture.2.reached.length
      · exact ⟨_, List.mem_cons_self, lower, inHead⟩
      · obtain ⟨placed, member, within⟩ :=
          ih (Nat.not_lt.mp inHead) (by omega)
        exact ⟨placed, List.mem_cons_of_mem _ member, within⟩

namespace SourceFunction

variable {function candidate : SourceFunction} {step : Step}

theorem captured?_eq_some_iff (first : Nat) :
    function.captured? step = some candidate ↔
      ∃ position, { step, function := candidate, position } ∈ function.placed first := by
  rw [← mem_branches]
  exact exists_mem_place

theorem placed_within (member : placed ∈ function.placed first) :
    first < placed.position ∧ placed.stop ≤ first + function.reached.length := by
  have within := place_within member
  rw [reached_length]
  omega

theorem placed_unique (atPlaced : placed ∈ function.placed first)
    (atOther : other ∈ function.placed first) (lower : placed.position ≤ position)
    (upper : position < placed.stop) (otherLower : other.position ≤ position)
    (otherUpper : position < other.stop) : placed = other :=
  place_unique atPlaced atOther lower upper otherLower otherUpper

theorem placed_covers (behind : first < position)
    (upper : position < first + function.reached.length) :
    ∃ placed ∈ function.placed first, placed.position ≤ position ∧ position < placed.stop := by
  rw [reached_length] at upper
  exact place_covers behind (by omega)

end SourceFunction

end JitSnapshot
