import JitSnapshot.Proofs.View.Navigation

set_option autoImplicit false

/-!
Chains of candidates end. In a tree the nodes of a chain differ from one
another, so there are at most as many as the arena has nodes, and whoever goes
through a chain candidate by candidate comes to its end.
-/

namespace JitSnapshot

/-- Taking candidates off a chain gives these, one after another, and then no more. -/
inductive Chain.Lists : Chain → List View → Prop where
  | done {chain : Chain} : chain.take? = .ok none → Lists chain []
  | more {chain rest : Chain} {view : View} {views : List View} :
      chain.take? = .ok (some (view, rest)) → Lists rest views → Lists chain (view :: views)

namespace Chain

variable {chain : Chain} {views : List View}

theorem lists_none : Lists ⟨none⟩ [] :=
  .done rfl

namespace Lists

private theorem upTo_eq (lists : chain.Lists views) {limit : Nat} (enough : views.length ≤ limit) :
    chain.upTo limit = .ok views := by
  induction lists generalizing limit with
  | done ended =>
      cases limit with
      | zero => rfl
      | succ limit =>
          rw [upTo, ended]
          rfl
  | more taken _ ih =>
      cases limit with
      | zero => simp at enough
      | succ limit =>
          rw [upTo, taken, ok_bind]
          simp only [ih (Nat.le_of_succ_le_succ enough), ok_bind]
          rfl

private theorem findWithin_eq (lists : chain.Lists views) {test : View → Except ViewError Bool}
    {passes : View → Bool} (answers : ∀ view ∈ views, test view = .ok (passes view))
    {fuel : Nat} (enough : views.length < fuel) :
    chain.findWithin test fuel = .ok (views.find? passes) := by
  induction lists generalizing fuel with
  | done ended =>
      cases fuel with
      | zero => simp at enough
      | succ fuel =>
          rw [findWithin, ended]
          rfl
  | @more chain rest view views taken _ ih =>
      cases fuel with
      | zero => simp at enough
      | succ fuel =>
          rw [findWithin, taken, ok_bind]
          simp only [answers view List.mem_cons_self, ok_bind]
          cases passed : passes view with
          | true =>
              rw [List.find?_cons_of_pos passed]
              rfl
          | false =>
              rw [List.find?_cons_of_neg (by simp [passed])]
              exact ih (fun other member => answers other (List.mem_cons_of_mem _ member))
                (Nat.lt_of_succ_lt_succ enough)

theorem unique (lists : chain.Lists views) {other : List View} (also : chain.Lists other) :
    views = other := by
  have first := lists.upTo_eq (Nat.le_max_left views.length other.length)
  have second := also.upTo_eq (Nat.le_max_right views.length other.length)
  exact Except.ok.inj (first.symm.trans second)

end Lists

end Chain

namespace View

variable {view : View}

theorem take?_chain {next : Option View} (answered : view.next? = .ok next) :
    view.chain.take? = .ok (some (view, { front := next })) := by
  simp only [Chain.take?, chain, answered, ok_bind]
  rfl

/-- A chain that starts at a sound view ends, and everything on it is sound. -/
theorem Sound.chain_lists (sound : view.Sound) :
    ∃ views, view.chain.Lists views ∧ views.length ≤ view.arena.size ∧
      ∀ candidate ∈ views, candidate.Sound ∧ candidate.arena = view.arena := by
  -- The number of successors taken so far counts up to the size of the arena.
  have onward (room : Nat) : ∀ (taken : Nat) (candidate : View),
      candidate.Sound → candidate.arena = view.arena →
      view.arena.endOf? view.id (List.replicate taken .next) = some candidate.id →
      view.arena.size - taken ≤ room →
      ∃ views, candidate.chain.Lists views ∧ views.length ≤ room ∧
        ∀ other ∈ views, other.Sound ∧ other.arena = view.arena := by
    induction room with
    | zero =>
        intro taken candidate _ _ ends noRoom
        have short := sound.path_length_lt ends
        rw [List.length_replicate] at short
        omega
    | succ room ih =>
        intro taken candidate candidateSound sameArena ends enough
        obtain ⟨next, answered, _, follows⟩ := candidateSound.next?_eq_ok
        cases next with
        | none =>
            refine ⟨[candidate], .more (take?_chain answered) Chain.lists_none, ?_, ?_⟩
            · simp
            · intro other member
              rw [List.mem_singleton.mp member]
              exact ⟨candidateSound, sameArena⟩
        | some next =>
            have toNext := follows next rfl
            have nextEnds : view.arena.endOf? view.id (List.replicate (taken + 1) .next) =
                some next.id := by
              rw [List.replicate_succ', Arena.endOf?_snoc, ends, Option.bind_some,
                ← sameArena]
              exact toNext.child
            obtain ⟨views, lists, few, all⟩ := ih (taken + 1) next
              (candidateSound.follows toNext) (toNext.arena.trans sameArena) nextEnds (by omega)
            refine ⟨candidate :: views, .more (take?_chain answered) lists, ?_, ?_⟩
            · simp only [List.length_cons]
              omega
            · intro other member
              rcases List.mem_cons.mp member with rfl | later
              · exact ⟨candidateSound, sameArena⟩
              · exact all other later
  exact onward view.arena.size 0 view sound rfl rfl (Nat.sub_le _ _)

theorem Sound.candidates_eq_ok (sound : view.Sound) :
    ∃ views, view.chain.Lists views ∧ view.candidates = .ok views := by
  obtain ⟨views, lists, few, _⟩ := sound.chain_lists
  refine ⟨views, lists, ?_⟩
  rw [candidates, lists.upTo_eq (Nat.le_succ_of_le few), ok_bind, if_neg (Nat.not_lt.mpr few)]
  rfl

theorem Sound.findCandidate?_eq_ok (sound : view.Sound)
    {test : View → Except ViewError Bool} {passes : View → Bool}
    (answers : ∀ candidate : View, candidate.Sound → test candidate = .ok (passes candidate)) :
    ∃ views, view.chain.Lists views ∧ (∀ candidate ∈ views, candidate.Sound) ∧
      view.findCandidate? test = .ok (views.find? passes) := by
  obtain ⟨views, lists, few, all⟩ := sound.chain_lists
  refine ⟨views, lists, fun candidate member => (all candidate member).1, ?_⟩
  exact lists.findWithin_eq (fun candidate member => answers candidate (all candidate member).1)
    (Nat.lt_succ_of_le few)

end View

end JitSnapshot
