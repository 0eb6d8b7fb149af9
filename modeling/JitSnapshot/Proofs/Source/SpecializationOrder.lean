import JitSnapshot.Build.State
import JitSnapshot.Proofs.Source.Candidates

set_option autoImplicit false

/-!
The order in which a snapshot takes the type specializations of the functions
it captures. A function comes behind all that is captured below its call sites,
and before all that is captured below its caches and behind it. These are the
functions that are reached in preorder, each as often.
-/

namespace JitSnapshot.SourceFunction

mutual

/-- The functions a snapshot has to capture, each between what is below its call sites and
what is below its caches. -/
def specialized : SourceFunction → List SourceFunction
  | ⟨facts, inlinees, fieldInlinees, next⟩ =>
      match facts.body with
      | none => [⟨facts, inlinees, fieldInlinees, next⟩]
      | some body =>
          specializedAmong body.record.callSiteCount.toNat inlinees ++
            ⟨facts, inlinees, fieldInlinees, next⟩ ::
              (specializedAmong body.record.cacheCount.toNat fieldInlinees ++
                specializedAt next)

def specializedAmong (count : Nat) : List (Option SourceFunction) → List SourceFunction
  | [] => []
  | slot :: rest =>
      match count with
      | 0 => []
      | count + 1 => specializedAt slot ++ specializedAmong count rest

def specializedAt : Option SourceFunction → List SourceFunction
  | none => []
  | some function => specialized function

end

mutual

theorem specialized_perm : (function : SourceFunction) →
    function.specialized.Perm function.reached
  | ⟨facts, inlinees, fieldInlinees, next⟩ => by
      rw [specialized, reached]
      cases facts.body with
      | none => exact .refl _
      | some body =>
          refine List.perm_middle.trans (.cons _ ?_)
          exact (specializedAmong_perm _ inlinees).append
            ((specializedAmong_perm _ fieldInlinees).append (specializedAt_perm next))

private theorem specializedAmong_perm (count : Nat) : (slots : List (Option SourceFunction)) →
    (specializedAmong count slots).Perm (reachedAmong count slots)
  | [] => by
      rw [specializedAmong, reachedAmong]
  | slot :: rest => by
      cases count with
      | zero => rw [specializedAmong, reachedAmong]
      | succ count =>
          rw [specializedAmong, reachedAmong]
          exact (specializedAt_perm slot).append (specializedAmong_perm count rest)

private theorem specializedAt_perm : (slot : Option SourceFunction) →
    (specializedAt slot).Perm (reachedAt slot)
  | none => by
      rw [specializedAt, reachedAt]
  | some function => by
      rw [specializedAt, reachedAt]
      exact specialized_perm function

end

end JitSnapshot.SourceFunction
