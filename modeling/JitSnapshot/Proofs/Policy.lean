import JitSnapshot.Configuration
import JitSnapshot.Proofs.Phase.Enabling
import JitSnapshot.Proofs.View.Navigation

set_option autoImplicit false

/-!
The loop-body policy while its configuration is added to. Phases that are
switched off can only turn its answer to no, phases that are forced only to yes,
and phases enabled for other functions are nothing to it.
-/

namespace JitSnapshot

namespace Configuration

/-- The loop bodies of the function are to be compiled on their own: nothing forbids it, and
something asks for it. -/
structure WantsLoopBody (configuration : Configuration) (key : FunctionKey) (body : BodyRecord) :
    Prop where
  loopBodyOn : ¬configuration.off.contains .loopBody key = true
  fullJitOn : ¬configuration.off.contains .fullJit key = true
  noGenerator : ¬body.isGenerator = true
  noTry : ¬body.hasTry = true
  reason : configuration.force.contains .loopBody key = true ∨ configuration.prejit = true

def switchOff (configuration : Configuration) (requests : List Enabling) : Configuration :=
  { configuration with off := configuration.off.enableAll requests }

def forceAlso (configuration : Configuration) (requests : List Enabling) : Configuration :=
  { configuration with force := configuration.force.enableAll requests }

namespace WantsLoopBody

variable {configuration other : Configuration} {key : FunctionKey} {body : BodyRecord}
  {requests : List Enabling}

/-- Another configuration wants what this one does if it switches off no more for the function
and forces no less. -/
theorem weaken (wants : configuration.WantsLoopBody key body)
    (off : ∀ query, other.off.contains query key = true →
      configuration.off.contains query key = true)
    (force : ∀ query, configuration.force.contains query key = true →
      other.force.contains query key = true)
    (prejit : configuration.prejit = true → other.prejit = true) :
    other.WantsLoopBody key body :=
  { loopBodyOn := fun isOff => wants.loopBodyOn (off .loopBody isOff)
    fullJitOn := fun isOff => wants.fullJitOn (off .fullJit isOff)
    noGenerator := wants.noGenerator
    noTry := wants.noTry
    reason := wants.reason.imp (force .loopBody) prejit }

theorem of_switchOff (wants : (configuration.switchOff requests).WantsLoopBody key body) :
    configuration.WantsLoopBody key body :=
  wants.weaken (fun _ isOff => PhaseList.contains_enableAll isOff requests) (fun _ => id) id

theorem forceAlso (wants : configuration.WantsLoopBody key body) (requests : List Enabling) :
    (configuration.forceAlso requests).WantsLoopBody key body :=
  wants.weaken (fun _ => id) (fun _ forced => PhaseList.contains_enableAll forced requests) id

theorem prejit (wants : configuration.WantsLoopBody key body) :
    { configuration with prejit := true : Configuration }.WantsLoopBody key body :=
  wants.weaken (fun _ => id) (fun _ => id) fun _ => rfl

theorem concerning_iff {off force : List Enabling} :
    ((configuration.switchOff (Enabling.concerning key off)).forceAlso
        (Enabling.concerning key force)).WantsLoopBody key body ↔
      ((configuration.switchOff off).forceAlso force).WantsLoopBody key body := by
  have sameOff := configuration.off.contains_enableAll_concerning off
  have sameForce := configuration.force.contains_enableAll_concerning force
  constructor
  · intro wants
    exact wants.weaken (fun query => (sameOff query key).trans)
      (fun query => (sameForce query key).symm.trans) id
  · intro wants
    exact wants.weaken (fun query => (sameOff query key).symm.trans)
      (fun query => (sameForce query key).trans) id

end WantsLoopBody

end Configuration

namespace View

variable {view : View} {body : BodyRecord}

theorem exists_forcesLoopBody (present : view.body? = .ok (some body))
    (configuration : Configuration) :
    ∃ answer, view.forcesLoopBody configuration = .ok answer ∧
      (answer = true ↔ configuration.WantsLoopBody (view.keyWith body) body) := by
  refine ⟨configuration.admitsLoopBody (view.keyWith body) body &&
    (configuration.isForced .loopBody (view.keyWith body) || configuration.prejit), ?_, ?_⟩
  · rw [forcesLoopBody, bodyFor_eq_ok present]
    rfl
  · simp only [Configuration.admitsLoopBody, Configuration.isOff, Configuration.isForced,
      Bool.and_eq_true, Bool.or_eq_true, Bool.not_eq_true', ← Bool.not_eq_true]
    constructor
    · rintro ⟨⟨⟨⟨loopBodyOn, fullJitOn⟩, noGenerator⟩, noTry⟩, reason⟩
      exact { loopBodyOn, fullJitOn, noGenerator, noTry, reason }
    · intro wants
      exact ⟨⟨⟨⟨wants.loopBodyOn, wants.fullJitOn⟩, wants.noGenerator⟩, wants.noTry⟩,
        wants.reason⟩

/-- The policy answers for every function with a body. What is switched off never makes it force
loop bodies that it did not force, what is forced and early compilation never keep it from those
that it did, and requests for other functions may be left out of either list. -/
theorem forcesLoopBody_monotone (present : view.body? = .ok (some body)) :
    let own : FunctionKey := { source := body.sourceContext, localFunction := view.localFunction }
    (∀ configuration : Configuration, ∃ answer, view.forcesLoopBody configuration = .ok answer ∧
        (answer = true ↔ configuration.WantsLoopBody own body)) ∧
      (∀ (configuration : Configuration) (requests : List Enabling),
        (view.forcesLoopBody (configuration.switchOff requests) = .ok true →
            view.forcesLoopBody configuration = .ok true) ∧
          (view.forcesLoopBody configuration = .ok true →
            view.forcesLoopBody (configuration.forceAlso requests) = .ok true ∧
              view.forcesLoopBody { configuration with prejit := true } = .ok true)) ∧
      ∀ (configuration : Configuration) (off force : List Enabling),
        view.forcesLoopBody ((configuration.switchOff (Enabling.concerning own off)).forceAlso
            (Enabling.concerning own force)) =
          view.forcesLoopBody ((configuration.switchOff off).forceAlso force) := by
  intro own
  have answers := exists_forcesLoopBody present
  have forces_iff (configuration : Configuration) :
      view.forcesLoopBody configuration = .ok true ↔ configuration.WantsLoopBody own body := by
    obtain ⟨answer, answered, wants⟩ := answers configuration
    rw [answered, Except.ok.injEq]
    exact wants
  refine ⟨answers, fun configuration requests => ?_, fun configuration off force => ?_⟩
  · simp only [forces_iff]
    exact ⟨.of_switchOff, fun wants => ⟨wants.forceAlso requests, wants.prejit⟩⟩
  · obtain ⟨fewer, answeredFewer, wantsFewer⟩ := answers
      ((configuration.switchOff (Enabling.concerning own off)).forceAlso
        (Enabling.concerning own force))
    obtain ⟨all, answeredAll, wantsAll⟩ :=
      answers ((configuration.switchOff off).forceAlso force)
    rw [answeredFewer, answeredAll, Except.ok.injEq, Bool.eq_iff_iff, wantsFewer, wantsAll]
    exact Configuration.WantsLoopBody.concerning_iff

/-- A node for the third function of the twelfth source. -/
def thirdOfTwelfth : View :=
  { arena :=
      { nodes := #[{ body := some ⟨0⟩, localFunction := ⟨3⟩ }]
        bodies := #[{ sourceContext := ⟨12⟩ }] }
    home := 0
    id := ⟨0⟩
    record := { body := some ⟨0⟩, localFunction := ⟨3⟩ }
    found := rfl }

def forcedAlone : Configuration :=
  { force := PhaseList.empty.enableFor .loopBody { source := ⟨12⟩, localFunction := ⟨3⟩ } }

/-- Requests for the next function of the source, and for the third of the next source. -/
def neighbours : List Enabling :=
  [.single .loopBody { source := ⟨12⟩, localFunction := ⟨4⟩ },
    .single .fullJit { source := ⟨13⟩, localFunction := ⟨3⟩ }]

theorem forcesLoopBody_monotone_neighbours :
    thirdOfTwelfth.body? = .ok (some { sourceContext := ⟨12⟩ }) ∧
      thirdOfTwelfth.forcesLoopBody (forcedAlone.switchOff neighbours) = .ok true ∧
      thirdOfTwelfth.forcesLoopBody forcedAlone = .ok true ∧
      thirdOfTwelfth.forcesLoopBody (forcedAlone.forceAlso neighbours) = .ok true := by
  have present : thirdOfTwelfth.body? = .ok (some { sourceContext := ⟨12⟩ }) := rfl
  obtain ⟨_, monotone, apart⟩ := forcesLoopBody_monotone present
  have forced : thirdOfTwelfth.forcesLoopBody forcedAlone = .ok true := by rfl
  have still : thirdOfTwelfth.forcesLoopBody (forcedAlone.switchOff neighbours) = .ok true :=
    (apart forcedAlone neighbours []).symm.trans forced
  exact ⟨present, still, (monotone forcedAlone neighbours).1 still,
    ((monotone forcedAlone neighbours).2 forced).1⟩

end View

end JitSnapshot
