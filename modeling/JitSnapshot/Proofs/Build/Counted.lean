import JitSnapshot.Proofs.Build.Reads

set_option autoImplicit false

/-!
The counts of requests for runtime contexts, taken over a tree of functions.
Each body that is reached has been asked once for each candidate that is
captured from it, all others have not been asked, and of the runtime contexts
only the one given to an inlinee has.
-/

namespace JitSnapshot

/-! ### Counts -/

namespace ReadCounts

def of? (counts : ReadCounts) : Read → Option Nat
  | .ofBody label => counts.bodies[label]?
  | .ofContext label => counts.contexts[label]?

private theorem of?_add (counts : ReadCounts) (noted read : Read) :
    (counts.add noted).of? read =
      (counts.of? read).map fun count => count + [noted].count read := by
  cases noted with
  | ofBody asked =>
      cases read with
      | ofContext label => simp [of?, add]
      | ofBody label =>
          by_cases same : asked = label
          · simp [of?, add, Array.getElem?_modify, same]
          · simp [of?, add, Array.getElem?_modify, same]
  | ofContext asked =>
      cases read with
      | ofBody label => simp [of?, add]
      | ofContext label =>
          by_cases same : asked = label
          · simp [of?, add, Array.getElem?_modify, same]
          · simp [of?, add, Array.getElem?_modify, same]

private theorem of?_foldl_add (counts : ReadCounts) (reads : List Read) (read : Read) :
    (reads.foldl add counts).of? read =
      (counts.of? read).map fun count => count + reads.count read := by
  induction reads generalizing counts with
  | nil => exact Option.map_id_apply.symm
  | cons noted rest ih =>
      have parts : (noted :: rest).count read = [noted].count read + rest.count read := by
        rw [← List.count_append, List.singleton_append]
      rw [List.foldl_cons, ih, of?_add, Option.map_map, parts]
      simp only [Function.comp_def, Nat.add_assoc]

private theorem ofBody_ofReads {labels : Labels} {label : Nat} (within : label < labels.bodies)
    (reads : List Read) :
    (ofReads labels reads).of? (.ofBody label) = some (reads.count (.ofBody label)) := by
  have zeroed : (zero labels).of? (.ofBody label) = some 0 := by
    simp only [of?, zero, Array.getElem?_replicate, if_pos within]
  rw [ofReads, of?_foldl_add, zeroed, Option.map_some, Nat.zero_add]

private theorem ofContext_ofReads {labels : Labels} {label : Nat} (within : label < labels.contexts)
    (reads : List Read) :
    (ofReads labels reads).of? (.ofContext label) = some (reads.count (.ofContext label)) := by
  have zeroed : (zero labels).of? (.ofContext label) = some 0 := by
    simp only [of?, zero, Array.getElem?_replicate, if_pos within]
  rw [ofReads, of?_foldl_add, zeroed, Option.map_some, Nat.zero_add]

end ReadCounts

/-! ### Requests of labelled functions -/

namespace SourceFunction

variable {function : SourceFunction} {labels : Labels} {read : Read}

private theorem mem_requestsBelow {captures : List (Step × SourceFunction)} :
    read ∈ requestsBelow captures ↔ ∃ capture ∈ captures, read ∈ capture.2.allRequests := by
  induction captures with
  | nil => simp [requestsBelow_nil]
  | cons capture rest ih =>
      rw [requestsBelow_cons, List.mem_append, ih]
      simp only [List.mem_cons, exists_eq_or_imp]

private theorem requests_labelled_bodyless (bodyless : function.facts.body = none)
    (own : Option RuntimeContext) : (function.labelled labels).1.requests own = [] := by
  rw [requests, labelled_facts, FunctionFacts.labelled_bodyless bodyless]
  simp only [bodyless]

private theorem requests_labelled {body : SourceBody} (hasBody : function.facts.body = some body)
    (own : Option RuntimeContext) : (function.labelled labels).1.requests own =
      List.replicate function.captureCount
        ({ body := (body.labelled labels).1, own } : RuntimeKeeper).read := by
  rw [requests, labelled_facts, FunctionFacts.labelled_body hasBody]
  simp only [captureCount_labelled]

/-- Only bodies are asked, and only those that have been labelled with the function. -/
def AsksWithin (function : SourceFunction) : Prop :=
  ∀ labels read, read ∈ (function.labelled labels).1.allRequests →
    ∃ label, read = .ofBody label ∧ labels.bodies ≤ label ∧
      label < (function.labelled labels).2.bodies

/-- The label of a function's own body is not among those labelled below it. -/
private theorem below_within
    (each : ∀ candidate, function.HasCandidate candidate → candidate.AsksWithin)
    (asks : read ∈ requestsBelow (function.labelled labels).1.branches.toList) :
    ∃ label, read = .ofBody label ∧ (function.facts.labelled labels).2.bodies ≤ label ∧
      label < (function.labelled labels).2.bodies := by
  obtain ⟨⟨step, candidate⟩, member, asks⟩ := mem_requestsBelow.mp asks
  have captured := mem_branches.mp member
  rcases captured?_labelled_cases labels function step with ⟨_, nothing⟩ | found
  · cases nothing.symm.trans captured
  · obtain ⟨below, inNumber, rfl, unlabelled, same⟩ := found
    cases same.symm.trans captured
    obtain ⟨label, isBody, lower, upper⟩ :=
      each below.value (hasCandidate_of_captured unlabelled) below.first read asks
    obtain ⟨inside, stops⟩ := labelling.within labels inNumber
    exact ⟨label, isBody, inside.1.trans lower, upper.trans_le stops.1⟩

theorem asksWithin (function : SourceFunction) : function.AsksWithin := by
  induction function using candidate_induction with
  | pass function ih =>
      intro labels read asks
      rcases List.mem_append.mp asks with own | below
      · cases hasBody : function.facts.body with
        | none =>
            rw [requests_labelled_bodyless hasBody] at own
            cases own
        | some body =>
            rw [requests_labelled hasBody] at own
            exact ⟨labels.bodies, (List.mem_replicate.mp own).2, le_rfl, label_lt hasBody⟩
      · obtain ⟨label, isBody, lower, upper⟩ := below_within ih below
        exact ⟨label, isBody, (function.facts.le_labelled labels).1.trans lower, upper⟩

/-! ### Counted along paths -/

/-- Requests that are made behind one step only are made where it leads. -/
private theorem count_requestsBelow {captures : List (Step × SourceFunction)} {step : Step}
    {candidate : SourceFunction} (nodup : (captures.map Prod.fst).Nodup)
    (member : (step, candidate) ∈ captures)
    (elsewhere : ∀ other ∈ captures, other.1 ≠ step → read ∉ other.2.allRequests) :
    (requestsBelow captures).count read = candidate.allRequests.count read := by
  obtain ⟨front, back, rfl⟩ := List.append_of_mem member
  rw [List.map_append, List.map_cons, List.nodup_middle, List.nodup_cons] at nodup
  have none_in {others : List (Step × SourceFunction)} (inside : others ⊆ front ++ back) :
      (requestsBelow others).count read = 0 := by
    apply List.count_eq_zero.mpr
    intro asks
    obtain ⟨other, inOthers, asks⟩ := mem_requestsBelow.mp asks
    have inBoth := inside inOthers
    refine elsewhere other ?_ ?_ asks
    · rw [List.mem_append, List.mem_cons]
      rcases List.mem_append.mp inBoth with inFront | inBack
      · exact Or.inl inFront
      · exact Or.inr (Or.inr inBack)
    · intro same
      apply nodup.1
      rw [← List.map_append, ← same]
      exact List.mem_map.mpr ⟨other, inBoth, rfl⟩
  rw [requestsBelow_append, requestsBelow_cons, List.count_append, List.count_append,
    none_in (List.subset_append_left _ _), none_in (List.subset_append_right _ _),
    Nat.zero_add, Nat.add_zero]

/-- Who is labelled behind a step is asked there, if the step is captured, and else nowhere. -/
private theorem count_below {below : Numbered SourceFunction Labels} {label : Nat}
    (member : below ∈ number labelled (function.facts.labelled labels).2 function.hanging.toList)
    (lower : below.first.bodies ≤ label) (upper : label < (below.stop labelled).bodies) :
    (requestsBelow (function.labelled labels).1.branches.toList).count (.ofBody label) =
      if (function.captured? below.step).isSome then
        (below.value.labelled below.first).1.allRequests.count (.ofBody label)
      else 0 := by
  have elsewhere : ∀ other ∈ (function.labelled labels).1.branches.toList,
      other.1 ≠ below.step → .ofBody label ∉ other.2.allRequests := by
    rintro ⟨step, candidate⟩ inBranches differ asks
    have captured := mem_branches.mp inBranches
    rcases captured?_labelled_cases labels function step with ⟨_, nothing⟩ | found
    · cases nothing.symm.trans captured
    · obtain ⟨there, inNumber, rfl, _, same⟩ := found
      cases same.symm.trans captured
      obtain ⟨_, isLabel, above, under⟩ := there.value.asksWithin _ _ asks
      cases isLabel
      have apart := (number_pairwise labelling.grows).forall inNumber member
        fun equal => differ (congrArg Numbered.step equal)
      rcases apart with before | behind
      · exact absurd (under.trans_le before.1) (Nat.not_lt.mpr lower)
      · exact absurd (upper.trans_le behind.1) (Nat.not_lt.mpr above)
  rcases captured?_labelled_cases labels function below.step with ⟨before, after⟩ | found
  · rw [before]
    apply List.count_eq_zero.mpr
    intro asks
    obtain ⟨other, inBranches, asks⟩ := mem_requestsBelow.mp asks
    refine elsewhere other inBranches ?_ asks
    intro same
    cases after.symm.trans (same ▸ mem_branches.mp inBranches)
  · obtain ⟨there, inNumber, sameStep, before, after⟩ := found
    cases numbered_unique inNumber member sameStep
    rw [before, count_requestsBelow (Branches.toList_steps_nodup _) (mem_branches.mpr after)
      elsewhere]
    rfl

/-- What a path over any candidates leads to is captured if the path leaves only functions with
a body and takes only steps that the body counts. -/
private theorem follow?_cons {below : Numbered SourceFunction Labels} {rest : Path}
    (member : below ∈ number labelled (function.facts.labelled labels).2 function.hanging.toList) :
    function.follow? (below.step :: rest) =
      if (function.captured? below.step).isSome then below.value.follow? rest else none := by
  have onward : function.follow? (below.step :: rest) =
      (function.captured? below.step).bind (·.follow? rest) := rfl
  rw [onward]
  rcases captured?_labelled_cases labels function below.step with ⟨before, _⟩ | found
  · rw [before]
    rfl
  · obtain ⟨there, inNumber, sameStep, before, _⟩ := found
    cases numbered_unique inNumber member sameStep
    rw [before]
    rfl

variable {target : SourceFunction} {body : SourceBody} {start : Labels} {path : Path}

/-- Behind one step, a body is asked as often as there. -/
private theorem count_onward {below : Numbered SourceFunction Labels} {rest : Path}
    (hasBody : target.facts.body = some body)
    (member : below ∈ number labelled (function.facts.labelled labels).2 function.hanging.toList)
    (finds : labelling.Finds below.first below.value rest start target)
    (counted : (below.value.labelled below.first).1.allRequests.count (.ofBody start.bodies) =
      if (below.value.follow? rest).isSome then target.captureCount else 0) :
    (requestsBelow (function.labelled labels).1.branches.toList).count (.ofBody start.bodies) =
      if (function.follow? (below.step :: rest)).isSome then target.captureCount else 0 := by
  obtain ⟨lower, upper⟩ := finds.within
  rw [count_below member lower.1 ((label_lt hasBody).trans_le upper.1), counted,
    follow?_cons member]
  split <;> rfl

/-- Below a function, its own body is not asked. -/
private theorem count_below_own (hasBody : function.facts.body = some body) :
    (requestsBelow (function.labelled labels).1.branches.toList).count
      (.ofBody labels.bodies) = 0 := by
  apply List.count_eq_zero.mpr
  intro asks
  obtain ⟨_, isLabel, behind, _⟩ := below_within (fun candidate _ => candidate.asksWithin) asks
  cases isLabel
  rw [FunctionFacts.labelled_bodies hasBody] at behind
  exact Nat.not_succ_le_self _ behind

/-- For its own candidates, a function asks no body that is labelled behind its own. -/
private theorem count_requests_behind {label : Nat}
    (behind : (function.facts.labelled labels).2.bodies ≤ label) :
    ((function.labelled labels).1.requests none).count (.ofBody label) = 0 := by
  apply List.count_eq_zero.mpr
  intro asks
  cases hasBody : function.facts.body with
  | none =>
      rw [requests_labelled_bodyless hasBody] at asks
      cases asks
  | some body =>
      rw [requests_labelled hasBody] at asks
      cases (List.mem_replicate.mp asks).2
      rw [FunctionFacts.labelled_bodies hasBody] at behind
      exact Nat.not_succ_le_self _ behind

/-- Whoever a path leads to asks its own body once for each candidate, if it is captured. -/
private theorem count_allRequests (hasBody : target.facts.body = some body)
    (finds : labelling.Finds labels function path start target) :
    (function.labelled labels).1.allRequests.count (.ofBody start.bodies) =
      if (function.follow? path).isSome then target.captureCount else 0 := by
  induction finds with
  | @here labels function =>
      have own : ((function.labelled labels).1.requests none).count (.ofBody labels.bodies) =
          function.captureCount := by
        rw [requests_labelled hasBody]
        exact List.count_replicate_self
      rw [allRequests, List.count_append, own, count_below_own hasBody]
      rfl
  | onward member finds ih =>
      have behind := (labelling.within _ member).1.trans finds.within.1
      rw [allRequests, List.count_append, count_requests_behind behind.1, Nat.zero_add]
      exact count_onward hasBody member finds (ih hasBody)

/-! ### Counted from the root -/

/-- From the root on: an inlinee at the root asks the context it was given. -/
private theorem count_ofBody {own : Option RuntimeContext} (isInlinee : Bool)
    (given : isInlinee = true → function.facts.body.isSome = true → own.isSome = true)
    (hasBody : target.facts.body = some body)
    (finds : labelling.Finds labels function path start target) :
    ((function.labelled labels).1.requests (if isInlinee then own else none) ++
        requestsBelow (function.labelled labels).1.branches.toList).count
          (.ofBody start.bodies) =
      if isInlinee = true ∧ path = [] then 0
      else if (function.follow? path).isSome then target.captureCount else 0 := by
  cases isInlinee with
  | false => exact count_allRequests hasBody finds
  | true =>
      have noBody : ((function.labelled labels).1.requests own).count
          (.ofBody start.bodies) = 0 := by
        apply List.count_eq_zero.mpr
        intro asks
        cases atRoot : function.facts.body with
        | none =>
            rw [requests_labelled_bodyless atRoot] at asks
            cases asks
        | some rootBody =>
            obtain ⟨context, rfl⟩ :=
              Option.isSome_iff_exists.mp (given rfl (by rw [atRoot, Option.isSome_some]))
            rw [requests_labelled atRoot] at asks
            cases (List.mem_replicate.mp asks).2
      rw [List.count_append, if_pos rfl, noBody, Nat.zero_add]
      cases finds with
      | here => exact count_below_own hasBody
      | onward member onward =>
          exact count_onward hasBody member onward (count_allRequests hasBody onward)

/-- Of the contexts, only the one that was given is asked. -/
private theorem count_ofContext (own : Option RuntimeContext) (label : Nat) :
    ((function.labelled labels).1.requests own ++
        requestsBelow (function.labelled labels).1.branches.toList).count (.ofContext label) =
      if own.map RuntimeContext.label = some label then function.captureCount else 0 := by
  have notBelow : (requestsBelow (function.labelled labels).1.branches.toList).count
      (.ofContext label) = 0 := by
    apply List.count_eq_zero.mpr
    intro asks
    obtain ⟨_, isBody, _⟩ := below_within (fun candidate _ => candidate.asksWithin) asks
    cases isBody
  rw [List.count_append, notBelow, Nat.add_zero]
  cases hasBody : function.facts.body with
  | none =>
      have nothing : function.captureCount = 0 := by
        simp only [captureCount, hasBody]
      rw [requests_labelled_bodyless hasBody, nothing, ite_self]
      rfl
  | some body =>
      rw [requests_labelled hasBody, List.count_replicate]
      cases own with
      | none => rfl
      | some context =>
          simp only [RuntimeKeeper.read, beq_iff_eq, Read.ofContext.injEq, Option.map_some,
            Option.some.injEq]

/-! ### The parts of a request -/

/-- The body of the function that a path over any candidates leads to. -/
def body? (function : SourceFunction) (path : Path) : Option SourceBody :=
  (function.at? path).bind fun target => target.facts.body

/-- The context that such a body knows for a candidate, or one below that context. -/
def kept? (function : SourceFunction) (path : Path) (step : Step) (rest : Path) :
    Option RuntimeContext :=
  ((function.body? path).bind (·.runtime? step)).bind (·.at? rest)

private theorem body?_labelled (hasBody : target.facts.body = some body)
    (finds : labelling.Finds labels function path start target) :
    (function.labelled labels).1.body? path = some (body.labelled start).1 := by
  have leads := finds.labelled
  rw [at?_labelling] at leads
  have atTarget : ((function.labelled labels).1.at? path) = some (target.labelled start).1 := leads
  rw [body?, atTarget, Option.bind_some, labelled_facts, FunctionFacts.labelled_body hasBody]

private theorem exists_kept_label {step : Step} {rest : Path} {context : RuntimeContext}
    (labels : Labels) (found : function.kept? path step rest = some context) :
    ∃ label, (function.labelled labels).1.kept? path step rest =
        some (context.labelled label).1 ∧
      labels.contexts ≤ label ∧ label < (function.labelled labels).2.contexts := by
  obtain ⟨top, atStep, onward⟩ := Option.bind_eq_some_iff.mp found
  obtain ⟨body, atPath, known⟩ := Option.bind_eq_some_iff.mp atStep
  obtain ⟨target, leads, hasBody⟩ := Option.bind_eq_some_iff.mp atPath
  rw [← at?_labelling] at leads
  obtain ⟨start, finds⟩ := labelling.exists_finds labels leads
  obtain ⟨first, labelledTop, behind, before⟩ := SourceBody.exists_kept start known
  obtain ⟨label, labelledContext, _, lower, upper⟩ := RuntimeContext.exists_label first onward
  obtain ⟨starts, stops⟩ := finds.within
  have ownContexts : (body.labelled start).2.contexts ≤ (target.labelled start).2.contexts := by
    have inner : (target.facts.labelled start).2.contexts ≤ (target.labelled start).2.contexts :=
      (labelling.inner_le start target).2
    rwa [FunctionFacts.labelled_body hasBody] at inner
  refine ⟨label, ?_, starts.2.trans (behind.trans lower),
    upper.trans_le (before.trans (ownContexts.trans stops.2))⟩
  rw [kept?, body?_labelled hasBody finds, Option.bind_some, labelledTop, Option.bind_some,
    labelledContext]

end SourceFunction

def askedRuntime (runtime : Option RuntimeContext) : Option RuntimeContext :=
  (RuntimeContext.labelledAt 0 runtime).1

def labelsBehind (runtime : Option RuntimeContext) : Labels :=
  { contexts := (RuntimeContext.labelledAt 0 runtime).2 }

/-- The functions whose bodies can be asked, with the labels they are asked by. -/
def SourceFunction.asked (function : SourceFunction) (runtime : Option RuntimeContext) :
    SourceFunction :=
  (function.labelled (labelsBehind runtime)).1

private theorem askedRuntime_some (given : RuntimeContext) :
    askedRuntime (some given) = some (given.labelled 0).1 ∧
      (labelsBehind (some given)).contexts = (given.labelled 0).2 := by
  rw [askedRuntime, labelsBehind, RuntimeContext.labelledAt_eq]
  exact ⟨rfl, rfl⟩

private theorem label_askedRuntime (runtime : Option RuntimeContext) :
    (askedRuntime runtime).map RuntimeContext.label = runtime.map fun _ => 0 := by
  cases runtime with
  | none =>
      rw [askedRuntime, RuntimeContext.labelledAt_eq]
      rfl
  | some given =>
      rw [(askedRuntime_some given).1, Option.map_some, given.labelled_label]
      rfl

namespace ReadCounts

def ofBody? (counts : ReadCounts) (body : Option SourceBody) : Option Nat :=
  body.bind fun body => counts.of? (.ofBody body.label)

def ofContext? (counts : ReadCounts) (context : Option RuntimeContext) : Option Nat :=
  context.bind fun context => counts.of? (.ofContext context.label)

end ReadCounts

section Counted

variable {state after : BuildState} {function : SourceFunction} {runtime : Option RuntimeContext}
  {isInlinee : Bool} {root : NodeId} {counts : ReadCounts}

theorem BuildState.runtime_of_inlinee (isGiven : isInlinee = true)
    (hasBody : function.facts.body.isSome = true)
    (built : state.build function runtime isInlinee = .ok (root, after)) :
    runtime.isSome = true := by
  obtain ⟨body, atRoot⟩ := Option.isSome_iff_exists.mp hasBody
  rw [build, SourceFunction.buildNode_eq_fill] at built
  obtain ⟨_, _, built⟩ := bind_eq_ok.mp built
  obtain ⟨filled, fills, _⟩ := bind_eq_ok.mp built
  cases runtime with
  | some given => rfl
  | none =>
      rw [SourceFunction.fill, isGiven] at fills
      simp only [atRoot] at fills
      cases fills

theorem asked_hasBody : (function.asked runtime).facts.body.isSome = true ↔
    function.facts.body.isSome = true := by
  rw [SourceFunction.asked, SourceFunction.labelled_facts]
  cases hasBody : function.facts.body with
  | none => rw [FunctionFacts.labelled_bodyless hasBody, hasBody]
  | some body => rw [FunctionFacts.labelled_body hasBody, Option.isSome_some, Option.isSome_some]

/-- The requests of a counted build, by who is asked. -/
theorem BuildState.buildCounted_eq_ok
    (built : state.buildCounted function runtime isInlinee = .ok (root, counts, after)) :
    state.build (function.asked runtime) (askedRuntime runtime) isInlinee = .ok (root, after) ∧
      counts = .ofReads (function.labelled (labelsBehind runtime)).2 after.reads := by
  obtain ⟨⟨_, _⟩, build, returned⟩ := bind_eq_ok.mp built
  cases returned
  exact ⟨build, rfl⟩

/-- The body that a path leads to has been asked once for each of its candidates, if it had
to be. -/
theorem BuildState.buildCounted_ofBody {path : Path} {target : SourceFunction}
    {body : SourceBody}
    (built : state.buildCounted function runtime isInlinee = .ok (root, counts, after))
    (leads : function.at? path = some target) (atTarget : target.facts.body = some body) :
    counts.ofBody? ((function.asked runtime).body? path) = some
      (if isInlinee = true ∧ path = [] then 0
      else if (function.follow? path).isSome then target.captureCount else 0) := by
  obtain ⟨build, rfl⟩ := buildCounted_eq_ok built
  rw [← SourceFunction.at?_labelling] at leads
  obtain ⟨start, finds⟩ := SourceFunction.labelling.exists_finds (labelsBehind runtime) leads
  have within : start.bodies < (function.labelled (labelsBehind runtime)).2.bodies :=
    (SourceFunction.label_lt atTarget).trans_le finds.within.2.1
  rw [ReadCounts.ofBody?, SourceFunction.asked, SourceFunction.body?_labelled atTarget finds,
    Option.bind_some, SourceBody.labelled_label, ReadCounts.ofBody_ofReads within,
    (build_notes build).count_eq]
  apply congrArg some
  refine SourceFunction.count_ofBody isInlinee (fun isGiven hasBody => ?_) atTarget finds
  exact runtime_of_inlinee isGiven (asked_hasBody.mpr hasBody) build

/-- Of all contexts, only the one that was given to an inlinee is asked. -/
theorem BuildState.buildCounted_ofContext {label : Nat}
    (built : state.buildCounted function runtime isInlinee = .ok (root, counts, after))
    (within : label < (function.labelled (labelsBehind runtime)).2.contexts) :
    counts.of? (.ofContext label) = some
      (if isInlinee = true ∧ runtime.isSome = true ∧ label = 0 then function.captureCount
      else 0) := by
  obtain ⟨build, rfl⟩ := buildCounted_eq_ok built
  rw [ReadCounts.ofContext_ofReads within, (build_notes build).count_eq, SourceFunction.asked,
    SourceFunction.count_ofContext]
  apply congrArg some
  apply if_congr ?_ rfl rfl
  cases isInlinee with
  | false => simp only [Bool.false_eq_true, if_false, Option.map_none, reduceCtorEq, false_and]
  | true =>
      rw [if_pos rfl, label_askedRuntime]
      cases runtime with
      | none =>
          simp only [Option.map_none, reduceCtorEq, Option.isSome_none, Bool.false_eq_true,
            false_and, and_false]
      | some given =>
          simp only [Option.map_some, Option.some.injEq, Option.isSome_some, true_and]
          exact eq_comm

theorem BuildState.buildCounted_given {path : Path} {context : RuntimeContext}
    (built : state.buildCounted function runtime isInlinee = .ok (root, counts, after))
    (found : runtime.bind (·.at? path) = some context) :
    counts.ofContext? ((askedRuntime runtime).bind (·.at? path)) = some
      (if isInlinee = true ∧ path = [] then function.captureCount else 0) := by
  obtain ⟨given, rfl, leads⟩ := Option.bind_eq_some_iff.mp found
  obtain ⟨isAsked, stops⟩ := askedRuntime_some given
  obtain ⟨label, labelled, own, _, upper⟩ := RuntimeContext.exists_label 0 leads
  have grows := (function.le_labelled (labelsBehind (some given))).2
  have within : label < (function.labelled (labelsBehind (some given))).2.contexts :=
    upper.trans_le (stops.symm.trans_le grows)
  rw [isAsked, ReadCounts.ofContext?, Option.bind_some, labelled, Option.bind_some,
    RuntimeContext.labelled_label, buildCounted_ofContext built within]
  simp only [Option.isSome_some, true_and, own]

theorem BuildState.buildCounted_kept {path rest : Path} {step : Step} {context : RuntimeContext}
    (built : state.buildCounted function runtime isInlinee = .ok (root, counts, after))
    (found : function.kept? path step rest = some context) :
    counts.ofContext? ((function.asked runtime).kept? path step rest) = some 0 := by
  obtain ⟨label, labelled, lower, upper⟩ :=
    SourceFunction.exists_kept_label (labelsBehind runtime) found
  rw [ReadCounts.ofContext?, SourceFunction.asked, labelled, Option.bind_some,
    RuntimeContext.labelled_label, buildCounted_ofContext built upper]
  apply congrArg some
  apply if_neg
  -- The context that was given has taken its label before.
  rintro ⟨_, isGiven, rfl⟩
  obtain ⟨given, rfl⟩ := Option.isSome_iff_exists.mp isGiven
  rw [(askedRuntime_some given).2] at lower
  exact absurd (given.label_lt 0) (Nat.not_lt.mpr lower)

/-- Everyone has been asked as often as it had to be. A body has been asked once for each
candidate that is captured from it, if it is itself reached over captured candidates, and
has not been asked else. Only for an inlinee at the root it is not the body but the context
that was given. No other context has been asked: none below that one, and none that a body
keeps. -/
theorem BuildState.buildCounted_reads
    (built : state.buildCounted function runtime isInlinee = .ok (root, counts, after)) :
    (∀ path target, function.at? path = some target → target.facts.body.isSome = true →
        counts.ofBody? ((function.asked runtime).body? path) = some
          (if isInlinee = true ∧ path = [] then 0
          else if (function.follow? path).isSome then target.captureCount else 0)) ∧
      (∀ path, (runtime.bind (·.at? path)).isSome = true →
        counts.ofContext? ((askedRuntime runtime).bind (·.at? path)) = some
          (if isInlinee = true ∧ path = [] then function.captureCount else 0)) ∧
        (∀ path step rest, (function.kept? path step rest).isSome = true →
          counts.ofContext? ((function.asked runtime).kept? path step rest) = some 0) := by
  refine ⟨fun path target leads hasBody => ?_, fun path present => ?_,
    fun path step rest present => ?_⟩
  · obtain ⟨body, atTarget⟩ := Option.isSome_iff_exists.mp hasBody
    exact buildCounted_ofBody built leads atTarget
  · obtain ⟨context, found⟩ := Option.isSome_iff_exists.mp present
    exact buildCounted_given built found
  · obtain ⟨context, found⟩ := Option.isSome_iff_exists.mp present
    exact buildCounted_kept built found

end Counted

/-- A function with two candidates, of which it counts one. Both are followed by another one. -/
def halfCountedCaller : SourceFunction :=
  { facts :=
      { body := some { record := { callSiteCount := 1 }, inlineeRuntimes := [some {}] } }
    inlinees := List.replicate 2 (some
      { facts := { body := some { record := {} } }
        next := some { facts := { body := some { record := {} } } } }) }

def measuredRuntime : RuntimeContext :=
  { inlinees := [some {}] }

theorem buildCounted_reads_halfCountedCaller :
    ∃ root counts after,
      (BuildState.start .empty).buildCounted halfCountedCaller (some measuredRuntime) true =
          .ok (root, counts, after) ∧
        counts.ofBody? ((halfCountedCaller.asked (some measuredRuntime)).body? []) = some 0 ∧
          counts.ofBody? ((halfCountedCaller.asked (some measuredRuntime)).body? [.inlinee 0]) =
              some 1 ∧
            counts.ofBody? ((halfCountedCaller.asked (some measuredRuntime)).body? [.inlinee 1]) =
                some 0 ∧
              counts.ofContext? ((askedRuntime (some measuredRuntime)).bind (·.at? [])) =
                  some 1 ∧
                counts.ofContext? ((halfCountedCaller.asked (some measuredRuntime)).kept? []
                  (.inlinee 0) []) = some 0 := by
  have outcome : ((BuildState.start .empty).buildCounted halfCountedCaller (some measuredRuntime)
      true).toOption.map (·.1) = some ⟨0⟩ := by decide +kernel
  obtain ⟨⟨root, counts, after⟩, built, _⟩ := exists_ok_of_outcome outcome
  obtain ⟨bodies, given, kept⟩ := BuildState.buildCounted_reads built
  exact ⟨root, counts, after, built, bodies [] _ rfl rfl, bodies [.inlinee 0] _ rfl rfl,
    bodies [.inlinee 1] _ rfl rfl, given [] rfl, kept [] (.inlinee 0) [] rfl⟩

end JitSnapshot
