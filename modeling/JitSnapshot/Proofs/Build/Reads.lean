import JitSnapshot.Proofs.Build.Tree
import JitSnapshot.Proofs.Source.Labels

set_option autoImplicit false

/-!
Who is asked for runtime contexts in a build. A function with a body asks once
for each candidate that is captured, and all these requests go to one place: to
the context the function was given, if it is built as an inlinee, and else to
its body.
-/

namespace JitSnapshot

def RuntimeKeeper.read (keeper : RuntimeKeeper) : Read :=
  match keeper.own with
  | some own => .ofContext own.label
  | none => .ofBody keeper.body.label

private theorem RuntimeKeeper.ask_notes (keeper : RuntimeKeeper) (step : Step)
    (state : BuildState) :
    ∃ runtime, keeper.ask step state = (runtime, state.noteRead keeper.read) := by
  unfold ask read
  cases keeper.own <;> exact ⟨_, rfl⟩

namespace SourceFunction

/-- What a function that has been given a context asks for the sake of its candidates. -/
def requests (own : Option RuntimeContext) (function : SourceFunction) : List Read :=
  match function.facts.body with
  | none => []
  | some body => List.replicate function.captureCount ({ body, own } : RuntimeKeeper).read

def requestsBelow (captures : List (Step × SourceFunction)) : List Read :=
  (reachedFrom captures).flatMap (requests none)

theorem requestsBelow_append (front back : List (Step × SourceFunction)) :
    requestsBelow (front ++ back) = requestsBelow front ++ requestsBelow back := by
  rw [requestsBelow, reachedFrom_append, List.flatMap_append]
  rfl

theorem requestsBelow_nil : requestsBelow [] = [] :=
  rfl

def allRequests (function : SourceFunction) : List Read :=
  function.requests none ++ requestsBelow function.branches.toList

theorem requestsBelow_cons (capture : Step × SourceFunction)
    (rest : List (Step × SourceFunction)) :
    requestsBelow (capture :: rest) = capture.2.allRequests ++ requestsBelow rest := by
  rw [requestsBelow, reachedFrom_cons, List.flatMap_append, reached_eq, List.flatMap_cons]
  rfl

end SourceFunction

/-- The requests have been noted, in whatever order. -/
def Notes (before after : BuildState) (requests : List Read) : Prop :=
  after.reads.Perm (requests ++ before.reads)

namespace Notes

variable {before mid after : BuildState} {front back requests : List Read}

theorem of_same (same : after.reads = before.reads) : Notes before after [] :=
  List.Perm.of_eq same

theorem followed (first : Notes before mid front) (second : Notes mid after back) :
    Notes before after (front ++ back) := by
  have onward := first.append_left back
  rw [← List.append_assoc] at onward
  have swapped : (back ++ front).Perm (front ++ back) := List.perm_append_comm
  exact second.trans (onward.trans (swapped.append_right before.reads))

/-- Steps that ask nobody may come before. -/
theorem behind (notes : Notes mid after requests) (same : mid.reads = before.reads) :
    Notes before after requests := by
  rw [Notes, ← same]
  exact notes

private theorem reorder {others : List Read} (notes : Notes before after requests)
    (same : requests.Perm others) : Notes before after others :=
  notes.trans (same.append_right _)

end Notes

/-! ### Captures ask nobody -/

namespace BuildState

variable {state after : BuildState}

private theorem captureEntryPoint_reads {entryPoint : EntryPoint} {record captured : NodeRecord}
    (done : state.captureEntryPoint entryPoint record = .ok (captured, after)) :
    after.reads = state.reads := by
  rcases captureEntryPoint_cases done with ⟨_, _, rfl⟩ | ⟨_, _, _, _, pushed⟩
  · rfl
  · exact put_reads pushed rfl

private theorem captureBody_reads {body : SourceBody} {isInlinee : Bool}
    {record captured : NodeRecord}
    (done : state.captureBody body isInlinee record = .ok (captured, after)) :
    after.reads = state.reads := by
  rcases captureBody_cases done with ⟨_, _, _, pushedBody⟩ |
    ⟨_, _, copied, _, entered, _, _, pushedProfile, captures, pushedBody⟩
  · exact put_reads pushedBody rfl
  · have copying : copied.reads = state.reads := put_reads pushedProfile rfl
    have storing : after.reads = entered.reads := put_reads pushedBody rfl
    cases isInlinee with
    | false =>
        cases captures
        exact storing.trans copying
    | true => exact storing.trans ((captureEntryPoint_reads captures).trans copying)

private theorem captureRuntime_reads {own : Option RuntimeContext} {body : SourceBody}
    {id : RuntimeId}
    (done : state.captureRuntime own body.record.cacheCount.toNat = .ok (id, after)) :
    after.reads = state.reads := by
  rcases captureRuntime_cases done with ⟨_, pushed⟩ | ⟨_, _, pushedClones, pushedRuntime⟩
  · exact put_reads pushed rfl
  · exact (put_reads pushedRuntime rfl).trans (put_reads pushedClones rfl)

private theorem pushTypeSpecs_reads {sources : List (Option Address)} {count : Nat}
    {range : TypeSpecRange} (done : state.pushTypeSpecs sources count = .ok (range, after)) :
    after.reads = state.reads := by
  obtain ⟨_, _, _, _, rfl⟩ := pushTypeSpecs_eq_ok_iff.mp done
  rfl

private theorem captureTypeSpecs_reads {sources : Option (List (Option Address))} {caches : Nat}
    {range : TypeSpecRange} (done : state.captureTypeSpecs sources caches = .ok (range, after)) :
    after.reads = state.reads := by
  rcases captureTypeSpecs_cases done with ⟨_, _, rfl⟩ | ⟨_, _, pushed⟩
  · rfl
  · exact pushTypeSpecs_reads pushed

private theorem captureGlobalTypeSpecs_reads {sources : List (Option Address)}
    {range : TypeSpecRange} (done : state.captureGlobalTypeSpecs sources = .ok (range, after)) :
    after.reads = state.reads := by
  rcases captureGlobalTypeSpecs_cases done with ⟨_, _, rfl⟩ | pushed
  · rfl
  · exact pushTypeSpecs_reads pushed

end BuildState

/-! ### The recursion -/

def SourceFunction.NotesExactly (function : SourceFunction) : Prop :=
  ∀ (runtime : Option RuntimeContext) (isInlinee : Bool) (state after : BuildState)
    (id : NodeId), function.buildNode runtime isInlinee state = .ok (id, after) →
      Notes state after (function.requests (if isInlinee then runtime else none) ++
        SourceFunction.requestsBelow function.branches.toList)

variable {keeper : RuntimeKeeper} {state after : BuildState}

/-- Requests for candidates of one function: one to its keeper for each, and those made for
the candidate. -/
def asked (keeper : RuntimeKeeper) (captures : List (Step × SourceFunction)) : List Read :=
  List.replicate captures.length keeper.read ++ SourceFunction.requestsBelow captures

private theorem asked_append (front back : List (Step × SourceFunction)) :
    (asked keeper front ++ asked keeper back).Perm (asked keeper (front ++ back)) := by
  have own : List.replicate (front ++ back).length keeper.read =
      List.replicate front.length keeper.read ++ List.replicate back.length keeper.read := by
    rw [List.length_append, List.replicate_append_replicate]
  rw [asked, asked, asked, own, SourceFunction.requestsBelow_append, List.append_assoc,
    List.append_assoc]
  apply List.Perm.append_left
  rw [← List.append_assoc, ← List.append_assoc]
  exact List.perm_append_comm.append_right _

theorem BuildsInTurn.notes {captures : List (Step × SourceFunction)}
    {nodes : List (Step × NodeId)}
    (exactly : ∀ capture ∈ captures, capture.2.NotesExactly)
    (builds : BuildsInTurn keeper captures nodes state after) :
    Notes state after (asked keeper captures) := by
  induction builds with
  | done => exact .of_same rfl
  | @step step function _ captures _ _ start _ _ _ asks node _ ih =>
      obtain ⟨_, noted⟩ := keeper.ask_notes step start
      rw [noted] at asks
      cases asks
      have asking : Notes start (start.noteRead keeper.read) [keeper.read] := List.Perm.refl _
      have building := exactly _ List.mem_cons_self _ _ _ _ _ node
      have later := ih fun capture member => exactly capture (List.mem_cons_of_mem _ member)
      have single : asked keeper [(step, function)] = [keeper.read] ++ function.allRequests := by
        rw [asked, SourceFunction.requestsBelow_cons, SourceFunction.requestsBelow_nil,
          List.append_nil]
        rfl
      have first : Notes start _ (asked keeper [(step, function)]) :=
        single ▸ asking.followed building
      exact (first.followed later).reorder (asked_append [(step, function)] captures)

section Node

variable {facts : FunctionFacts} {body : SourceBody} {own : Option RuntimeContext}
  {inlinees fieldInlinees : List (Option SourceFunction)} {next : Option SourceFunction}
  {start last : BuildState} {record : NodeRecord}

theorem FillsBody.notes (hasBody : facts.body = some body)
    (exactly : ∀ candidate,
      SourceFunction.HasCandidate ⟨facts, inlinees, fieldInlinees, next⟩ candidate →
        candidate.NotesExactly)
    (fills : FillsBody facts body own inlinees fieldInlinees next start record last) :
    Notes start last (asked { body, own }
      (SourceFunction.branches ⟨facts, inlinees, fieldInlinees, next⟩).toList) := by
  cases fills with
  | @steps _ _ _ _ _ _ _ _ _ afterBody afterInlinees _ _ afterTypeSpecs afterFields _ afterGlobals _
      capturedBody builtInlinees pushedInlinees capturedRuntime capturedTypeSpecs builtFields
      pushedFields capturedGlobals builtNext =>
      rw [branches_of_body hasBody]
      obtain ⟨_, _, _, buildsInlinees⟩ := BuildsInTurn.of_slots builtInlinees
      obtain ⟨_, _, _, buildsFields⟩ := BuildsInTurn.of_slots builtFields
      have notesInlinees := buildsInlinees.notes fun capture member =>
        exactly capture.2 (Or.inl (Branches.mem_of_mem_present_take member))
      have notesFields := buildsFields.notes fun capture member =>
        exactly capture.2 (Or.inr (Or.inl (Branches.mem_of_mem_present_take member)))
      have notesNext := (BuildsInTurn.of_candidate builtNext).notes fun capture member =>
        exactly capture.2 (Or.inr (Or.inr (Branches.eq_some_of_mem_map member)))
      have quietBody : afterBody.reads = start.reads := BuildState.captureBody_reads capturedBody
      have quietMiddle : afterTypeSpecs.reads = afterInlinees.reads := by
        rw [BuildState.captureTypeSpecs_reads capturedTypeSpecs,
          BuildState.captureRuntime_reads capturedRuntime]
        exact BuildState.put_reads pushedInlinees rfl
      have quietGlobals : afterGlobals.reads = afterFields.reads := by
        rw [BuildState.captureGlobalTypeSpecs_reads capturedGlobals]
        exact BuildState.put_reads pushedFields rfl
      have fromFields := (notesFields.followed (notesNext.behind quietGlobals)).reorder
        (asked_append _ _)
      exact ((notesInlinees.followed (fromFields.behind quietMiddle)).reorder
        (asked_append _ _)).behind quietBody

end Node

theorem SourceFunction.notesExactly (function : SourceFunction) : function.NotesExactly := by
  induction function using candidate_induction with
  | pass function ih =>
      intro runtime isInlinee state after id built
      rw [buildNode_eq_fill] at built
      obtain ⟨⟨given, start⟩, allocated, built⟩ := bind_eq_ok.mp built
      obtain ⟨⟨record, last⟩, filled, built⟩ := bind_eq_ok.mp built
      obtain ⟨stored, storedNode, returned⟩ := bind_eq_ok.mp built
      cases returned
      obtain ⟨arena, _, rfl⟩ := setNode_eq_ok_iff.mp storedNode
      have allocating : start.reads = state.reads := BuildState.put_reads allocated rfl
      cases function with
      | mk facts inlinees fieldInlinees next =>
          cases hasBody : facts.body with
          | none =>
              rw [fill] at filled
              simp only [hasBody] at filled
              cases filled
              simp only [requests, branches, hasBody]
              exact .of_same allocating
          | some body =>
              have notes := (fill_body hasBody filled).notes hasBody ih
              rw [asked, length_branches] at notes
              simp only [requests, hasBody]
              exact notes.behind allocating

/-- Whom a build that succeeds has asked, and how often. -/
theorem BuildState.build_notes {function : SourceFunction} {runtime : Option RuntimeContext}
    {isInlinee : Bool} {id : NodeId}
    (built : state.build function runtime isInlinee = .ok (id, after)) :
    after.reads.Perm (function.requests (if isInlinee then runtime else none) ++
      SourceFunction.requestsBelow function.branches.toList) := by
  have notes := function.notesExactly runtime isInlinee { state with reads := [] } after id built
  rwa [Notes, List.append_nil] at notes

end JitSnapshot
