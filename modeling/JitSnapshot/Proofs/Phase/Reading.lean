import JitSnapshot.Proofs.Phase.Enabling
import JitSnapshot.Proofs.Text.Forms

set_option autoImplicit false

/-!
Texts of phases, read as requests. What a piece between two semicolons asks for
is told by the piece alone, and the list that a text is read as is what all the
pieces ask for, put together. So a text joined from two is read as the union of
what they are read as, and its entries may come in any order and any number of
times.
-/

namespace JitSnapshot.PhaseList

variable {list left right : PhaseList} {asked others : Set Enabling} {key : FunctionKey}

/-! ### Unions -/

/-- What either of two lists holds: phases for the same functions are put together. -/
def union (left right : PhaseList) : PhaseList :=
  right.entries.foldl (fun list entry => list.enableFor entry.2 entry.1)
    (left.enable right.everywhere)

private theorem everywhere_foldl_enableFor (list : PhaseList)
    (entries : List (FunctionKey × Phases)) :
    (entries.foldl (fun list entry => list.enableFor entry.2 entry.1) list).everywhere =
      list.everywhere := by
  induction entries generalizing list with
  | nil => rfl
  | cons entry rest ih => exact ih (list.enableFor entry.2 entry.1)

private theorem held?_foldl_enableFor (list : PhaseList) {entries : List (FunctionKey × Phases)}
    (ascending : Ascending entries) (key : FunctionKey) :
    (entries.foldl (fun list entry => list.enableFor entry.2 entry.1) list).held? key =
      Option.merge Flags.union (list.held? key) (entries.lookup key) := by
  induction entries generalizing list with
  | nil => rw [List.foldl_nil, List.lookup_nil, Option.merge_none_right]
  | cons entry rest ih =>
      obtain ⟨first, phases⟩ := entry
      obtain ⟨behind, restAscending⟩ := List.pairwise_cons.mp ascending
      rw [List.foldl_cons, ih _ restAscending, held?_enableFor, lookup_cons_eq_ite]
      by_cases same : key = first
      · subst same
        rw [if_pos rfl, if_pos rfl, lookup_eq_none_of_behind behind]
        cases list.held? key with
        | none => exact congrArg some (Flags.empty_union phases)
        | some held => rfl
      · rw [if_neg same, if_neg same]

theorem everywhere_union (left right : PhaseList) :
    (left.union right).everywhere = left.everywhere.union right.everywhere :=
  everywhere_foldl_enableFor _ _

theorem held?_union (left right : PhaseList) (key : FunctionKey) :
    (left.union right).held? key =
      Option.merge Flags.union (left.held? key) (right.held? key) :=
  held?_foldl_enableFor _ right.ascending key

theorem phasesFor_union (left right : PhaseList) (key : FunctionKey) :
    (left.union right).phasesFor key = (left.phasesFor key).union (right.phasesFor key) := by
  rw [phasesFor_eq, phasesFor_eq, phasesFor_eq, held?_union]
  cases left.held? key with
  | none =>
      rw [Option.getD_none, Flags.empty_union, Option.merge_none_left]
  | some held =>
      cases right.held? key with
      | none => exact (Flags.union_empty held).symm
      | some other => rfl

/-- A union holds what is asked of either list. -/
theorem Holds.union (holds : left.Holds asked) (also : right.Holds others) :
    (left.union right).Holds (asked ∪ others) := by
  refine { everywhere := fun bit => ?_, listed := fun key => ?_, single := ?_ }
  · rw [everywhere_union, Flags.has_union, holds.everywhere, also.everywhere]
    simp only [Set.mem_union, or_and_right, exists_or]
  · simp only [Set.mem_union, exists_or, ← holds.listed, ← also.listed, held?_union]
    cases left.held? key <;> cases right.held? key <;> simp
  · intro key held found bit
    have same : held = (left.phasesFor key).union (right.phasesFor key) := by
      rw [← phasesFor_union, phasesFor_eq, found, Option.getD_some]
    rw [same, Flags.has_union, holds.has_phasesFor, also.has_phasesFor]
    simp only [Set.mem_union, or_and_right, exists_or]

/-! ### What a piece asks for -/

/-- Reads a text without the white space around it. What cannot be read is reported without it. -/
def readTrimmed {α : Type} (read : List Char → Option α) (offence : String → SettingError)
    (text : List Char) : Except SettingError α :=
  match read (Blank.trim text) with
  | none => .error (offence (String.ofList (Blank.trim text)))
  | some value => .ok value

private theorem readTrimmed_eq_of_trim {α : Type} {read : List Char → Option α}
    {offence : String → SettingError} {text other : List Char}
    (same : Blank.trim text = Blank.trim other) :
    readTrimmed read offence text = readTrimmed read offence other := by
  rw [readTrimmed, same, readTrimmed]

def phaseOf : List Char → Except SettingError Phases :=
  readTrimmed Phase.ofName? .unknownPhase

def keyOf : List Char → Except SettingError FunctionKey :=
  readTrimmed FunctionKey.ofChars? .invalidFunctionKey

/-- The requests of a piece of a text. White space alone asks for nothing. -/
def requestsOf (piece : List Char) : Except SettingError (List Enabling) :=
  match Separated.cutFirst? ':' piece with
  | none =>
      if (Blank.trim piece).isEmpty then .ok []
      else do
        let phase ← phaseOf piece
        return [.everywhere phase]
  | some (name, keysText) => do
      let phase ← phaseOf name
      let keys ← (keysText.splitOn ',').mapM keyOf
      return keys.map (.single phase)

private theorem addKey_eq (phase : Phases) (list : PhaseList) (text : List Char) :
    addKey phase list text = (keyOf text >>= fun key => .ok (list.enableFor phase key)) := by
  simp only [addKey, keyOf, readTrimmed]
  cases FunctionKey.ofChars? (Blank.trim text) <;> rfl

private theorem foldlM_addKey_eq (phase : Phases) (list : PhaseList) (texts : List (List Char)) :
    texts.foldlM (addKey phase) list =
      (texts.mapM keyOf >>= fun keys => .ok (list.enableAll (keys.map (.single phase)))) := by
  induction texts generalizing list with
  | nil => rfl
  | cons text rest ih =>
      rw [List.foldlM_cons, List.mapM_cons, addKey_eq]
      cases keyOf text with
      | error fault => rfl
      | ok key =>
          simp only [ok_bind, ih]
          cases rest.mapM keyOf <;> rfl

theorem requestsOf_blank {piece : List Char} (allBlank : Blank.AllBlank piece) :
    requestsOf piece = .ok [] := by
  have noColon : ':' ∉ piece := Blank.not_mem_of_allBlank allBlank (by decide)
  rw [requestsOf, Separated.cutFirst?_eq_none noColon, Blank.trim_eq_nil_iff.mpr allBlank]
  rfl

theorem requestsOf_name {name : List Char} (noColon : ':' ∉ name) (solid : ¬Blank.AllBlank name) :
    requestsOf name = (phaseOf name >>= fun phase => .ok [.everywhere phase]) := by
  have nonempty : (Blank.trim name).isEmpty = false :=
    List.isEmpty_eq_false_iff.mpr (mt Blank.trim_eq_nil_iff.mp solid)
  rw [requestsOf, Separated.cutFirst?_eq_none noColon]
  simp only [nonempty, Bool.false_eq_true, if_false]
  rfl

theorem requestsOf_keyed {name : List Char} (noColon : ':' ∉ name) (keysText : List Char) :
    requestsOf (name ++ ':' :: keysText) = do
      let phase ← phaseOf name
      let keys ← (keysText.splitOn ',').mapM keyOf
      return keys.map (.single phase) := by
  rw [requestsOf, Separated.cutFirst?_append noColon]

theorem piece_cases (piece : List Char) :
    Blank.AllBlank piece ∨ (':' ∉ piece ∧ ¬Blank.AllBlank piece) ∨
      ∃ name keysText, ':' ∉ name ∧ piece = name ++ ':' :: keysText := by
  by_cases colon : ':' ∈ piece
  · obtain ⟨name, keysText, split, noColon⟩ := List.eq_append_cons_of_mem colon
    exact Or.inr (Or.inr ⟨name, keysText, noColon, split⟩)
  · by_cases allBlank : Blank.AllBlank piece
    · exact Or.inl allBlank
    · exact Or.inr (Or.inl ⟨colon, allBlank⟩)

/-- White space around a piece changes nothing. What is put behind the last key is trimmed off
again with that key. -/
private theorem requestsOf_around {core piece : List Char} (around : Blank.Around core piece) :
    requestsOf piece = requestsOf core := by
  have colon_iff : ':' ∈ piece ↔ ':' ∈ core := around.mem_iff (by decide)
  have sameTrim : Blank.trim piece = Blank.trim core := around.trim_eq_trim
  have sameBlank : Blank.AllBlank piece ↔ Blank.AllBlank core := by
    rw [← Blank.trim_eq_nil_iff, sameTrim, Blank.trim_eq_nil_iff]
  rcases piece_cases core with allBlank | ⟨noColon, solid⟩ | ⟨name, keysText, noColon, rfl⟩
  · rw [requestsOf_blank allBlank, requestsOf_blank (sameBlank.mpr allBlank)]
  · rw [requestsOf_name noColon solid,
      requestsOf_name (mt colon_iff.mp noColon) (mt sameBlank.mp solid),
      phaseOf, readTrimmed_eq_of_trim sameTrim]
  · obtain ⟨before, after, rfl, blankBefore, blankAfter⟩ := around
    have noColonFront : ':' ∉ before ++ name := by
      rw [List.mem_append, not_or]
      exact ⟨Blank.not_mem_of_allBlank blankBefore (by decide), noColon⟩
    have noComma : ',' ∉ after := Blank.not_mem_of_allBlank blankAfter (by decide)
    have regrouped : before ++ (name ++ ':' :: keysText) ++ after =
        before ++ name ++ ':' :: (keysText ++ after) := by
      simp only [List.append_assoc, List.cons_append]
    obtain ⟨init, last, keyTexts, longer⟩ := Separated.exists_splitOn_append keysText noComma
    rw [regrouped, requestsOf_keyed noColonFront, requestsOf_keyed noColon, keyTexts, longer,
      phaseOf, readTrimmed_eq_of_trim (Blank.trim_blank_append blankBefore), keyOf,
      List.mapM_append, List.mapM_append, List.mapM_cons, List.mapM_cons,
      readTrimmed_eq_of_trim (Blank.trim_append_blank blankAfter)]

private theorem requestsOf_trim (piece : List Char) :
    requestsOf (Blank.trim piece) = requestsOf piece :=
  (requestsOf_around (Blank.around_trim piece)).symm

/-- An entry is added by enabling all that it asks for. -/
private theorem addEntry_eq {entry : List Char} (trimmed : Blank.trim entry = entry)
    (nonempty : entry ≠ []) (list : PhaseList) :
    addEntry list entry = (requestsOf entry >>= fun requests => .ok (list.enableAll requests)) := by
  have solid : ¬Blank.AllBlank entry := by
    rw [← Blank.trim_eq_nil_iff, trimmed]
    exact nonempty
  rcases piece_cases entry with allBlank | ⟨noColon, _⟩ | ⟨name, keysText, noColon, rfl⟩
  · exact absurd allBlank solid
  · rw [requestsOf_name noColon solid, addEntry, nameAndKeys, Separated.cutFirst?_eq_none noColon]
    simp only [phaseOf, readTrimmed, trimmed]
    cases Phase.ofName? entry <;> rfl
  · rw [requestsOf_keyed noColon, addEntry, nameAndKeys, Separated.cutFirst?_append noColon]
    simp only [phaseOf, readTrimmed, foldlM_addKey_eq]
    cases Phase.ofName? (Blank.trim name) with
    | none => rfl
    | some phase =>
        simp only [ok_bind]
        cases (keysText.splitOn ',').mapM keyOf <;> rfl

/-! ### What a text asks for -/

/-- The requests of all pieces of a text, unless one of them cannot be read. -/
def requestsIn (text : List Char) : Except SettingError (List Enabling) := do
  let named ← (text.splitOn ';').mapM requestsOf
  return named.flatten

theorem enableAll_append (list : PhaseList) (requests others : List Enabling) :
    list.enableAll (requests ++ others) = (list.enableAll requests).enableAll others :=
  List.foldl_append

private theorem foldlM_addEntry_eq (pieces : List (List Char)) (list : PhaseList) :
    ((pieces.map Blank.trim).filter fun entry => !entry.isEmpty).foldlM addEntry list =
      (pieces.mapM requestsOf >>= fun named => .ok (list.enableAll named.flatten)) := by
  induction pieces generalizing list with
  | nil => rfl
  | cons piece rest ih =>
      rw [List.map_cons, List.mapM_cons]
      by_cases blank : Blank.trim piece = []
      · rw [List.filter_cons_of_neg (by rw [blank]; decide), ih,
          requestsOf_blank (Blank.trim_eq_nil_iff.mp blank)]
        cases rest.mapM requestsOf <;> rfl
      · have shown : (!(Blank.trim piece).isEmpty) = true := by
          rw [List.isEmpty_eq_false_iff.mpr blank, Bool.not_false]
        rw [List.filter_cons, if_pos shown, List.foldlM_cons,
          addEntry_eq (Blank.trim_trim piece) blank, requestsOf_trim]
        cases requestsOf piece with
        | error fault => rfl
        | ok requests =>
            simp only [ok_bind, ih]
            cases rest.mapM requestsOf with
            | error fault => rfl
            | ok named => exact congrArg Except.ok (enableAll_append list requests _).symm

/-- A text is read by enabling all that it asks for. -/
theorem parseChars_eq (text : List Char) :
    parseChars text = (requestsIn text >>= fun requests => .ok (empty.enableAll requests)) := by
  rw [parseChars, entriesOf, foldlM_addEntry_eq, requestsIn]
  cases (text.splitOn ';').mapM requestsOf <;> rfl

private theorem requestsIn_joined (front back : List Char) :
    requestsIn (front ++ ';' :: back) = do
      let requests ← requestsIn front
      let others ← requestsIn back
      return requests ++ others := by
  simp only [requestsIn, List.splitOn_append_cons_self, List.mapM_append]
  cases (front.splitOn ';').mapM requestsOf with
  | error fault => rfl
  | ok named =>
      cases (back.splitOn ';').mapM requestsOf with
      | error fault => rfl
      | ok others => exact congrArg Except.ok List.flatten_append

private theorem mem_entriesOf {text entry : List Char} : entry ∈ entriesOf text ↔
    entry ≠ [] ∧ ∃ piece ∈ text.splitOn ';', Blank.trim piece = entry := by
  rw [entriesOf, List.mem_filter, List.mem_map, and_comm,
    Bool.not_eq_true', List.isEmpty_eq_false_iff]

theorem exists_requestsIn_iff {text : List Char} : (∃ requests, requestsIn text = .ok requests) ↔
    ∀ piece ∈ text.splitOn ';', ∃ own, requestsOf piece = .ok own := by
  constructor
  · rintro ⟨requests, read⟩ piece inText
    obtain ⟨named, readPieces, _⟩ := bind_eq_ok.mp read
    exact exists_of_mapM readPieces inText
  · intro readable
    obtain ⟨named, read⟩ := exists_mapM_eq_ok readable
    exact ⟨named.flatten, bind_eq_ok.mpr ⟨named, read, rfl⟩⟩

private theorem readable_entries_iff {text : List Char} :
    (∀ entry ∈ entriesOf text, ∃ own, requestsOf entry = .ok own) ↔
      ∀ piece ∈ text.splitOn ';', ∃ own, requestsOf piece = .ok own := by
  constructor
  · intro readable piece inText
    by_cases blank : Blank.trim piece = []
    · exact ⟨[], requestsOf_blank (Blank.trim_eq_nil_iff.mp blank)⟩
    · rw [← requestsOf_trim]
      exact readable _ (mem_entriesOf.mpr ⟨blank, piece, inText, rfl⟩)
  · intro readable entry member
    obtain ⟨_, piece, inText, rfl⟩ := mem_entriesOf.mp member
    rw [requestsOf_trim]
    exact readable piece inText

private theorem mem_requestsIn {text : List Char} {requests : List Enabling}
    (read : requestsIn text = .ok requests) {request : Enabling} : request ∈ requests ↔
      ∃ entry ∈ entriesOf text, ∃ own, requestsOf entry = .ok own ∧ request ∈ own := by
  obtain ⟨named, readPieces, returned⟩ := bind_eq_ok.mp read
  cases returned
  rw [List.mem_flatten]
  constructor
  · rintro ⟨own, isNamed, asked⟩
    obtain ⟨piece, inText, readPiece⟩ := (mem_mapM_iff readPieces).mp isNamed
    have notBlank : Blank.trim piece ≠ [] := by
      intro blank
      rw [requestsOf_blank (Blank.trim_eq_nil_iff.mp blank)] at readPiece
      cases readPiece
      contradiction
    refine ⟨Blank.trim piece, mem_entriesOf.mpr ⟨notBlank, piece, inText, rfl⟩, own, ?_, asked⟩
    rw [requestsOf_trim, readPiece]
  · rintro ⟨entry, member, own, readEntry, asked⟩
    obtain ⟨_, piece, inText, rfl⟩ := mem_entriesOf.mp member
    rw [requestsOf_trim] at readEntry
    exact ⟨own, (mem_mapM_iff readPieces).mpr ⟨piece, inText, readEntry⟩, asked⟩

theorem enableAll_union (requests others : List Enabling) :
    empty.enableAll (requests ++ others) =
      (empty.enableAll requests).union (empty.enableAll others) := by
  have holds := holds_enableAll (requests ++ others)
  have sameRequests : {request | request ∈ requests ++ others} =
      {request | request ∈ requests} ∪ {request | request ∈ others} :=
    Set.ext fun request => List.mem_append
  rw [sameRequests] at holds
  exact holds.unique ((holds_enableAll requests).union (holds_enableAll others))

private theorem parseChars_joined (front back : List Char) :
    parseChars (front ++ ';' :: back) = do
      let first ← parseChars front
      let second ← parseChars back
      return first.union second := by
  simp only [parseChars_eq, requestsIn_joined]
  cases requestsIn front with
  | error fault => rfl
  | ok requests =>
      cases requestsIn back with
      | error fault => rfl
      | ok others => exact congrArg Except.ok (enableAll_union requests others)

private theorem parseChars_of_sameEntries {front back : List Char}
    (sameEntries : ∀ entry, entry ∈ entriesOf front ↔ entry ∈ entriesOf back)
    (parsed : parseChars front = .ok list) : parseChars back = .ok list := by
  rw [parseChars_eq] at parsed ⊢
  obtain ⟨requests, read, returned⟩ := bind_eq_ok.mp parsed
  cases returned
  have readable := readable_entries_iff.mpr (exists_requestsIn_iff.mp ⟨requests, read⟩)
  simp only [sameEntries] at readable
  obtain ⟨others, readBack⟩ := exists_requestsIn_iff.mpr (readable_entries_iff.mp readable)
  have sameRequests : {request | request ∈ others} = {request | request ∈ requests} := by
    refine Set.ext fun request => ?_
    simp only [Set.mem_ofPred_eq, mem_requestsIn read, mem_requestsIn readBack, sameEntries]
  have holds := holds_enableAll others
  rw [sameRequests] at holds
  rw [readBack]
  exact congrArg Except.ok (holds.unique (holds_enableAll requests))

/-- A text joined from two is read as the union of what they are read as, and the entries of a
text that is read may come in any order and any number of times. -/
theorem parse_joined :
    (∀ left right : String, parse (left ++ ";" ++ right) = do
        let first ← parse left
        let second ← parse right
        return first.union second) ∧
      (∀ left right : PhaseList,
        (left.union right).everywhere = left.everywhere.union right.everywhere ∧
          ∀ key, (left.union right).held? key =
            Option.merge Flags.union (left.held? key) (right.held? key)) ∧
      ∀ (left right : String) (list : PhaseList),
        (∀ entry, entry ∈ entriesOf left.toList ↔ entry ∈ entriesOf right.toList) →
          parse left = .ok list → parse right = .ok list := by
  refine ⟨fun left right => ?_, fun left right => ?_, fun left right list sameEntries parsed => ?_⟩
  · rw [parse, String.toList_append, String.toList_append, List.append_assoc]
    exact parseChars_joined left.toList right.toList
  · exact ⟨everywhere_union left right, held?_union left right⟩
  · exact parseChars_of_sameEntries sameEntries parsed

theorem parse_joined_rearranged :
    (∀ entry, entry ∈ entriesOf "FullJit;JITLoopBody:3.12".toList ↔
        entry ∈ entriesOf "JITLoopBody:3.12; FullJit ;;JITLoopBody:3.12".toList) ∧
      parse "FullJit;JITLoopBody:3.12" =
          .ok ((empty.enable .fullJit).enableFor .loopBody ⟨⟨3⟩, ⟨12⟩⟩) ∧
        parse "JITLoopBody:3.12; FullJit ;;JITLoopBody:3.12" =
          .ok ((empty.enable .fullJit).enableFor .loopBody ⟨⟨3⟩, ⟨12⟩⟩) := by
  have forth : ∀ entry ∈ entriesOf "FullJit;JITLoopBody:3.12".toList,
      entry ∈ entriesOf "JITLoopBody:3.12; FullJit ;;JITLoopBody:3.12".toList := by decide
  have back : ∀ entry ∈ entriesOf "JITLoopBody:3.12; FullJit ;;JITLoopBody:3.12".toList,
      entry ∈ entriesOf "FullJit;JITLoopBody:3.12".toList := by decide
  have sameEntries := fun entry => Iff.intro (forth entry) (back entry)
  have parsed : parse "FullJit;JITLoopBody:3.12" =
      .ok ((empty.enable .fullJit).enableFor .loopBody ⟨⟨3⟩, ⟨12⟩⟩) := by rfl
  exact ⟨sameEntries, parsed, parse_joined.2.2 _ _ _ sameEntries parsed⟩

end JitSnapshot.PhaseList
