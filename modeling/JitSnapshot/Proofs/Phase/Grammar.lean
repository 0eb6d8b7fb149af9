import JitSnapshot.Proofs.Phase.Reading
import Mathlib.Data.List.Forall2

set_option autoImplicit false

/-!
The grammar of phase lists, said of the texts alone: what a name, a key and a
piece between two semicolons look like, and what they ask for. A text is read
exactly if each of its pieces has one of the forms, and then it is read as what
the forms ask for.

A text that cannot be read is refused for its leftmost offence. In a piece, the
name stands before the keys and is judged first.
-/

namespace JitSnapshot

private theorem mapM_eq_ok_iff_forall₂ {ε α β : Type} {read : α → Except ε β} {items : List α}
    {values : List β} : items.mapM read = .ok values ↔
      List.Forall₂ (fun item value => read item = .ok value) items values := by
  rw [mapM_eq_ok_iff, ← List.forall₂_eq_eq_eq, List.forall₂_map_left_iff,
    List.forall₂_map_right_iff]

/-! ### Names -/

namespace Phase

variable {phase : Phases} {name : String} {text core : List Char}

/-- The name of a phase in any case of ASCII letters, perhaps with white space around it. -/
def IsName (text : List Char) (phase : Phases) : Prop :=
  ∃ core name, Blank.Around core text ∧ (phase, name) ∈ named ∧
    core.map Char.toLower = name.toList.map Char.toLower

private theorem isAlpha_of_sameLetters (isNamed : (phase, name) ∈ named)
    (same : core.map Char.toLower = name.toList.map Char.toLower) :
    ∀ char ∈ core, char.isAlpha = true := by
  intro char member
  have letters : ∀ entry ∈ named, (entry.2.toList.map Char.toLower).all Char.isAlpha = true := by
    decide
  have lowered : char.toLower.isAlpha = true := by
    refine List.all_eq_true.mp (letters _ isNamed) _ ?_
    rw [← same]
    exact List.mem_map_of_mem member
  cases upper : char.isUpper with
  | true => exact Bool.or_eq_true_iff.mpr (Or.inl upper)
  | false =>
      have unchanged : char.toLower = char := dif_neg (of_decide_eq_false upper)
      rwa [unchanged] at lowered

theorem ofName?_eq_some_iff : ofName? core = some phase ↔
    ∃ name, (phase, name) ∈ named ∧ core.map Char.toLower = name.toList.map Char.toLower := by
  constructor
  · intro found
    obtain ⟨⟨other, name⟩, foundEntry, rfl⟩ := Option.map_eq_some_iff.mp found
    have same := List.find?_some foundEntry
    exact ⟨name, List.mem_of_find?_eq_some foundEntry, (beq_iff_eq.mp same).symm⟩
  · rintro ⟨name, isNamed, same⟩
    have sameSearch : ofName? core = ofName? name.toList := by
      simp only [ofName?, Separated.sameLetters, same]
    rw [sameSearch, ofName?_toList isNamed]

private theorem ofName?_trim_iff : ofName? (Blank.trim text) = some phase ↔ IsName text phase := by
  constructor
  · intro found
    obtain ⟨name, isNamed, same⟩ := ofName?_eq_some_iff.mp found
    exact ⟨Blank.trim text, name, Blank.around_trim text, isNamed, same⟩
  · rintro ⟨core, name, around, isNamed, same⟩
    have solid : ∀ char ∈ core, Blank.isBlank char = false := by
      intro char member
      apply Blank.isBlank_eq_false_of_isAlphanum
      rw [Char.isAlphanum, isAlpha_of_sameLetters isNamed same char member, Bool.true_or]
    rw [around.trim_eq solid]
    exact ofName?_eq_some_iff.mpr ⟨name, isNamed, same⟩

private theorem IsName.colon_not_mem (isName : IsName text phase) : ':' ∉ text := by
  obtain ⟨core, name, around, isNamed, same⟩ := isName
  rw [around.mem_iff (by decide)]
  intro member
  exact absurd (isAlpha_of_sameLetters isNamed same ':' member) (by decide)

private theorem IsName.not_allBlank (isName : IsName text phase) : ¬Blank.AllBlank text := by
  intro allBlank
  rw [← ofName?_trim_iff, Blank.trim_eq_nil_iff.mpr allBlank] at isName
  contradiction

end Phase

/-! ### Keys -/

namespace FunctionKey

variable {key : FunctionKey} {text core : List Char}

/-- Two numerals with a point and nothing else between them, perhaps with white space around
both together. -/
def IsWritten (text : List Char) (key : FunctionKey) : Prop :=
  ∃ source localFunction, Blank.Around (source ++ '.' :: localFunction) text ∧
    Numeral.Denotes source key.source.raw ∧ Numeral.Denotes localFunction key.localFunction.raw

theorem ofChars?_eq_some_iff : ofChars? core = some key ↔
    ∃ source localFunction, core = source ++ '.' :: localFunction ∧
      Numeral.Denotes source key.source.raw ∧
        Numeral.Denotes localFunction key.localFunction.raw := by
  simp only [ofChars?, Option.bind_eq_bind, Option.bind_eq_some_iff]
  constructor
  · rintro ⟨⟨source, localFunction⟩, cut, sourceWord, readSource, localWord, readLocal, returned⟩
    cases returned
    exact ⟨source, localFunction, (Separated.cutFirst?_eq_some_iff.mp cut).1,
      Numeral.toUInt32?_eq_some_iff.mp readSource, Numeral.toUInt32?_eq_some_iff.mp readLocal⟩
  · rintro ⟨source, localFunction, split, isSource, isLocal⟩
    have noPoint : '.' ∉ source := fun member =>
      absurd (isSource.isDigit_or_plus '.' member) (by decide)
    exact ⟨(source, localFunction), Separated.cutFirst?_eq_some_iff.mpr ⟨split, noPoint⟩,
      key.source.raw, Numeral.toUInt32?_eq_some_iff.mpr isSource,
      key.localFunction.raw, Numeral.toUInt32?_eq_some_iff.mpr isLocal, rfl⟩

private theorem ofChars?_trim_iff : ofChars? (Blank.trim text) = some key ↔ IsWritten text key := by
  constructor
  · intro found
    obtain ⟨source, localFunction, split, isSource, isLocal⟩ := ofChars?_eq_some_iff.mp found
    refine ⟨source, localFunction, ?_, isSource, isLocal⟩
    rw [← split]
    exact Blank.around_trim text
  · rintro ⟨source, localFunction, around, isSource, isLocal⟩
    have numeralSolid {numeral : List Char} {word : UInt32}
        (denotes : Numeral.Denotes numeral word) :
        ∀ char ∈ numeral, Blank.isBlank char = false := by
      intro char member
      rcases denotes.isDigit_or_plus char member with digit | rfl
      · exact Blank.isBlank_eq_false_of_isAlphanum (by rw [Char.isAlphanum, digit, Bool.or_true])
      · decide
    have solid : ∀ char ∈ source ++ '.' :: localFunction, Blank.isBlank char = false := by
      intro char member
      rcases List.mem_append.mp member with inSource | afterSource
      · exact numeralSolid isSource char inSource
      · rcases List.mem_cons.mp afterSource with rfl | inLocal
        · decide
        · exact numeralSolid isLocal char inLocal
    rw [around.trim_eq solid]
    exact ofChars?_eq_some_iff.mpr ⟨source, localFunction, rfl, isSource, isLocal⟩

end FunctionKey

namespace PhaseList

variable {α : Type} {read : List Char → Option α} {offence : String → SettingError}
  {form : List Char → α → Prop} {text piece : List Char} {requests : List Enabling}
  {fault : SettingError}

/-! ### Trimmed texts -/

/-- The fault of a text without the form: the text is reported without the white space
around it. -/
def Refused (form : List Char → α → Prop) (offence : String → SettingError) (text : List Char)
    (fault : SettingError) : Prop :=
  (∀ value, ¬form text value) ∧
    ∃ core, Blank.Trims core text ∧ fault = offence (String.ofList core)

private theorem readTrimmed_eq_ok_iff
    (finds : ∀ {text value}, read (Blank.trim text) = some value ↔ form text value) {value : α} :
    readTrimmed read offence text = .ok value ↔ form text value := by
  rw [readTrimmed, ← finds]
  cases read (Blank.trim text) with
  | none => simp only [reduceCtorEq]
  | some other => rw [Except.ok.injEq, Option.some.injEq]

private theorem readTrimmed_eq_error_iff
    (finds : ∀ {text value}, read (Blank.trim text) = some value ↔ form text value) :
    readTrimmed read offence text = .error fault ↔ Refused form offence text fault := by
  rw [readTrimmed, Refused]
  simp only [← finds, Blank.trims_iff, exists_eq_left']
  cases read (Blank.trim text) with
  | none =>
      simp only [Except.error.injEq, reduceCtorEq, not_false_eq_true, implies_true, true_and,
        eq_comm]
  | some other =>
      constructor
      · intro impossible
        cases impossible
      · rintro ⟨formless, _⟩
        exact absurd rfl (formless other)

/-! ### Pieces -/

/-- The forms of a piece, each with what it asks for. -/
inductive Asks : List Char → List Enabling → Prop
  | blank {piece : List Char} : Blank.AllBlank piece → Asks piece []
  | shared {name : List Char} {phase : Phases} : Phase.IsName name phase →
      Asks name [.everywhere phase]
  | keyed {name keysText : List Char} {phase : Phases} {keys : List FunctionKey} :
      Phase.IsName name phase → List.Forall₂ FunctionKey.IsWritten (keysText.splitOn ',') keys →
      Asks (name ++ ':' :: keysText) (keys.map (.single phase))

/-- The offences of a piece. A key is blamed only if the name before it and all
keys before it have their forms. -/
inductive Offends : List Char → SettingError → Prop
  | name {name : List Char} {fault : SettingError} : ':' ∉ name → ¬Blank.AllBlank name →
      Refused Phase.IsName .unknownPhase name fault → Offends name fault
  | nameOfKeys {name : List Char} {fault : SettingError} (keysText : List Char) : ':' ∉ name →
      Refused Phase.IsName .unknownPhase name fault → Offends (name ++ ':' :: keysText) fault
  | key {name keysText text : List Char} {phase : Phases} {before after : List (List Char)}
      {fault : SettingError} : Phase.IsName name phase →
      keysText.splitOn ',' = before ++ text :: after →
      (∀ earlier ∈ before, ∃ key, FunctionKey.IsWritten earlier key) →
      Refused FunctionKey.IsWritten .invalidFunctionKey text fault →
      Offends (name ++ ':' :: keysText) fault

private theorem phaseOf_eq_ok_iff {phase : Phases} :
    phaseOf text = .ok phase ↔ Phase.IsName text phase :=
  readTrimmed_eq_ok_iff Phase.ofName?_trim_iff

private theorem phaseOf_eq_error_iff :
    phaseOf text = .error fault ↔ Refused Phase.IsName .unknownPhase text fault :=
  readTrimmed_eq_error_iff Phase.ofName?_trim_iff

private theorem keyOf_eq_ok_iff {key : FunctionKey} :
    keyOf text = .ok key ↔ FunctionKey.IsWritten text key :=
  readTrimmed_eq_ok_iff FunctionKey.ofChars?_trim_iff

private theorem keyOf_eq_error_iff :
    keyOf text = .error fault ↔ Refused FunctionKey.IsWritten .invalidFunctionKey text fault :=
  readTrimmed_eq_error_iff FunctionKey.ofChars?_trim_iff

theorem requestsOf_eq_ok_iff : requestsOf piece = .ok requests ↔ Asks piece requests := by
  constructor
  · intro returned
    rcases piece_cases piece with allBlank | ⟨noColon, solid⟩ | ⟨name, keysText, noColon, rfl⟩
    · rw [requestsOf_blank allBlank] at returned
      cases returned
      exact .blank allBlank
    · rw [requestsOf_name noColon solid] at returned
      obtain ⟨phase, isName, returned⟩ := bind_eq_ok.mp returned
      cases returned
      exact .shared (phaseOf_eq_ok_iff.mp isName)
    · rw [requestsOf_keyed noColon] at returned
      obtain ⟨phase, isName, onward⟩ := bind_eq_ok.mp returned
      obtain ⟨keys, readKeys, returned⟩ := bind_eq_ok.mp onward
      cases returned
      refine .keyed (phaseOf_eq_ok_iff.mp isName) ?_
      exact (mapM_eq_ok_iff_forall₂.mp readKeys).imp fun _ _ => keyOf_eq_ok_iff.mp
  · intro asks
    cases asks with
    | blank allBlank => exact requestsOf_blank allBlank
    | shared isName =>
        rw [requestsOf_name isName.colon_not_mem isName.not_allBlank,
          phaseOf_eq_ok_iff.mpr isName, ok_bind]
    | keyed isName areWritten =>
        have readKeys := mapM_eq_ok_iff_forall₂.mpr
          (areWritten.imp fun _ _ => keyOf_eq_ok_iff.mpr)
        rw [requestsOf_keyed isName.colon_not_mem, phaseOf_eq_ok_iff.mpr isName, ok_bind, readKeys]
        rfl

theorem requestsOf_eq_error_iff : requestsOf piece = .error fault ↔ Offends piece fault := by
  constructor
  · intro failed
    rcases piece_cases piece with allBlank | ⟨noColon, solid⟩ | ⟨name, keysText, noColon, rfl⟩
    · rw [requestsOf_blank allBlank] at failed
      cases failed
    · rw [requestsOf_name noColon solid] at failed
      rcases bind_eq_error.mp failed with failed | ⟨phase, _, impossible⟩
      · exact .name noColon solid (phaseOf_eq_error_iff.mp failed)
      · cases impossible
    · rw [requestsOf_keyed noColon] at failed
      rcases bind_eq_error.mp failed with failed | ⟨phase, isName, onward⟩
      · exact .nameOfKeys keysText noColon (phaseOf_eq_error_iff.mp failed)
      · rcases bind_eq_error.mp onward with failed | ⟨keys, _, impossible⟩
        · obtain ⟨before, text, after, split, readBefore, atText⟩ := mapM_eq_error_iff.mp failed
          simp only [keyOf_eq_ok_iff] at readBefore
          exact .key (phaseOf_eq_ok_iff.mp isName) split readBefore (keyOf_eq_error_iff.mp atText)
        · cases impossible
  · intro offends
    cases offends with
    | name noColon solid refused =>
        rw [requestsOf_name noColon solid, phaseOf_eq_error_iff.mpr refused, error_bind]
    | nameOfKeys keysText noColon refused =>
        rw [requestsOf_keyed noColon, phaseOf_eq_error_iff.mpr refused, error_bind]
    | key isName split writtenBefore refused =>
        simp only [← keyOf_eq_ok_iff] at writtenBefore
        have failed := mapM_eq_error_iff.mpr
          ⟨_, _, _, split, writtenBefore, keyOf_eq_error_iff.mpr refused⟩
        rw [requestsOf_keyed isName.colon_not_mem, phaseOf_eq_ok_iff.mpr isName, ok_bind, failed,
          error_bind]

/-! ### Texts -/

private theorem requestsIn_eq_ok_iff : requestsIn text = .ok requests ↔
    ∃ named, List.Forall₂ Asks (text.splitOn ';') named ∧ requests = named.flatten := by
  rw [requestsIn, bind_eq_ok]
  refine exists_congr fun named => and_congr ?_ ?_
  · rw [mapM_eq_ok_iff_forall₂]
    simp only [requestsOf_eq_ok_iff]
  · change Except.ok named.flatten = Except.ok requests ↔ _
    rw [Except.ok.injEq]
    exact eq_comm

private theorem requestsIn_eq_error_iff : requestsIn text = .error fault ↔
    ∃ before piece after, text.splitOn ';' = before ++ piece :: after ∧
      (∀ earlier ∈ before, ∃ own, Asks earlier own) ∧ Offends piece fault := by
  rw [requestsIn, bind_eq_error]
  have returns (named : List (List Enabling)) :
      ¬(pure named.flatten : Except SettingError _) = .error fault := by
    intro impossible
    cases impossible
  simp only [returns, and_false, exists_false, or_false, mapM_eq_error_iff, requestsOf_eq_ok_iff,
    requestsOf_eq_error_iff]

/-- A text is read exactly if all its pieces have a form, as the list that holds
what they ask for; otherwise it is refused for the offence of the first piece
without one. -/
theorem parse_reads_grammar (text : String) :
    ((∃ list, parse text = .ok list) ↔
        ∀ piece ∈ text.toList.splitOn ';', ∃ requests, Asks piece requests) ∧
      (∀ list, parse text = .ok list ↔
        ∃ named, List.Forall₂ Asks (text.toList.splitOn ';') named ∧
          list.Holds {request | request ∈ named.flatten}) ∧
      ∀ fault, parse text = .error fault ↔
        ∃ before piece after, text.toList.splitOn ';' = before ++ piece :: after ∧
          (∀ earlier ∈ before, ∃ requests, Asks earlier requests) ∧ Offends piece fault := by
  have parseIs : parse text =
      (requestsIn text.toList >>= fun requests => .ok (empty.enableAll requests)) :=
    parseChars_eq text.toList
  refine ⟨?_, fun list => ?_, fun fault => ?_⟩
  · have readable : (∃ list, parse text = .ok list) ↔
        ∃ requests, requestsIn text.toList = .ok requests := by
      simp only [parseIs, bind_eq_ok, Except.ok.injEq]
      rw [exists_comm]
      simp only [exists_and_left, exists_eq', and_true]
    rw [readable, exists_requestsIn_iff]
    simp only [requestsOf_eq_ok_iff]
  · simp only [parseIs, bind_eq_ok, Except.ok.injEq, requestsIn_eq_ok_iff]
    constructor
    · rintro ⟨requests, ⟨named, forms, rfl⟩, rfl⟩
      exact ⟨named, forms, holds_enableAll named.flatten⟩
    · rintro ⟨named, forms, holds⟩
      exact ⟨named.flatten, ⟨named, forms, rfl⟩, (holds_enableAll named.flatten).unique holds⟩
  · simp only [parseIs, bind_eq_error, reduceCtorEq, and_false, exists_false, or_false,
      requestsIn_eq_error_iff]

-- White space may stand around a name or a key, but not inside a key.
example : parse "fullJIT : 3.12 , +03.4;;" =
    .ok ((empty.enableFor .fullJit ⟨⟨3⟩, ⟨12⟩⟩).enableFor .fullJit ⟨⟨3⟩, ⟨4⟩⟩) := by
  rfl

example : parse "FullJit:3.12,3 .4;JIT" = .error (.invalidFunctionKey "3 .4") := by
  rfl

end PhaseList

end JitSnapshot
