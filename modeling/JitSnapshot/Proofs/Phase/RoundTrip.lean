import JitSnapshot.Phase.Text
import JitSnapshot.Proofs.Outcome
import JitSnapshot.Proofs.Phase.Entries
import JitSnapshot.Proofs.Text.Pieces

set_option autoImplicit false

/-!
The text of a phase list, read again. The printer goes from phase to phase and
names a key once for every phase that it holds; the reader puts the phases of a
key together again. What comes back is the normal form of the list: bits
without a name have no place in the text, nor has an entry for no phases.

Reading never yields anything but normal lists, so a list read from a text is
told by its canonical text.
-/

namespace JitSnapshot

/-! ### Names and keys -/

namespace Phase

variable {phase : Phases} {name : String} {char : Char}

theorem ofName?_toList (isNamed : (phase, name) ∈ named) : ofName? name.toList = some phase := by
  have spelled : ∀ entry ∈ named, ofName? entry.2.toList = some entry.1 := by decide
  exact spelled (phase, name) isNamed

private theorem name_ne_nil (isNamed : (phase, name) ∈ named) : name.toList ≠ [] := by
  have spelled : ∀ entry ∈ named, entry.2.toList ≠ [] := by decide
  exact spelled (phase, name) isNamed

theorem isAlpha_of_mem_name (isNamed : (phase, name) ∈ named) (member : char ∈ name.toList) :
    char.isAlpha = true := by
  have letters : ∀ entry ∈ named, entry.2.toList.all Char.isAlpha = true := by decide
  exact List.all_eq_true.mp (letters (phase, name) isNamed) char member

theorem colon_not_mem_name (isNamed : (phase, name) ∈ named) : ':' ∉ name.toList := by
  intro member
  exact absurd (isAlpha_of_mem_name isNamed member) (by decide)

/-- Every phase with a name is a set of named bits, and not the empty one. -/
theorem proper_of_ofName? {text : List Char} (found : ofName? text = some phase) :
    phase.isKnown = true ∧ phase.isEmpty = false := by
  have proper : ∀ entry ∈ named, entry.1.isKnown = true ∧ entry.1.isEmpty = false := by decide
  obtain ⟨entry, foundEntry, same⟩ := Option.map_eq_some_iff.mp found
  cases same
  exact proper entry (List.mem_of_find?_eq_some foundEntry)

/-- The chosen among some named phases, put together with what was found before. -/
def collect (chosen : Phases → Bool) (found : Option Phases) (entries : List (Phases × String)) :
    Option Phases :=
  entries.foldl (fun found entry =>
    if chosen entry.1 then some ((found.getD .empty).union entry.1) else found) found

/-- The named phases that a set contains make up all of the set that has a name. -/
private theorem collect_contained (held : Phases) :
    collect held.contains none named =
      if held.truncate.isEmpty then none else some held.truncate := by
  obtain ⟨⟨bits⟩⟩ := held
  revert bits
  decide +kernel

end Phase

namespace FunctionKey

variable {char : Char}

private theorem isDigit_or_point_of_mem_chars {key : FunctionKey} (member : char ∈ key.chars) :
    char.isDigit = true ∨ char = '.' := by
  rcases List.mem_append.mp member with inSource | afterSource
  · exact Or.inl (Numeral.isDigit_of_mem_decimal inSource)
  · rcases List.mem_cons.mp afterSource with atPoint | inLocal
    · exact Or.inr atPoint
    · exact Or.inl (Numeral.isDigit_of_mem_decimal inLocal)

theorem ofChars?_chars (key : FunctionKey) : ofChars? key.chars = some key := by
  have noPoint : '.' ∉ Nat.toDigits 10 key.source.raw.toNat :=
    Numeral.not_mem_decimal _ (by decide)
  rw [ofChars?, chars, Separated.cutFirst?_append noPoint]
  simp only [Option.bind_eq_bind, Option.bind_some, Numeral.toUInt32?_decimal]
  rfl

end FunctionKey

namespace PhaseList

variable {list start : PhaseList} {phase : Phases} {name : String} {piece : List Char} {char : Char}
  {key : FunctionKey} {keys : List FunctionKey} {entries : List (Phases × String)}

/-! ### The pieces of a text -/

/-- What the printer writes between two separators: letters and digits, and the marks that stand
inside an entry. -/
def Plain (piece : List Char) : Prop :=
  piece ≠ [] ∧ ∀ char ∈ piece, char.isAlphanum = true ∨ char ∈ ['.', ',', ':']

theorem Plain.solid (plain : Plain piece) : ∀ char ∈ piece, Blank.isBlank char = false := by
  intro char member
  rcases plain.2 char member with alphanumeric | mark
  · exact Blank.isBlank_eq_false_of_isAlphanum alphanumeric
  · have solidMarks : ['.', ',', ':'].any Blank.isBlank = false := by decide
    exact Bool.eq_false_iff.mpr (List.any_eq_false.mp solidMarks char mark)

theorem Plain.undivided (plain : Plain piece) : ';' ∉ piece := by
  intro member
  have neither : ¬(';'.isAlphanum = true ∨ ';' ∈ ['.', ',', ':']) := by decide
  exact neither (plain.2 ';' member)

private theorem plain_name (isNamed : (phase, name) ∈ Phase.named) : Plain name.toList := by
  refine ⟨Phase.name_ne_nil isNamed, fun char member => Or.inl ?_⟩
  rw [Char.isAlphanum, Phase.isAlpha_of_mem_name isNamed member, Bool.true_or]

private theorem plain_key (key : FunctionKey) : Plain key.chars := by
  refine ⟨List.append_ne_nil_of_right_ne_nil _ (List.cons_ne_nil _ _), fun char member => ?_⟩
  rcases FunctionKey.isDigit_or_point_of_mem_chars member with digit | atPoint
  · exact Or.inl (by rw [Char.isAlphanum, digit, Bool.or_true])
  · exact Or.inr (by rw [atPoint]; decide)

private theorem eq_nil_of_keyedPiece? (notShown : keyedPiece? name keys = none) : keys = [] := by
  rcases keys with _ | ⟨key, more⟩
  · rfl
  · contradiction

theorem eq_of_keyedPiece? (shown : keyedPiece? name keys = some piece) :
    keys ≠ [] ∧
      piece = name.toList ++ ':' :: Separated.join ',' (keys.map FunctionKey.chars) := by
  rcases keys with _ | ⟨key, more⟩
  · contradiction
  · cases shown
    exact ⟨List.cons_ne_nil _ _, rfl⟩

private theorem plain_keyed (isNamed : (phase, name) ∈ Phase.named)
    (shown : keyedPiece? name keys = some piece) : Plain piece := by
  obtain ⟨_, rfl⟩ := eq_of_keyedPiece? shown
  refine ⟨List.append_ne_nil_of_right_ne_nil _ (List.cons_ne_nil _ _), fun char member => ?_⟩
  rcases List.mem_append.mp member with inName | afterName
  · exact (plain_name isNamed).2 char inName
  rcases List.mem_cons.mp afterName with atColon | inKeys
  · exact Or.inr (by rw [atColon]; decide)
  rcases Separated.mem_join inKeys with atComma | ⟨text, isKey, inText⟩
  · exact Or.inr (by rw [atComma]; decide)
  obtain ⟨key, _, same⟩ := List.mem_map.mp isKey
  cases same
  exact (plain_key key).2 char inText

theorem plain_of_mem_pieces (member : piece ∈ list.globalPieces ++ list.keyedPieces) :
    Plain piece := by
  rcases List.mem_append.mp member with inGlobal | inKeyed
  · obtain ⟨⟨phase, name⟩, isNamed, shown⟩ := List.mem_filterMap.mp inGlobal
    obtain ⟨_, same⟩ := Option.ite_none_right_eq_some.mp shown
    cases same
    exact plain_name isNamed
  · obtain ⟨⟨phase, name⟩, isNamed, shown⟩ := List.mem_filterMap.mp inKeyed
    exact plain_keyed isNamed shown

/-- The reader finds the pieces that the printer joined. -/
private theorem entriesOf_chars (list : PhaseList) :
    entriesOf list.chars = list.globalPieces ++ list.keyedPieces := by
  have plain : ∀ piece ∈ list.globalPieces ++ list.keyedPieces, Plain piece :=
    fun piece => plain_of_mem_pieces
  rw [entriesOf, chars]
  rcases pieces : list.globalPieces ++ list.keyedPieces with _ | ⟨first, rest⟩
  · rfl
  rw [pieces] at plain
  rw [Separated.splitOn_join (List.cons_ne_nil _ _) fun piece member =>
    (plain piece member).undivided]
  have trimmed : (first :: rest).map Blank.trim = first :: rest := by
    refine (List.map_congr_left fun piece member => ?_).trans (List.map_id _)
    exact Blank.trim_eq_self (plain piece member).solid
  rw [trimmed, List.filter_eq_self]
  intro piece member
  rw [Bool.not_eq_true']
  exact List.isEmpty_eq_false_iff.mpr (plain piece member).1

/-! ### Reading the pieces -/

private theorem addEntry_name (isNamed : (phase, name) ∈ Phase.named) (list : PhaseList) :
    addEntry list name.toList = .ok (list.enable phase) := by
  rw [addEntry, nameAndKeys, Separated.cutFirst?_eq_none (Phase.colon_not_mem_name isNamed)]
  simp only [Phase.ofName?_toList isNamed]

private theorem addKey_chars (phase : Phases) (list : PhaseList) (key : FunctionKey) :
    addKey phase list key.chars = .ok (list.enableFor phase key) := by
  simp only [addKey, Blank.trim_eq_self (plain_key key).solid, FunctionKey.ofChars?_chars]

private theorem foldlM_addKey (phase : Phases) (list : PhaseList) (keys : List FunctionKey) :
    (keys.map FunctionKey.chars).foldlM (addKey phase) list =
      .ok (list.enableForAll phase keys) := by
  induction keys generalizing list with
  | nil => rfl
  | cons key rest ih =>
      rw [List.map_cons, List.foldlM_cons, addKey_chars, ok_bind, ih]
      rfl

private theorem addEntry_keyed (isNamed : (phase, name) ∈ Phase.named) (list : PhaseList)
    (shown : keyedPiece? name keys = some piece) :
    addEntry list piece = .ok (list.enableForAll phase keys) := by
  obtain ⟨someKey, rfl⟩ := eq_of_keyedPiece? shown
  have noComma : ∀ text ∈ keys.map FunctionKey.chars, ',' ∉ text := by
    intro text isKey member
    obtain ⟨key, _, same⟩ := List.mem_map.mp isKey
    cases same
    exact absurd (FunctionKey.isDigit_or_point_of_mem_chars member) (by decide)
  have parts : (Separated.join ',' (keys.map FunctionKey.chars)).splitOn ',' =
      keys.map FunctionKey.chars :=
    Separated.splitOn_join (mt List.map_eq_nil_iff.mp someKey) noComma
  rw [addEntry, nameAndKeys, Separated.cutFirst?_append (Phase.colon_not_mem_name isNamed)]
  simp only [Blank.trim_eq_self (plain_name isNamed).solid, Phase.ofName?_toList isNamed, parts]
  exact foldlM_addKey phase list keys

/-- After the pieces for all functions, the list holds what they name besides what it held. -/
private theorem addEntry_globals (held : Phases) {found : Option Phases}
    (areNamed : ∀ entry ∈ entries, entry ∈ Phase.named)
    (before : start.everywhere = found.getD .empty) :
    ∃ result, (entries.filterMap fun (phase, name) =>
        if held.contains phase then some name.toList else none).foldlM addEntry start = .ok result ∧
      result.everywhere = (Phase.collect held.contains found entries).getD .empty ∧
      result.entries = start.entries := by
  induction entries generalizing start found with
  | nil => exact ⟨start, rfl, before, rfl⟩
  | cons first rest ih =>
      obtain ⟨phase, name⟩ := first
      have isNamed := areNamed _ List.mem_cons_self
      have restNamed : ∀ entry ∈ rest, entry ∈ Phase.named := fun entry member =>
        areNamed entry (List.mem_cons_of_mem _ member)
      rw [List.filterMap_cons, Phase.collect, List.foldl_cons]
      by_cases contained : held.contains phase = true
      · simp only [contained, if_true]
        rw [List.foldlM_cons, addEntry_name isNamed, ok_bind]
        exact ih restNamed (congrArg (Flags.union · phase) before)
      · simp only [contained, if_false, Bool.false_eq_true]
        exact ih restNamed before

/-- After the pieces with keys, a key holds what they name for it besides what it held. -/
private theorem addEntry_keyeds (keysOf : Phases → List FunctionKey)
    (areNamed : ∀ entry ∈ entries, entry ∈ Phase.named) (start : PhaseList) :
    ∃ result, (entries.filterMap fun (phase, name) =>
        keyedPiece? name (keysOf phase)).foldlM addEntry start = .ok result ∧
      result.everywhere = start.everywhere ∧
      ∀ key, result.held? key =
        Phase.collect (fun phase => decide (key ∈ keysOf phase)) (start.held? key) entries := by
  induction entries generalizing start with
  | nil => exact ⟨start, rfl, rfl, fun _ => rfl⟩
  | cons first rest ih =>
      obtain ⟨phase, name⟩ := first
      have isNamed := areNamed _ List.mem_cons_self
      have restNamed : ∀ entry ∈ rest, entry ∈ Phase.named := fun entry member =>
        areNamed entry (List.mem_cons_of_mem _ member)
      obtain ⟨result, finished, everywhere, held⟩ :=
        ih restNamed (start.enableForAll phase (keysOf phase))
      refine ⟨result, ?_, ?_, fun key => ?_⟩
      · rcases shown : keyedPiece? name (keysOf phase) with _ | piece
        · simp only [List.filterMap_cons, shown]
          rw [eq_nil_of_keyedPiece? shown] at finished
          exact finished
        · simp only [List.filterMap_cons, shown]
          rw [List.foldlM_cons, addEntry_keyed isNamed _ shown, ok_bind]
          exact finished
      · rw [everywhere, everywhere_enableForAll]
      · rw [held, held?_enableForAll, Phase.collect, Phase.collect, List.foldl_cons]
        simp only [decide_eq_true_eq]

theorem mem_keysOf (list : PhaseList) (phase : Phases) (key : FunctionKey) :
    key ∈ list.keysOf phase ↔ ∃ held, list.held? key = some held ∧ held.contains phase = true := by
  rw [keysOf, List.mem_map]
  constructor
  · rintro ⟨entry, member, same⟩
    cases same
    obtain ⟨present, contained⟩ := List.mem_filter.mp member
    exact ⟨entry.2, held?_eq_some_iff.mpr present, contained⟩
  · rintro ⟨held, found, contained⟩
    exact ⟨(key, held), List.mem_filter.mpr ⟨held?_eq_some_iff.mp found, contained⟩, rfl⟩

/-- What is collected for a key from the keys of all phases is what its normal entry holds. -/
private theorem collect_keysOf (list : PhaseList) (key : FunctionKey) :
    Phase.collect (fun phase => decide (key ∈ list.keysOf phase)) none Phase.named =
      list.normal.held? key := by
  rw [held?_normal]
  rcases found : list.held? key with _ | held
  · have never : (fun phase => decide (key ∈ list.keysOf phase)) = fun _ => false := by
      funext phase
      rw [decide_eq_false_iff_not, mem_keysOf, found]
      rintro ⟨held, impossible, _⟩
      contradiction
    rw [never]
    rfl
  · have contained : (fun phase => decide (key ∈ list.keysOf phase)) = held.contains := by
      funext phase
      rw [Bool.eq_iff_iff, decide_eq_true_eq, mem_keysOf, found]
      simp only [Option.some.injEq, exists_eq_left']
    rw [contained, Phase.collect_contained, Option.bind_some]

theorem parseChars_chars (list : PhaseList) : parseChars list.chars = .ok list.normal := by
  have nothingFound : empty.everywhere = (none : Option Phases).getD .empty := rfl
  obtain ⟨shared, readGlobals, sharedEverywhere, sharedEntries⟩ :=
    addEntry_globals list.everywhere (fun entry isNamed => isNamed) nothingFound
  obtain ⟨result, readKeyed, everywhere, held⟩ :=
    addEntry_keyeds list.keysOf (fun entry isNamed => isNamed) shared
  rw [parseChars, entriesOf_chars, List.foldlM_append]
  refine (congrArg (· >>= _) readGlobals).trans (readKeyed.trans (congrArg Except.ok ?_))
  refine ext_held ?_ fun key => ?_
  · rw [everywhere, sharedEverywhere, Phase.collect_contained]
    split
    · rename_i nothing
      exact congrArg Flags.mk (beq_iff_eq.mp nothing).symm
    · rfl
  · have nothingYet : shared.held? key = none := by
      rw [held?, sharedEntries]
      rfl
    rw [held, nothingYet, collect_keysOf]

/-! ### What reading yields -/

private theorem isNormal_addKey {text : List Char} {result : PhaseList}
    (known : phase.isKnown = true)
    (nonempty : phase.isEmpty = false) (added : addKey phase list text = .ok result)
    (isNormal : list.IsNormal) : result.IsNormal := by
  simp only [addKey] at added
  split at added
  · contradiction
  · cases added
    exact isNormal.enableFor known nonempty _

private theorem isNormal_addEntry {text : List Char} {result : PhaseList}
    (added : addEntry list text = .ok result) (isNormal : list.IsNormal) : result.IsNormal := by
  simp only [addEntry] at added
  split at added
  · contradiction
  · rename_i phase found
    obtain ⟨known, nonempty⟩ := Phase.proper_of_ofName? found
    split at added
    · cases added
      exact isNormal.enable known
    · exact foldlM_keeps (fun _ _ _ => isNormal_addKey known nonempty) added isNormal

theorem isNormal_of_parse {text : String} (parsed : parse text = .ok list) : list.IsNormal :=
  foldlM_keeps (fun _ _ _ => isNormal_addEntry) parsed IsNormal.empty

theorem parse_text (list : PhaseList) : parse list.text = .ok list.normal := by
  rw [parse, text, String.toList_ofList]
  exact parseChars_chars list

theorem parse_text_eq_self_iff : parse list.text = .ok list ↔ list.IsNormal := by
  rw [parse_text, Except.ok.injEq, normal_eq_self_iff]

/-- The text of a list stands for its normal form, and for texts that can be
read it is canonical: what they are read as is normal, and the same exactly when
it prints the same. -/
theorem text_normalizes :
    (∀ list : PhaseList, parse list.text = .ok list.normal) ∧
      (∀ text list, parse text = .ok list → list.normal = list ∧ parse list.text = .ok list) ∧
      ∀ leftText rightText left right, parse leftText = .ok left → parse rightText = .ok right →
        (left = right ↔ left.text = right.text) := by
  refine ⟨parse_text, ?_, ?_⟩
  · intro text list parsed
    have isNormal := isNormal_of_parse parsed
    exact ⟨normal_eq_self_iff.mpr isNormal, parse_text_eq_self_iff.mpr isNormal⟩
  · intro leftText rightText left right leftParsed rightParsed
    constructor
    · exact congrArg text
    · intro sameText
      have readLeft := parse_text_eq_self_iff.mpr (isNormal_of_parse leftParsed)
      have readRight := parse_text_eq_self_iff.mpr (isNormal_of_parse rightParsed)
      rw [sameText, readRight] at readLeft
      exact (Except.ok.inj readLeft).symm

/-- Unnamed bits everywhere and for single keys, and a key with no phase at all. -/
def strayBits : PhaseList :=
  (((empty.enable ⟨5⟩).enableFor ⟨0x83⟩ ⟨⟨3⟩, ⟨12⟩⟩).enableFor ⟨0⟩ ⟨⟨1⟩, ⟨2⟩⟩).enableFor ⟨8⟩
    ⟨⟨4294967295⟩, ⟨0⟩⟩

/-- One phase for two keys. -/
def twoKeys : PhaseList :=
  (empty.enableFor .fullJit ⟨⟨3⟩, ⟨14⟩⟩).enableFor .fullJit ⟨⟨3⟩, ⟨12⟩⟩

theorem text_normalizes_strayBits :
    parse strayBits.text = .ok ((empty.enable ⟨1⟩).enableFor ⟨3⟩ ⟨⟨3⟩, ⟨12⟩⟩) ∧
      parse "fulljit: 3.14,+03.012" = .ok twoKeys ∧ parse twoKeys.text = .ok twoKeys ∧
      parse "JITLoopBody" = .ok (empty.enable .loopBody) ∧
      twoKeys.text ≠ (empty.enable .loopBody).text := by
  have keyed : parse "fulljit: 3.14,+03.012" = .ok twoKeys := by rfl
  have shared : parse "JITLoopBody" = .ok (empty.enable .loopBody) := by rfl
  have different : twoKeys ≠ empty.enable .loopBody := by decide
  refine ⟨?_, keyed, (text_normalizes.2.1 _ _ keyed).2, shared, ?_⟩
  · exact (text_normalizes.1 strayBits).trans (congrArg Except.ok (by decide))
  · exact mt (text_normalizes.2.2 _ _ _ _ keyed shared).mpr different

/-! ### Lists put together step by step -/

/-- A list that was put together by reading texts and enabling phases, those
for all functions and those for single keys of the stated kinds. -/
inductive Obtained (shared single : Phases → Prop) : PhaseList → Prop
  | new : Obtained shared single empty
  | read {text : String} {list : PhaseList} : parse text = .ok list → Obtained shared single list
  | enable {list : PhaseList} {phases : Phases} :
      Obtained shared single list → shared phases → Obtained shared single (list.enable phases)
  | enableFor {list : PhaseList} {phases : Phases} (key : FunctionKey) :
      Obtained shared single list → single phases →
        Obtained shared single (list.enableFor phases key)

theorem Obtained.isNormal
    (obtained : list.Obtained (fun phases => phases.isKnown = true)
      fun phases => phases.isKnown = true ∧ phases.isEmpty = false) : list.IsNormal := by
  induction obtained with
  | new => exact IsNormal.empty
  | read parsed => exact isNormal_of_parse parsed
  | enable _ known ih => exact ih.enable known
  | enableFor key _ proper ih => exact ih.enableFor proper.1 proper.2 key

/-- A list is read back from its text exactly if it is normal, and it is if
only phases with a name were enabled, and for single keys never none. -/
theorem reads_back_exactly (list : PhaseList) :
    (parse list.text = .ok list ↔ list.IsNormal) ∧
      (list.Obtained (fun phases => phases.isKnown = true)
          (fun phases => phases.isKnown = true ∧ phases.isEmpty = false) →
        parse list.text = .ok list) := by
  refine ⟨parse_text_eq_self_iff, fun obtained => ?_⟩
  exact parse_text_eq_self_iff.mpr obtained.isNormal

theorem reads_back_exactly_twoPhases :
    parse ((empty.enable .fullJit).enableFor ⟨3⟩ ⟨⟨3⟩, ⟨12⟩⟩).text =
      .ok ((empty.enable .fullJit).enableFor ⟨3⟩ ⟨⟨3⟩, ⟨12⟩⟩) := by
  refine (reads_back_exactly _).2 (.enableFor _ (.enable .new ?_) ?_)
  · decide
  · decide

/-- An entry for no phases has no place in the text, so a list with one is not read back. -/
theorem not_always_reads_back :
    ¬∀ list : PhaseList, list.Obtained (fun _ => True) (fun _ => True) →
      parse list.text = .ok list := by
  intro always
  have readBack := always (empty.enableFor .empty ⟨⟨1⟩, ⟨2⟩⟩) (.enableFor _ .new trivial)
  rw [parse_text, Except.ok.injEq] at readBack
  exact absurd readBack (by decide)

end PhaseList

end JitSnapshot
