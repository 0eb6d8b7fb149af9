import JitSnapshot.Proofs.Wire.Snapshot

set_option autoImplicit false

/-!
Inputs that go on. A codec reads from the front, so what it finds in an input
it finds in every longer one, and what it refuses stays refused; only an input
that ends too early can still become anything. An encoding that is cut off
anywhere is such an input: nothing before its last byte settles how it is read.
-/

namespace JitSnapshot

namespace Wire

/-- How an input is read and how it is read with `more` behind it: unless it ended too
early, the same value or the same fault is found, and `more` is left over as well. -/
inductive GoesOn {α : Type} (more : List UInt8) :
    Except ReadFault (α × List UInt8) → Except ReadFault (α × List UInt8) → Prop
  | cut (longer : Except ReadFault (α × List UInt8)) : GoesOn more (.error .endOfInput) longer
  | fails (fault : ReadFault) : GoesOn more (.error fault) (.error fault)
  | reads (value : α) (rest : List UInt8) :
      GoesOn more (.ok (value, rest)) (.ok (value, rest ++ more))

/-- Readers in sequence: the second one starts from what the first one left. -/
theorem GoesOn.followed {α β : Type} {more : List UInt8}
    {outcome longer : Except ReadFault (α × List UInt8)}
    {next : α × List UInt8 → Except ReadFault (β × List UInt8)}
    (goesOn : GoesOn more outcome longer)
    (onward : ∀ value rest, GoesOn more (next (value, rest)) (next (value, rest ++ more))) :
    GoesOn more (outcome >>= next) (longer >>= next) := by
  cases goesOn with
  | cut longer => exact .cut _
  | fails fault => exact .fails fault
  | reads value rest => exact onward value rest

namespace Codec

variable {α β : Type} {codec : Codec α}

/-- Reading is decided by the bytes that have been read. -/
def Steady (codec : Codec α) : Prop :=
  ∀ input more, GoesOn more (codec.read input) (codec.read (input ++ more))

namespace Steady

theorem iso (steady : codec.Steady) (pack : α → β) (unpack : β → α) :
    (codec.iso pack unpack).Steady := by
  intro input more
  exact (steady input more).followed fun value rest => .reads (pack value) rest

theorem pair {right : Codec β} (steady : codec.Steady) (steadyRight : right.Steady) :
    (codec.pair right).Steady := by
  intro input more
  refine (steady input more).followed fun first mid => ?_
  exact (steadyRight mid more).followed fun second rest => .reads (first, second) rest

/-- Where a value is read exactly, nothing is read before all of its bytes are there. -/
private theorem read_cut {fits : α → Prop} (steady : codec.Steady) (exact : codec.Exact fits)
    {value : α} (fit : fits value) {input more : List UInt8}
    (written : input ++ more = codec.write value) (missing : more ≠ []) :
    codec.read input = .error .endOfInput := by
  have whole : codec.read (input ++ more) = .ok (value, []) := by
    rw [written, ← List.append_nil (codec.write value)]
    exact exact.read_write fit []
  have goesOn := steady input more
  rw [whole] at goesOn
  generalize codec.read input = outcome, allRead : Except.ok (value, []) = longer at goesOn ⊢
  cases goesOn with
  | cut longer => rfl
  | fails fault => cases allRead
  | reads other rest =>
      have nothing : [] = rest ++ more := congrArg Prod.snd (Except.ok.inj allRead)
      exact absurd (List.append_eq_nil_iff.mp nothing.symm).2 missing

end Steady

/-! ### Words -/

private theorem bytes_steady (count : Nat) : (bytes count).Steady := by
  intro input more
  cases split : takeBytes? count input with
  | none =>
      have ended : (bytes count).read input = .error .endOfInput := by simp only [bytes, split]
      rw [ended]
      exact .cut _
  | some parts =>
      obtain ⟨front, rest⟩ := parts
      obtain ⟨counted, rfl⟩ := takeBytes?_eq_some_iff.mp split
      have here : (bytes count).read (front ++ rest) = .ok (front, rest) :=
        (bytes_exact count).read_write counted rest
      have longer : (bytes count).read (front ++ rest ++ more) = .ok (front, rest ++ more) := by
        rw [List.append_assoc]
        exact (bytes_exact count).read_write counted _
      rw [here, longer]
      exact .reads front rest

private theorem word_steady (width : Nat) : (word width).Steady :=
  (bytes_steady width).iso _ _

private theorem uint8_steady : uint8.Steady :=
  (word_steady 1).iso _ _

private theorem uint16_steady : uint16.Steady :=
  (word_steady 2).iso _ _

private theorem uint32_steady : uint32.Steady :=
  (word_steady 4).iso _ _

private theorem uint64_steady : uint64.Steady :=
  (word_steady 8).iso _ _

/-! ### Options, lists, texts -/

private theorem option_steady (steady : codec.Steady) : codec.option.Steady := by
  intro input more
  cases input with
  | nil => exact .cut _
  | cons tag input =>
      by_cases absent : tag = 0
      · simp only [option, List.cons_append, if_pos absent]
        exact .reads none input
      · by_cases present : tag = 1
        · simp only [option, List.cons_append, if_neg absent, if_pos present]
          exact (steady input more).followed fun value rest => .reads (some value) rest
        · simp only [option, List.cons_append, if_neg absent, if_neg present]
          exact .fails _

/-- Entry after entry: where one of them is cut off or refused, so is the whole list. -/
private theorem readMany_steady (steady : codec.Steady) (count : Nat) (entries : Array α)
    (input more : List UInt8) :
    GoesOn more (codec.readMany count entries input)
      (codec.readMany count entries (input ++ more)) := by
  induction count generalizing entries input with
  | zero => exact .reads entries input
  | succ count ih =>
      have goesOn := steady input more
      rw [readMany, readMany]
      generalize codec.read input = outcome, codec.read (input ++ more) = longer at goesOn ⊢
      cases goesOn with
      | cut longer => exact .cut _
      | fails fault => exact .fails fault
      | reads entry rest => exact ih (entries.push entry) rest

private theorem array_steady (steady : codec.Steady) : codec.array.Steady := by
  intro input more
  refine (word_steady 8 input more).followed fun count rest => ?_
  exact readMany_steady steady count #[] rest more

private theorem list_steady (steady : codec.Steady) : codec.list.Steady :=
  (array_steady steady).iso _ _

private theorem text_steady : text.Steady := by
  intro input more
  refine (word_steady 8 input more).followed fun length mid => ?_
  refine (bytes_steady length mid more).followed fun encoded rest => ?_
  cases decoded : Utf8.decode encoded with
  | ok value =>
      simp only [decoded]
      exact .reads value rest
  | error fault =>
      simp only [decoded]
      exact .fails (.badText fault)

end Codec

open Codec

/-! ### Records -/

private theorem address_steady : address.Steady :=
  uint64_steady.iso _ _

private theorem ident_steady (kind : IdKind) : (ident kind).Steady :=
  uint32_steady.iso _ _

private theorem flags_steady (kind : FlagKind) : (flags kind).Steady :=
  uint8_steady.iso _ _

private theorem range_steady (kind : ListKind) : (range kind).Steady :=
  (uint32_steady.pair uint32_steady).iso _ _

private theorem optionalIdent_steady (kind : IdKind) : (ident kind).option.Steady :=
  option_steady (ident_steady kind)

private theorem node_steady : node.Steady :=
  (address_steady.pair <| address_steady.pair <| address_steady.pair <| address_steady.pair <|
    (optionalIdent_steady _).pair <| (optionalIdent_steady _).pair <|
    (range_steady _).pair <| (range_steady _).pair <| (range_steady _).pair <|
    (range_steady _).pair <| (range_steady _).pair <|
    (optionalIdent_steady _).pair <| (ident_steady _).pair <| flags_steady _).iso _ _

private theorem body_steady : body.Steady :=
  (address_steady.pair <| (ident_steady _).pair <| (ident_steady _).pair <|
    uint16_steady.pair <| uint32_steady.pair <| (flags_steady _).pair <| text_steady.pair <|
    optionalIdent_steady _).iso _ _

private theorem runtime_steady : runtime.Steady :=
  (range_steady _).iso _ _

private theorem profile_steady : profile.Steady :=
  (list_steady uint64_steady).iso _ _

private theorem typeSpec_steady : typeSpec.Steady :=
  (list_steady uint64_steady).iso _ _

private theorem arena_steady : arena.Steady :=
  ((array_steady node_steady).pair <| (array_steady body_steady).pair <|
    (array_steady runtime_steady).pair <| (array_steady profile_steady).pair <|
    (array_steady (optionalIdent_steady .node)).pair <| (array_steady address_steady).pair <|
    (array_steady (ident_steady .property)).pair <|
    array_steady (option_steady typeSpec_steady)).iso _ _

private theorem header_steady : header.Steady :=
  ((bytes_steady 4).pair (uint16_steady.pair uint32_steady)).iso _ _

theorem snapshot_steady : snapshot.Steady :=
  ((ident_steady .node).pair arena_steady).iso _ _

end Wire

namespace Snapshot

variable {snapshot : Snapshot} {bytes : List UInt8}

/-- Whatever decoding has found, a snapshot or a fault, it finds as well with more bytes
behind; it is only after too few bytes that more of them can matter. -/
theorem decode_append (settled : decode bytes ≠ .error (.unreadable .endOfInput))
    (trailing : List UInt8) : decode (bytes ++ trailing) = decode bytes := by
  unfold decode at settled ⊢
  have atHeader := Wire.header_steady bytes trailing
  generalize Wire.header.read bytes = outcome,
    Wire.header.read (bytes ++ trailing) = longer at atHeader settled ⊢
  cases atHeader with
  | cut longer => exact absurd rfl settled
  | fails fault => rfl
  | reads header payload =>
      simp only at settled ⊢
      cases checked : header.check with
      | error error => rfl
      | ok passed =>
          simp only [checked] at settled
          have atPayload := Wire.snapshot_steady payload trailing
          generalize Wire.snapshot.read payload = outcome,
            Wire.snapshot.read (payload ++ trailing) = longer at atPayload settled ⊢
          cases atPayload with
          | cut longer => exact absurd rfl settled
          | fails fault => rfl
          | reads found rest => rfl

/-- The encoding of an arena with a named body, where a blank has come into a character of
the name that takes two bytes. -/
def brokenName : List UInt8 :=
  (encode { root := ⟨0⟩, arena := namedAndLooped }).set 244 32

theorem decode_append_brokenName :
    decode brokenName = .error (.unreadable (.badText (.invalid 2 1))) ∧
      decode (brokenName ++ [0, 255]) = .error (.unreadable (.badText (.invalid 2 1))) := by
  have refused : decode brokenName = .error (.unreadable (.badText (.invalid 2 1))) := by
    decide +kernel
  have settled : decode brokenName ≠ .error (.unreadable .endOfInput) := by
    rw [refused]
    decide
  exact ⟨refused, (decode_append settled [0, 255]).trans refused⟩

/-- An encoding that lacks even its last byte is refused as too short, for nothing else. -/
theorem decode_take_encode (countable : snapshot.arena.Countable) {count : Nat}
    (short : count < snapshot.encode.length) :
    decode (snapshot.encode.take count) = .error (.unreadable .endOfInput) := by
  have missing : snapshot.encode.drop count ≠ [] := by
    rw [Ne, List.drop_eq_nil_iff]
    exact Nat.not_le.mpr short
  have whole : Wire.header.read (snapshot.encode.take count ++ snapshot.encode.drop count) =
      .ok (.current, Wire.snapshot.write snapshot) := by
    rw [List.take_append_drop]
    exact Wire.header_exact.read_write rfl _
  have atHeader := Wire.header_steady (snapshot.encode.take count) (snapshot.encode.drop count)
  rw [whole] at atHeader
  unfold decode
  generalize Wire.header.read (snapshot.encode.take count) = outcome,
    allRead : Except.ok (Wire.Header.current, Wire.snapshot.write snapshot) = longer
    at atHeader ⊢
  cases atHeader with
  | cut longer => rfl
  | fails fault => cases allRead
  | reads header payload =>
      obtain ⟨rfl, written⟩ := Prod.mk.inj (Except.ok.inj allRead)
      have checked : Wire.Header.current.check = .ok () := Wire.Header.check_eq_ok_iff.mpr rfl
      have ended := Wire.snapshot_steady.read_cut Wire.snapshot_exact countable written.symm missing
      simp only [checked, ended]

/-- The cut goes through a character of the name. -/
theorem decode_take_encode_namedAndLooped :
    namedAndLooped.Countable ∧ 244 < (encode { root := ⟨0⟩, arena := namedAndLooped }).length ∧
      decode ((encode { root := ⟨0⟩, arena := namedAndLooped }).take 244) =
        .error (.unreadable .endOfInput) := by
  have short : 244 < (encode { root := ⟨0⟩, arena := namedAndLooped }).length := by
    decide +kernel
  exact ⟨countable_namedAndLooped, short, decode_take_encode countable_namedAndLooped short⟩

end Snapshot

end JitSnapshot
