import JitSnapshot.Proofs.Outcome
import JitSnapshot.Wire.Codec
import Mathlib.Algebra.Group.Nat.Defs

set_option autoImplicit false

/-!
What a codec reads is what it writes. A codec is exact for the values that fit
its format: a value is read off the front of an input just when it fits and the
input starts with the bytes that are written of it. This holds of words and
texts, and every way of putting codecs together keeps it.

Counts are words of eight bytes. A list of 2^64 entries or more would be
written with a wrong count, so only shorter ones fit.
-/

namespace JitSnapshot

theorem Utf8.decode_eq_ok_iff {bytes : List UInt8} {value : String} :
    decode bytes = .ok value ↔ bytes = encode value := by
  have sameBytes : bytes = encode value ↔ (⟨bytes.toArray⟩ : ByteArray) = value.toByteArray := by
    rw [ByteArray.ext_iff, ← Array.toList_inj]
    rfl
  rw [sameBytes, decode, String.fromUTF8?]
  by_cases valid : (⟨bytes.toArray⟩ : ByteArray).IsValidUTF8
  · rw [dif_pos valid, Except.ok.injEq, ← String.toByteArray_inj]
    rfl
  · rw [dif_neg valid]
    simp only [reduceCtorEq, false_iff]
    intro same
    exact valid (same ▸ value.isValidUTF8)

namespace Wire

theorem takeBytes?_eq_some_iff {count : Nat} {input front rest : List UInt8} :
    takeBytes? count input = some (front, rest) ↔
      front.length = count ∧ input = front ++ rest := by
  unfold takeBytes?
  constructor
  · intro split
    by_cases short : (input.take count).length < count
    · rw [if_pos short] at split
      cases split
    · rw [if_neg short] at split
      cases split
      refine ⟨?_, (List.take_append_drop count input).symm⟩
      exact Nat.le_antisymm (List.length_take_le count input) (Nat.not_lt.mp short)
  · rintro ⟨rfl, rfl⟩
    rw [List.take_left, List.drop_left, if_neg (Nat.lt_irrefl _)]

/-! ### Words as bytes -/

private theorem length_wordBytes (width value : Nat) : (wordBytes width value).length = width := by
  induction width generalizing value with
  | zero => rfl
  | succ width ih => rw [wordBytes, List.length_cons, ih]

private theorem wordValue_lt (bytes : List UInt8) : wordValue bytes < 256 ^ bytes.length := by
  induction bytes with
  | nil => exact Nat.one_pos
  | cons byte rest ih =>
      have low : byte.toNat < 256 := byte.toNat_lt
      rw [wordValue, List.length_cons, Nat.pow_succ]
      omega

private theorem wordValue_wordBytes {width value : Nat} (bounded : value < 256 ^ width) :
    wordValue (wordBytes width value) = value := by
  induction width generalizing value with
  | zero =>
      rw [Nat.pow_zero] at bounded
      exact (Nat.lt_one_iff.mp bounded).symm
  | succ width ih =>
      rw [Nat.pow_succ] at bounded
      have high : value / 256 < 256 ^ width := by omega
      rw [wordBytes, wordValue, ih high, UInt8.toNat_ofNat']
      exact Nat.mod_add_div value 256

private theorem wordBytes_wordValue (bytes : List UInt8) :
    wordBytes bytes.length (wordValue bytes) = bytes := by
  induction bytes with
  | nil => rfl
  | cons byte rest ih =>
      have low : byte.toNat < 256 := byte.toNat_lt
      have first : UInt8.ofNat (byte.toNat + 256 * wordValue rest) = byte := by
        apply UInt8.toNat_inj.mp
        rw [UInt8.toNat_ofNat']
        omega
      have later : (byte.toNat + 256 * wordValue rest) / 256 = wordValue rest := by omega
      rw [wordValue, List.length_cons, wordBytes, first, later, ih]

namespace Codec

variable {α β : Type} {codec : Codec α} {fits : α → Prop}

/-- A value is read exactly where the bytes of a value that fits are. -/
def Exact (codec : Codec α) (fits : α → Prop) : Prop :=
  ∀ input value rest,
    codec.read input = .ok (value, rest) ↔ fits value ∧ input = codec.write value ++ rest

namespace Exact

theorem read_write (exact : codec.Exact fits) {value : α} (fit : fits value)
    (rest : List UInt8) : codec.read (codec.write value ++ rest) = .ok (value, rest) :=
  (exact _ _ _).mpr ⟨fit, rfl⟩

/-- The bytes of one value are the front of another's only where both are the same value:
whatever follows them, reading finds the value that was written. -/
theorem prefix_free (exact : codec.Exact fits) {value other : α} (fit : fits value)
    (fitOther : fits other) (starts : codec.write value <+: codec.write other) :
    value = other := by
  obtain ⟨rest, longer⟩ := starts
  have readOther := exact.read_write fitOther []
  rw [List.append_nil, ← longer, exact.read_write fit rest] at readOther
  exact (Prod.mk.inj (Except.ok.inj readOther)).1

theorem congr {also : α → Prop} (exact : codec.Exact fits)
    (same : ∀ value, fits value ↔ also value) : codec.Exact also := by
  intro input value rest
  rw [exact, same]

/-- Codecs stay exact when values change their form, as long as no read value is lost
and the new form of a value that fits leads back to it. -/
theorem iso {also : β → Prop} {pack : α → β} {unpack : β → α} (exact : codec.Exact fits)
    (unpacked : ∀ value, fits value → unpack (pack value) = value)
    (same : ∀ value, also value ↔ fits (unpack value) ∧ pack (unpack value) = value) :
    (codec.iso pack unpack).Exact also := by
  intro input value rest
  simp only [Codec.iso, bind_eq_ok, Prod.exists]
  constructor
  · rintro ⟨inner, behind, wasRead, returned⟩
    cases returned
    obtain ⟨fit, split⟩ := (exact _ _ _).mp wasRead
    have back := unpacked inner fit
    exact ⟨(same _).mpr ⟨back.symm ▸ fit, congrArg pack back⟩, back.symm ▸ split⟩
  · rintro ⟨fit, rfl⟩
    obtain ⟨innerFit, packed⟩ := (same value).mp fit
    refine ⟨unpack value, rest, exact.read_write innerFit rest, ?_⟩
    rw [packed]
    rfl

/-- Where both forms of a value lead back to each other nothing but the form changes. -/
theorem rename {pack : α → β} {unpack : β → α} (exact : codec.Exact fits)
    (unpacked : ∀ value, unpack (pack value) = value)
    (packed : ∀ value, pack (unpack value) = value) :
    (codec.iso pack unpack).Exact fun value => fits (unpack value) :=
  exact.iso (fun value _ => unpacked value) fun value => by
    rw [packed value, and_iff_left rfl]

theorem pair {right : Codec β} {also : β → Prop} (exact : codec.Exact fits)
    (exactRight : right.Exact also) :
    (codec.pair right).Exact fun value => fits value.1 ∧ also value.2 := by
  rintro input ⟨first, second⟩ rest
  simp only [Codec.pair, bind_eq_ok, Prod.exists]
  constructor
  · rintro ⟨_, mid, readFirst, _, _, readSecond, returned⟩
    cases returned
    obtain ⟨fit, rfl⟩ := (exact _ _ _).mp readFirst
    obtain ⟨fitRight, rfl⟩ := (exactRight _ _ _).mp readSecond
    exact ⟨⟨fit, fitRight⟩, (List.append_assoc _ _ _).symm⟩
  · rintro ⟨⟨fit, fitRight⟩, rfl⟩
    rw [List.append_assoc]
    exact ⟨first, _, exact.read_write fit _, second, rest, exactRight.read_write fitRight rest, rfl⟩

end Exact

/-! ### Words -/

theorem bytes_exact (count : Nat) : (bytes count).Exact fun value => value.length = count := by
  intro input value rest
  refine Iff.trans ?_ takeBytes?_eq_some_iff
  simp only [bytes]
  cases takeBytes? count input with
  | none => simp only [reduceCtorEq]
  | some split => rw [Except.ok.injEq, Option.some.injEq]

theorem word_exact (width : Nat) : (word width).Exact fun value => value < 256 ^ width := by
  refine (bytes_exact width).iso ?_ ?_
  · rintro value rfl
    exact wordBytes_wordValue value
  · intro value
    rw [and_iff_right (length_wordBytes width value)]
    constructor
    · exact wordValue_wordBytes
    · intro same
      have bounded := wordValue_lt (wordBytes width value)
      rwa [same, length_wordBytes] at bounded

theorem uint8_exact : uint8.Exact fun _ => True :=
  (word_exact 1).iso (fun _ bounded => UInt8.toNat_ofNat_of_lt' bounded)
    fun value => by simp [value.toNat_lt]

theorem uint16_exact : uint16.Exact fun _ => True :=
  (word_exact 2).iso (fun _ bounded => UInt16.toNat_ofNat_of_lt' bounded)
    fun value => by simp [value.toNat_lt]

theorem uint32_exact : uint32.Exact fun _ => True :=
  (word_exact 4).iso (fun _ bounded => UInt32.toNat_ofNat_of_lt' bounded)
    fun value => by simp [value.toNat_lt]

theorem uint64_exact : uint64.Exact fun _ => True :=
  (word_exact 8).iso (fun _ bounded => UInt64.toNat_ofNat_of_lt' bounded)
    fun value => by simp [value.toNat_lt]

theorem count_exact : (word 8).Exact fun value => value < UInt64.size :=
  (word_exact 8).congr fun _ => Iff.rfl

/-! ### Options, lists, texts -/

theorem option_exact (exact : codec.Exact fits) :
    codec.option.Exact fun value => ∀ inner ∈ value, fits inner := by
  intro input value rest
  constructor
  · intro wasRead
    cases input with
    | nil => cases wasRead
    | cons tag input =>
        by_cases absent : tag = 0
        · simp only [option, if_pos absent] at wasRead
          cases wasRead
          exact ⟨fun _ impossible => (by cases impossible), by rw [absent]; rfl⟩
        · by_cases present : tag = 1
          · simp only [option, if_neg absent, if_pos present] at wasRead
            obtain ⟨⟨inner, behind⟩, readInner, returned⟩ := bind_eq_ok.mp wasRead
            cases returned
            obtain ⟨fit, rfl⟩ := (exact _ _ _).mp readInner
            exact ⟨fun _ same => Option.some.inj same ▸ fit, by rw [present]; rfl⟩
          · simp only [option, if_neg absent, if_neg present] at wasRead
            cases wasRead
  · rintro ⟨fit, rfl⟩
    cases value with
    | none => rfl
    | some inner => exact bind_eq_ok.mpr ⟨_, exact.read_write (fit inner rfl) rest, rfl⟩

private theorem readMany_eq_ok_iff (exact : codec.Exact fits) {count : Nat}
    {front entries : Array α} {input rest : List UInt8} :
    codec.readMany count front input = .ok (entries, rest) ↔
      ∃ behind, entries.toList = front.toList ++ behind ∧ behind.length = count ∧
        (∀ entry ∈ behind, fits entry) ∧ input = behind.flatMap codec.write ++ rest := by
  induction count generalizing front input with
  | zero =>
      rw [readMany]
      constructor
      · intro same
        cases same
        exact ⟨[], (List.append_nil _).symm, rfl, List.forall_mem_nil _, rfl⟩
      · rintro ⟨behind, same, counted, _, rfl⟩
        rw [List.length_eq_zero_iff.mp counted, List.append_nil] at same
        rw [List.length_eq_zero_iff.mp counted, Array.toList_inj.mp same]
        rfl
  | succ count ih =>
      rw [readMany]
      constructor
      · intro wasRead
        split at wasRead
        · cases wasRead
        · rename_i entry mid readEntry
          obtain ⟨fit, rfl⟩ := (exact _ _ _).mp readEntry
          obtain ⟨behind, same, rfl, fitBehind, rfl⟩ := ih.mp wasRead
          rw [Array.toList_push, List.append_assoc, List.singleton_append] at same
          refine ⟨entry :: behind, same, rfl, List.forall_mem_cons.mpr ⟨fit, fitBehind⟩, ?_⟩
          rw [List.flatMap_cons, List.append_assoc]
      · rintro ⟨behind, same, counted, fit, rfl⟩
        cases behind with
        | nil => cases counted
        | cons entry behind =>
            obtain ⟨fitEntry, fitBehind⟩ := List.forall_mem_cons.mp fit
            rw [List.flatMap_cons, List.append_assoc, exact.read_write fitEntry]
            refine ih.mpr ⟨behind, ?_, Nat.succ.inj counted, fitBehind, rfl⟩
            rw [same, Array.toList_push, List.append_assoc, List.singleton_append]

theorem array_exact (exact : codec.Exact fits) :
    codec.array.Exact fun entries =>
      entries.size < UInt64.size ∧ ∀ entry ∈ entries, fits entry := by
  intro input entries rest
  simp only [array, bind_eq_ok, Prod.exists, readMany_eq_ok_iff exact, Array.mem_def]
  constructor
  · rintro ⟨count, mid, readCount, behind, rfl, rfl, fit, rfl⟩
    obtain ⟨bounded, rfl⟩ := (count_exact _ _ _).mp readCount
    exact ⟨⟨bounded, fit⟩, (List.append_assoc _ _ _).symm⟩
  · rintro ⟨⟨bounded, fit⟩, rfl⟩
    rw [List.append_assoc]
    exact ⟨_, _, count_exact.read_write bounded _, entries.toList, rfl, rfl, fit, rfl⟩

theorem list_exact (exact : codec.Exact fits) :
    codec.list.Exact fun entries =>
      entries.length < UInt64.size ∧ ∀ entry ∈ entries, fits entry :=
  ((array_exact exact).rename (fun _ => rfl) (fun _ => rfl)).congr
    fun entries => by rw [List.size_toArray]; simp only [List.mem_toArray]

theorem text_exact : text.Exact fun value => value.utf8ByteSize < UInt64.size := by
  intro input value rest
  simp only [text, bind_eq_ok, Prod.exists]
  constructor
  · rintro ⟨length, mid, readLength, encoded, behind, readBytes, decoded⟩
    obtain ⟨bounded, rfl⟩ := (count_exact _ _ _).mp readLength
    obtain ⟨rfl, rfl⟩ := (bytes_exact _ _ _ _).mp readBytes
    split at decoded
    · rename_i found isText
      cases decoded
      rw [Utf8.decode_eq_ok_iff] at isText
      subst isText
      exact ⟨bounded, (List.append_assoc _ _ _).symm⟩
    · cases decoded
  · rintro ⟨bounded, rfl⟩
    rw [List.append_assoc]
    refine ⟨_, _, count_exact.read_write bounded _, Utf8.encode value, rest,
      (bytes_exact _).read_write rfl rest, ?_⟩
    rw [Utf8.decode_eq_ok_iff.mpr rfl]
    rfl

end Codec

end Wire

end JitSnapshot
