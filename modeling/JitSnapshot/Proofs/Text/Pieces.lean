import JitSnapshot.Text.Lexical

set_option autoImplicit false

/-!
Printed text read back: texts joined by a separator none of them holds come
apart again, a text without white space is not shortened by trimming, and a
decimal numeral stands for the number it was written for.
-/

namespace JitSnapshot

namespace Separated

variable {separator char : Char} {text front back : List Char} {texts : List (List Char)}

theorem splitOn_join (nonempty : texts ≠ []) (free : ∀ text ∈ texts, separator ∉ text) :
    (join separator texts).splitOn separator = texts :=
  List.splitOn_intercalate separator free nonempty

/-- A joined text has no character beyond those of its parts and the separator. -/
theorem mem_join (member : char ∈ join separator texts) :
    char = separator ∨ ∃ text ∈ texts, char ∈ text := by
  induction texts with
  | nil =>
      rw [join, List.intercalate_nil] at member
      contradiction
  | cons first rest ih =>
      rcases rest with _ | ⟨second, more⟩
      · rw [join, List.intercalate_singleton] at member
        exact Or.inr ⟨first, List.mem_cons_self, member⟩
      · rw [join, List.intercalate_cons_cons] at member
        rcases List.mem_append.mp member with before | inRest
        · rcases List.mem_append.mp before with inFirst | atSeparator
          · exact Or.inr ⟨first, List.mem_cons_self, inFirst⟩
          · exact Or.inl (List.mem_singleton.mp atSeparator)
        · refine (ih inRest).imp_right ?_
          rintro ⟨text, inTexts, inText⟩
          exact ⟨text, List.mem_cons_of_mem _ inTexts, inText⟩

theorem cutFirst?_append (free : separator ∉ front) :
    cutFirst? separator (front ++ separator :: back) = some (front, back) := by
  induction front with
  | nil => rw [List.nil_append, cutFirst?, if_pos rfl]
  | cons char rest ih =>
      obtain ⟨different, freeRest⟩ := List.ne_and_not_mem_of_not_mem_cons free
      rw [List.cons_append, cutFirst?, if_neg (Ne.symm different), ih freeRest, Option.map_some]

theorem cutFirst?_eq_none (free : separator ∉ text) : cutFirst? separator text = none := by
  induction text with
  | nil => rfl
  | cons char rest ih =>
      obtain ⟨different, freeRest⟩ := List.ne_and_not_mem_of_not_mem_cons free
      rw [cutFirst?, if_neg (Ne.symm different), ih freeRest, Option.map_none]

end Separated

namespace Blank

/-- Letters and digits of ASCII are not white space. -/
theorem isBlank_eq_false_of_isAlphanum {char : Char} (alphanumeric : char.isAlphanum = true) :
    isBlank char = false := by
  have within : 48 ≤ char.toNat ∧ char.toNat ≤ 122 := by
    rcases (Bool.or_eq_true _ _).mp alphanumeric with letter | digit
    · rcases (Bool.or_eq_true _ _).mp letter with upper | lower
      · have within : 65 ≤ char.toNat ∧ char.toNat ≤ 90 := of_decide_eq_true upper
        omega
      · obtain ⟨fromFirst, toLast⟩ := (Bool.and_eq_true _ _).mp lower
        have above : 97 ≤ char.toNat := of_decide_eq_true fromFirst
        have below : char.toNat ≤ 122 := of_decide_eq_true toLast
        omega
    · have within : 48 ≤ char.toNat ∧ char.toNat ≤ 57 := Char.isDigit_iff_toNat.mp digit
      omega
  have apart : ∀ range ∈ ranges, range.2 < 48 ∨ 122 < range.1 := by decide
  refine List.any_eq_false.mpr fun range member => ?_
  have apartHere := apart range member
  simp only [Bool.and_eq_true, decide_eq_true_eq]
  omega

private theorem dropWhile_eq_self {text : List Char} (solid : ∀ char ∈ text, isBlank char = false) :
    text.dropWhile isBlank = text := by
  rcases text with _ | ⟨first, rest⟩
  · rfl
  · rw [List.dropWhile_cons_of_neg]
    rw [solid first List.mem_cons_self]
    exact Bool.false_ne_true

theorem trim_eq_self {text : List Char} (solid : ∀ char ∈ text, isBlank char = false) :
    trim text = text := by
  have solidReversed : ∀ char ∈ text.reverse, isBlank char = false := fun char member =>
    solid char (List.mem_reverse.mp member)
  rw [trim, trimStart, dropWhile_eq_self solid, trimEnd, dropWhile_eq_self solidReversed,
    List.reverse_reverse]

end Blank

namespace Numeral

theorem isDigit_of_mem_decimal {char : Char} {value : Nat} (member : char ∈ Nat.toDigits 10 value) :
    char.isDigit = true :=
  Nat.isDigit_of_mem_toDigits (by decide) (by decide) member

theorem not_mem_decimal {char : Char} (value : Nat) (noDigit : char.isDigit = false) :
    char ∉ Nat.toDigits 10 value := by
  intro member
  rw [isDigit_of_mem_decimal member] at noDigit
  contradiction

/-- A decimal numeral is written without a sign, and is read as the number it was written for. -/
theorem toUInt32?_decimal (word : UInt32) :
    toUInt32? (Nat.toDigits 10 word.toNat) = some word := by
  have noSign : unsigned (Nat.toDigits 10 word.toNat) = Nat.toDigits 10 word.toNat := by
    rcases digits : Nat.toDigits 10 word.toNat with _ | ⟨first, rest⟩
    · rfl
    · have member : first ∈ Nat.toDigits 10 word.toNat := digits ▸ List.mem_cons_self
      have notPlus : first ≠ '+' := by
        rintro rfl
        exact not_mem_decimal _ (by decide) member
      rw [unsigned]
      intro digits same
      exact notPlus (List.cons.inj same).1
  have allDigits : (Nat.toDigits 10 word.toNat).all Char.isDigit = true :=
    List.all_eq_true.mpr fun char member => isDigit_of_mem_decimal member
  have someDigit : (Nat.toDigits 10 word.toNat).isEmpty = false :=
    List.isEmpty_eq_false_iff.mpr Nat.toDigits_ne_nil
  have value : ofDigits? (Nat.toDigits 10 word.toNat) = some word.toNat := by
    rw [ofDigits?, allDigits, someDigit]
    exact congrArg some (Nat.ofDigitChars_toDigits (by decide) (by decide))
  rw [toUInt32?, noSign, value, Option.bind_eq_bind, Option.bind_some,
    if_pos word.toNat_lt_size, UInt32.ofNat_toNat]

end Numeral

end JitSnapshot
