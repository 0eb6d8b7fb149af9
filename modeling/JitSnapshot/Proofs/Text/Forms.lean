import JitSnapshot.Proofs.Text.Pieces
import Mathlib.Data.List.DropRight

set_option autoImplicit false

/-!
What the readers of texts look for, said of the texts alone: a cut is told by
what stands before it, a trimmed text by the white space around it, and a
numeral by its digits and its value. Each reader finds its form, and what it
finds has the form.
-/

namespace JitSnapshot

/-! ### Cuts -/

namespace Separated

variable {separator : Char} {text front back : List Char}

theorem cutFirst?_eq_some_iff : cutFirst? separator text = some (front, back) ↔
    text = front ++ separator :: back ∧ separator ∉ front := by
  constructor
  · intro cut
    by_cases member : separator ∈ text
    · obtain ⟨before, after, split, free⟩ := List.eq_append_cons_of_mem member
      rw [split, cutFirst?_append free] at cut
      cases cut
      exact ⟨split, free⟩
    · rw [cutFirst?_eq_none member] at cut
      contradiction
  · rintro ⟨rfl, free⟩
    exact cutFirst?_append free

/-- What is put behind a text, without a separator, only lengthens the last piece. -/
theorem exists_splitOn_append (text : List Char) (free : separator ∉ back) :
    ∃ init last, text.splitOn separator = init ++ [last] ∧
      (text ++ back).splitOn separator = init ++ [last ++ back] := by
  induction text with
  | nil => exact ⟨[], [], List.splitOn_nil _, List.splitOn_eq_singleton free⟩
  | cons char rest ih =>
      obtain ⟨init, last, pieces, longer⟩ := ih
      rw [List.cons_append, List.splitOn_cons_eq_if_modifyHead,
        List.splitOn_cons_eq_if_modifyHead, pieces, longer]
      split
      · exact ⟨[] :: init, last, rfl, rfl⟩
      · cases init with
        | nil => exact ⟨[], char :: last, rfl, rfl⟩
        | cons first more => exact ⟨(char :: first) :: more, last, rfl, rfl⟩

end Separated

/-! ### White space around a text -/

namespace Blank

variable {text core before after : List Char}

def AllBlank (text : List Char) : Prop :=
  ∀ char ∈ text, isBlank char = true

/-- The text is the core with nothing but white space around it. -/
def Around (core text : List Char) : Prop :=
  ∃ before after, text = before ++ core ++ after ∧ AllBlank before ∧ AllBlank after

/-- The text is the core with all the white space there is around it. -/
structure Trims (core text : List Char) : Prop where
  around : Around core text
  starts : ∀ char ∈ core.head?, isBlank char = false
  ends : ∀ char ∈ core.getLast?, isBlank char = false

theorem not_mem_of_allBlank {char : Char} (allBlank : AllBlank text)
    (solid : isBlank char = false) : char ∉ text := by
  intro member
  rw [allBlank char member] at solid
  contradiction

theorem trim_blank_append (allBlank : AllBlank before) : trim (before ++ text) = trim text := by
  rw [trim, trimStart, List.dropWhile_append_of_pos allBlank]
  rfl

private theorem trimEnd_append_blank (allBlank : AllBlank after) :
    trimEnd (text ++ after) = trimEnd text := by
  have blankReversed : ∀ char ∈ after.reverse, isBlank char = true := fun char member =>
    allBlank char (List.mem_reverse.mp member)
  rw [trimEnd, List.reverse_append, List.dropWhile_append_of_pos blankReversed]
  rfl

theorem trim_append_blank (allBlank : AllBlank after) : trim (text ++ after) = trim text := by
  rw [trim, trim, trimStart, trimStart, List.dropWhile_append]
  split
  · rename_i noneLeft
    rw [List.isEmpty_iff.mp noneLeft, List.dropWhile_eq_nil_iff.mpr allBlank]
  · exact trimEnd_append_blank allBlank

private theorem trim_of_edges (starts : ∀ char ∈ core.head?, isBlank char = false)
    (ends : ∀ char ∈ core.getLast?, isBlank char = false) : trim core = core := by
  have front : core.dropWhile isBlank = core := by
    cases core with
    | nil => rfl
    | cons first rest =>
        rw [List.dropWhile_cons_of_neg]
        rw [starts first rfl]
        exact Bool.false_ne_true
  have back : core.rdropWhile isBlank = core := by
    rw [List.rdropWhile_eq_self_iff]
    intro nonempty
    rw [ends _ (List.getLast?_eq_some_getLast nonempty)]
    exact Bool.false_ne_true
  rw [trim, trimStart, front]
  exact back

private theorem isBlank_head_dropWhile {char : Char}
    (first : (text.dropWhile isBlank).head? = some char) :
    isBlank char = false := by
  have solid := List.head?_dropWhile_not isBlank text
  rw [first] at solid
  exact solid

theorem trims_trim (text : List Char) : Trims (trim text) text := by
  have startSplit : text = text.takeWhile isBlank ++ trimStart text :=
    List.takeWhile_append_dropWhile.symm
  have endSplit : trimStart text =
      trim text ++ ((trimStart text).reverse.takeWhile isBlank).reverse := by
    rw [trim, trimEnd, ← List.reverse_append, List.takeWhile_append_dropWhile, List.reverse_reverse]
  refine { around := ⟨text.takeWhile isBlank,
      ((trimStart text).reverse.takeWhile isBlank).reverse, ?_, ?_, ?_⟩, starts := ?_, ends := ?_ }
  · rw [List.append_assoc, ← endSplit]
    exact startSplit
  · exact fun char member => List.mem_takeWhile_imp member
  · exact fun char member => List.mem_takeWhile_imp (List.mem_reverse.mp member)
  · intro char first
    have atStart : (text.dropWhile isBlank).head? = some char := by
      change (trimStart text).head? = some char
      rw [endSplit, List.head?_append, Option.mem_def.mp first, Option.some_or]
    exact isBlank_head_dropWhile atStart
  · intro char last
    rw [trim, trimEnd, List.getLast?_reverse] at last
    exact isBlank_head_dropWhile last

theorem Around.trim_eq_trim (around : Around core text) : trim text = trim core := by
  obtain ⟨before, after, rfl, blankBefore, blankAfter⟩ := around
  rw [trim_append_blank blankAfter, trim_blank_append blankBefore]

theorem Around.mem_iff (around : Around core text) {char : Char} (solid : isBlank char = false) :
    char ∈ text ↔ char ∈ core := by
  obtain ⟨before, after, rfl, blankBefore, blankAfter⟩ := around
  simp only [List.mem_append, not_mem_of_allBlank blankBefore solid,
    not_mem_of_allBlank blankAfter solid, false_or, or_false]

/-- Trimming is told by what it takes away and by what it leaves at the edges. -/
theorem trims_iff : Trims core text ↔ trim text = core := by
  constructor
  · intro trims
    rw [trims.around.trim_eq_trim, trim_of_edges trims.starts trims.ends]
  · rintro rfl
    exact trims_trim text

theorem trim_eq_nil_iff : trim text = [] ↔ AllBlank text := by
  constructor
  · intro nothing
    obtain ⟨before, after, split, blankBefore, blankAfter⟩ := (trims_iff.mpr nothing).around
    rw [split, List.append_nil]
    exact fun char member => (List.mem_append.mp member).elim (blankBefore char) (blankAfter char)
  · intro allBlank
    rw [← List.append_nil text, trim_blank_append allBlank]
    rfl

/-- A core without any white space is all that trimming leaves. -/
theorem Around.trim_eq (around : Around core text)
    (solid : ∀ char ∈ core, isBlank char = false) : trim text = core :=
  around.trim_eq_trim.trans (trim_eq_self solid)

theorem trim_trim (text : List Char) : trim (trim text) = trim text :=
  trim_of_edges (trims_trim text).starts (trims_trim text).ends

theorem around_trim (text : List Char) : Around (trim text) text :=
  (trims_trim text).around

end Blank

/-! ### Numerals -/

namespace Numeral

variable {numeral : List Char} {word : UInt32}

/-- One decimal digit or more, perhaps behind one plus sign, with the value of the word. -/
def Denotes (numeral : List Char) (word : UInt32) : Prop :=
  ∃ digits, (numeral = digits ∨ numeral = '+' :: digits) ∧ digits ≠ [] ∧
    (∀ digit ∈ digits, digit.isDigit = true) ∧ Nat.ofDigitChars 10 digits 0 = word.toNat

private theorem eq_unsigned (numeral : List Char) :
    numeral = unsigned numeral ∨ numeral = '+' :: unsigned numeral := by
  unfold unsigned
  split
  · exact Or.inr rfl
  · exact Or.inl rfl

private theorem unsigned_eq_self (digits : ∀ digit ∈ numeral, digit.isDigit = true) :
    unsigned numeral = numeral := by
  unfold unsigned
  split
  · exact absurd (digits '+' List.mem_cons_self) (by decide)
  · rfl

theorem ofDigits?_eq_some_iff {digits : List Char} {value : Nat} :
    ofDigits? digits = some value ↔
      digits ≠ [] ∧ (∀ digit ∈ digits, digit.isDigit = true) ∧
        Nat.ofDigitChars 10 digits 0 = value := by
  rw [ofDigits?]
  split
  · rename_i refused
    simp only [reduceCtorEq, false_iff]
    rintro ⟨nonempty, allDigits, _⟩
    rw [List.isEmpty_eq_false_iff.mpr nonempty, List.all_eq_true.mpr allDigits] at refused
    contradiction
  · rename_i accepted
    rw [Bool.or_eq_true, not_or, List.isEmpty_iff, Bool.not_eq_true', Bool.not_eq_false,
      List.all_eq_true] at accepted
    rw [Option.some.injEq, and_iff_right accepted.1, and_iff_right accepted.2]

theorem toUInt32?_eq_some_iff : toUInt32? numeral = some word ↔ Denotes numeral word := by
  rw [toUInt32?, Option.bind_eq_bind, Option.bind_eq_some_iff]
  constructor
  · rintro ⟨value, read, bounded⟩
    obtain ⟨nonempty, allDigits, valueOf⟩ := ofDigits?_eq_some_iff.mp read
    obtain ⟨small, same⟩ := Option.ite_none_right_eq_some.mp bounded
    refine ⟨unsigned numeral, eq_unsigned numeral, nonempty, allDigits, ?_⟩
    rw [valueOf, ← Option.some.inj same, UInt32.toNat_ofNat_of_lt' small]
  · rintro ⟨digits, sign, nonempty, allDigits, value⟩
    have bare : unsigned numeral = digits := by
      rcases sign with rfl | rfl
      · exact unsigned_eq_self allDigits
      · rfl
    refine ⟨word.toNat, ?_, ?_⟩
    · rw [bare]
      exact ofDigits?_eq_some_iff.mpr ⟨nonempty, allDigits, value⟩
    · rw [if_pos word.toNat_lt_size, UInt32.ofNat_toNat]

/-- A numeral is written in digits and the plus sign. -/
theorem Denotes.isDigit_or_plus (denotes : Denotes numeral word) :
    ∀ char ∈ numeral, char.isDigit = true ∨ char = '+' := by
  obtain ⟨digits, sign, _, allDigits, _⟩ := denotes
  intro char member
  rcases sign with rfl | rfl
  · exact Or.inl (allDigits char member)
  · rcases List.mem_cons.mp member with plus | inDigits
    · exact Or.inr plus
    · exact Or.inl (allDigits char inDigits)

end Numeral

end JitSnapshot
