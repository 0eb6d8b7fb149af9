import JitSnapshot.Name
import JitSnapshot.Proofs.Outcome

set_option autoImplicit false

/-!
What ids and ranges name. An id given out for a record has the record's
position, and a range given out for a list holds just that list: the words they
are made of are exact, or there is an overflow instead.

A range holds a list of entries, all of them inside the flat list, and keeps
what it holds while entries are appended.
-/

namespace JitSnapshot

/-! ### Counts in words -/

theorem Counted.word_eq_ok_iff {counted : Counted} {count : Nat} {word : UInt32} :
    counted.word count = .ok word ↔ word.toNat = count := by
  unfold Counted.word
  split
  · rw [Except.ok.injEq, ← UInt32.toNat_inj, UInt32.toNat_ofNatLT]
    exact eq_comm
  · rename_i exceeds
    refine iff_of_false nofun ?_
    rintro rfl
    exact exceeds word.toNat_lt_size

/-- There is an overflow only where the count is too large, and it tells the count. -/
theorem Counted.word_eq_error_iff {counted : Counted} {count : Nat} {overflow : Overflow} :
    counted.word count = .error overflow ↔
      overflow.counted = counted ∧ overflow.count = count := by
  unfold Counted.word
  split
  · rename_i fits
    refine iff_of_false nofun ?_
    rintro ⟨_, rfl⟩
    exact Nat.not_lt_of_le overflow.exceeds fits
  · rw [Except.error.injEq]
    constructor
    · rintro rfl
      exact ⟨rfl, rfl⟩
    · rintro ⟨rfl, rfl⟩
      rfl

namespace Id

variable {kind : IdKind}

/-- The id of the record at a position. -/
def ofIndex (position : Nat) : Id kind :=
  ⟨UInt32.ofNat position⟩

theorem index_ofIndex {position : Nat} (bounded : position < UInt32.size) :
    (ofIndex position : Id kind).index = position :=
  UInt32.toNat_ofNat_of_lt' bounded

theorem index_lt (id : Id kind) : id.index < UInt32.size :=
  id.raw.toNat_lt_size

theorem ofIndex_index (id : Id kind) : ofIndex id.index = id :=
  index_inj.mp (index_ofIndex id.index_lt)

theorem behind_eq_ok_iff {counted : Counted} {count : Nat} {id : Id kind} :
    behind counted count = .ok id ↔ id.index = count := by
  cases id with
  | mk raw =>
      refine Iff.trans ?_ (@Counted.word_eq_ok_iff counted count raw)
      rw [behind, bind_eq_ok]
      constructor
      · rintro ⟨word, fits, same⟩
        cases same
        exact fits
      · intro fits
        exact ⟨raw, fits, rfl⟩

end Id

namespace ListRange

variable {kind : ListKind} {α : Type}

/-- The range lies inside the flat list and reads as the given entries. -/
structure Holds (range : ListRange kind) (entries : Array α) (content : List α) : Prop where
  inside : range.stop ≤ entries.size
  reads : range.read? entries = some content

theorem read?_of_inside {range : ListRange kind} {entries : Array α}
    (inside : range.stop ≤ entries.size) :
    range.read? entries =
      some ((entries.toList.drop range.start.toNat).take range.len.toNat) := by
  unfold read?
  by_cases empty : range.isEmpty = true
  · have zero : range.len = 0 := by simpa only [isEmpty, beq_iff_eq] using empty
    rw [if_pos empty, zero]
    rfl
  · rw [if_neg empty, if_pos inside, Array.toList_extract, List.extract_eq_take_drop]
    simp only [stop, Nat.add_sub_cancel_left]

theorem exists_holds {range : ListRange kind} {entries : Array α}
    (inside : range.stop ≤ entries.size) : ∃ content, range.Holds entries content :=
  ⟨_, inside, read?_of_inside inside⟩

namespace Holds

variable {range : ListRange kind} {entries more : Array α} {content other : List α}

private theorem content_eq (holds : range.Holds entries content) :
    content = (entries.toList.drop range.start.toNat).take range.len.toNat :=
  Option.some.inj (holds.reads.symm.trans (read?_of_inside holds.inside))

theorem length_eq (holds : range.Holds entries content) : content.length = range.len.toNat := by
  have inside := holds.inside
  rw [holds.content_eq, List.length_take, List.length_drop, Array.length_toList]
  simp only [stop] at inside
  omega

theorem extend (holds : range.Holds entries content)
    (extended : entries.toList <+: more.toList) : range.Holds more content := by
  obtain ⟨tail, grown⟩ := extended
  have inside := holds.inside
  have sizes : more.size = entries.size + tail.length := by
    rw [← Array.length_toList, ← grown, List.length_append, Array.length_toList]
  have within : range.stop ≤ more.size := by omega
  refine ⟨within, ?_⟩
  rw [read?_of_inside within, ← grown, holds.content_eq]
  simp only [stop] at inside
  rw [List.drop_append_of_le_length (by rw [Array.length_toList]; omega),
    List.take_append_of_le_length (by rw [List.length_drop, Array.length_toList]; omega)]

theorem nil_iff (holds : range.Holds entries content) : content = [] ↔ range.len = 0 := by
  have lengths := holds.length_eq
  constructor
  · intro nothing
    rw [nothing, List.length_nil] at lengths
    exact UInt32.toNat_inj.mp lengths.symm
  · intro zero
    rw [zero] at lengths
    exact List.length_eq_zero_iff.mp lengths

end Holds

/-- What a range reads it still reads when entries are added. An empty range may start anywhere. -/
theorem read?_grow {range : ListRange kind} {entries more : Array α} {content : List α}
    (grown : entries.toList <+: more.toList) (reads : range.read? entries = some content) :
    range.read? more = some content := by
  by_cases empty : range.isEmpty = true
  · rw [read?, if_pos empty] at reads ⊢
    exact reads
  · have inside : range.stop ≤ entries.size := by
      rw [read?, if_neg empty] at reads
      exact (Option.ite_none_right_eq_some.mp reads).1
    exact (Holds.extend ⟨inside, reads⟩ grown).reads

theorem holds_empty (entries : Array α) : (empty : ListRange kind).Holds entries [] :=
  ⟨Nat.zero_le _, rfl⟩

theorem toList_appendList (entries : Array α) (content : List α) :
    (entries.appendList content).toList = entries.toList ++ content := by
  rw [Array.appendList_eq_append, Array.toList_appendList]

theorem size_appendList (entries : Array α) (content : List α) :
    (entries.appendList content).size = entries.size + content.length := by
  rw [← Array.length_toList, toList_appendList, List.length_append, Array.length_toList]

/-- A range given out for a list starts where the list was put, if the list is not empty. -/
theorem behind_eq_ok_iff {count length : Nat} {range : ListRange kind} :
    behind count length = .ok range ↔
      range.start.toNat = (if length = 0 then 0 else count) ∧ range.len.toNat = length := by
  unfold behind
  cases range with
  | mk start len =>
      split
      · rename_i nothing
        subst nothing
        rw [Except.ok.injEq, empty, mk.injEq, eq_comm, @eq_comm _ _ len, ← UInt32.toNat_inj,
          ← UInt32.toNat_inj]
        rfl
      · rw [bind_eq_ok]
        simp only [bind_eq_ok, Counted.word_eq_ok_iff]
        constructor
        · rintro ⟨first, atCount, further, isLength, same⟩
          cases same
          exact ⟨atCount, isLength⟩
        · rintro ⟨atCount, isLength⟩
          exact ⟨start, atCount, len, isLength, rfl⟩

theorem holds_behind {entries : Array α} {content : List α} {range : ListRange kind}
    (given : behind entries.size content.length = .ok range) :
    range.Holds (entries.appendList content) content := by
  obtain ⟨startAt, lenIs⟩ := behind_eq_ok_iff.mp given
  have sizes := size_appendList entries content
  by_cases nothing : content = []
  · subst nothing
    cases given
    exact holds_empty _
  · rw [if_neg (mt List.length_eq_zero_iff.mp nothing)] at startAt
    have inside : range.stop ≤ (entries.appendList content).size := by
      simp only [stop, startAt, lenIs, sizes, Nat.le_refl]
    refine ⟨inside, ?_⟩
    rw [read?_of_inside inside, startAt, lenIs, toList_appendList, ← Array.length_toList,
      List.drop_left, List.take_length]

end ListRange

end JitSnapshot
