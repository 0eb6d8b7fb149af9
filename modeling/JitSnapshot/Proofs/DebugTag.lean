import JitSnapshot.DebugTag
import Mathlib.Data.List.GetD

set_option autoImplicit false

/-!
Debug tags fit their buffer. The three numbers of a tag have 32 bits, so the
tag has at least eleven bytes and at most thirty-nine of the forty-two. Behind
them the buffer stays as it is.
-/

namespace JitSnapshot

/-! ### Bytes of decimal texts -/

private theorem utf8ByteSize_eq_length {text : String}
    (narrow : ∀ c ∈ text.toList, c.utf8Size = 1) : text.utf8ByteSize = text.length := by
  have ofChars (chars : List Char) (each : ∀ c ∈ chars, c.utf8Size = 1) :
      (String.ofList chars).utf8ByteSize = chars.length := by
    induction chars with
    | nil => rfl
    | cons head tail ih =>
        rw [← List.singleton_append, String.ofList_append, String.utf8ByteSize_append,
          ih fun c member => each c (List.mem_cons_of_mem _ member)]
        have one := each head List.mem_cons_self
        simp [one]
        omega
  rw [← String.length_toList, ← ofChars text.toList narrow, String.ofList_toList]

private theorem utf8Size_of_isDigit {c : Char} (digit : c.isDigit = true) : c.utf8Size = 1 := by
  simp only [Char.isDigit, Bool.and_eq_true, decide_eq_true_eq] at digit
  rw [Char.utf8Size_eq_one_iff]
  exact UInt32.le_trans digit.2 (by decide)

private theorem utf8ByteSize_repr (number : Nat) :
    number.repr.utf8ByteSize = number.repr.length := by
  apply utf8ByteSize_eq_length
  intro c member
  rw [Nat.toList_repr] at member
  exact utf8Size_of_isDigit (Nat.isDigit_of_mem_toDigits (by decide) (by decide) member)

private theorem utf8ByteSize_repr_bounds (number : Nat) (bounded : number < UInt32.size) :
    1 ≤ number.repr.utf8ByteSize ∧ number.repr.utf8ByteSize ≤ 10 := by
  rw [utf8ByteSize_repr]
  refine ⟨Nat.length_repr_pos, (Nat.length_repr_le_iff (by decide)).mpr ?_⟩
  exact Nat.lt_trans bounded (by decide)

private theorem utf8ByteSize_signed_bounds (id : SourceContextId) :
    1 ≤ (toString id.signed).utf8ByteSize ∧ (toString id.signed).utf8ByteSize ≤ 11 := by
  have lower : -2 ^ 31 ≤ id.signed := Int32.le_toInt _
  have upper : id.signed < 2 ^ 31 := Int32.toInt_lt _
  rw [Int.toString_eq_repr, Int.repr_eq_if]
  have size : (UInt32.size : Int) = 2 ^ 32 := rfl
  by_cases nonnegative : 0 ≤ id.signed
  · rw [if_pos nonnegative]
    have digits := utf8ByteSize_repr_bounds id.signed.toNat (by omega)
    omega
  · rw [if_neg nonnegative, String.utf8ByteSize_append]
    have digits := utf8ByteSize_repr_bounds (-id.signed).toNat (by omega)
    have sign : "-".utf8ByteSize = 1 := by decide
    omega

/-! ### Writing into the buffer -/

def pieceBytes (piece : String) : List UInt8 :=
  piece.toUTF8.data.toList

theorem length_pieceBytes (piece : String) : (pieceBytes piece).length = piece.utf8ByteSize :=
  rfl

namespace TagWriter

private theorem splice_toList {buffer : TagBuffer} {position : Nat} {bytes : List UInt8}
    (fits : position + bytes.length ≤ 42) :
    (splice buffer position bytes).toList =
      buffer.toList.take position ++ bytes ++ buffer.toList.drop (position + bytes.length) := by
  apply List.ext_getElem
  · simp
    omega
  · intro index inside _
    simp only [Vector.length_toList] at inside
    simp only [splice, Vector.getElem_toList, Vector.getElem_ofFn, List.getElem_append,
      List.length_append, List.length_take, Vector.length_toList, List.getElem_take,
      List.getElem_drop]
    have short : min position 42 = position := Nat.min_eq_left (by omega)
    simp only [short]
    by_cases before : index < position
    · rw [if_neg (by omega), dif_pos (by omega), dif_pos before]
      rfl
    · rw [if_pos (by omega)]
      by_cases within : index < position + bytes.length
      · rw [dif_pos within, dif_neg before, List.getD_eq_getElem _ _ (by omega)]
      · rw [dif_neg within, List.getD_eq_default _ _ (by omega)]
        simp only [Nat.add_sub_of_le (Nat.le_of_not_lt within)]
        rfl

private theorem write?_of_fits {writer : TagWriter} {piece : String}
    (fits : writer.written + (pieceBytes piece).length ≤ 42) :
    ∃ after, writer.write? piece = some after ∧
      after.written = writer.written + (pieceBytes piece).length ∧
      after.buffer.toList = writer.buffer.toList.take writer.written ++ pieceBytes piece ++
        writer.buffer.toList.drop (writer.written + (pieceBytes piece).length) := by
  refine ⟨{ buffer := splice writer.buffer writer.written (pieceBytes piece)
            written := writer.written + (pieceBytes piece).length }, ?_, rfl, ?_⟩
  · exact if_pos fits
  · exact splice_toList fits

private theorem writeAll_of_fits {pieces : List String} {writer : TagWriter}
    (fits : writer.written + (pieces.flatMap pieceBytes).length ≤ 42) :
    ∃ after, writer.writeAll pieces = (true, after) ∧
      after.written = writer.written + (pieces.flatMap pieceBytes).length ∧
      after.buffer.toList =
        writer.buffer.toList.take writer.written ++ pieces.flatMap pieceBytes ++
          writer.buffer.toList.drop (writer.written + (pieces.flatMap pieceBytes).length) := by
  induction pieces generalizing writer with
  | nil => exact ⟨writer, rfl, rfl, by simp⟩
  | cons piece rest ih =>
      simp only [List.flatMap_cons, List.length_append] at fits ⊢
      have pieceFits : writer.written + (pieceBytes piece).length ≤ 42 := by omega
      obtain ⟨mid, wrote, midWritten, midBuffer⟩ := write?_of_fits pieceFits
      have restFits : mid.written + (rest.flatMap pieceBytes).length ≤ 42 := by omega
      obtain ⟨after, finished, afterWritten, afterBuffer⟩ := ih restFits
      have front : (writer.buffer.toList.take writer.written ++ pieceBytes piece).length =
          mid.written := by
        rw [List.length_append, List.length_take, Vector.length_toList, midWritten]
        omega
      refine ⟨after, ?_, by omega, ?_⟩
      · rw [writeAll, wrote]
        exact finished
      · rw [afterBuffer, midBuffer, List.take_left' front, ← List.drop_drop,
          List.drop_left' front, List.drop_drop, Nat.add_assoc]
        simp only [List.append_assoc]

end TagWriter

/-! ### The tag of a node -/

def tagText (source : SourceContextId) (localFunction : LocalFunctionId)
    (number : FunctionNumber) : String :=
  String.join (tagPieces source localFunction number)

theorem length_tagBytes (source : SourceContextId) (localFunction : LocalFunctionId)
    (number : FunctionNumber) :
    11 ≤ ((tagPieces source localFunction number).flatMap pieceBytes).length ∧
      ((tagPieces source localFunction number).flatMap pieceBytes).length ≤ 39 := by
  have bySource := utf8ByteSize_signed_bounds source
  have byLocal := utf8ByteSize_repr_bounds localFunction.raw.toNat localFunction.raw.toNat_lt
  have byNumber := utf8ByteSize_repr_bounds number.raw.toNat number.raw.toNat_lt
  have opening : " (#".utf8ByteSize = 3 := by decide
  have dot : ".".utf8ByteSize = 1 := by decide
  have closing : "), #".utf8ByteSize = 4 := by decide
  simp only [tagPieces, List.flatMap_cons, List.flatMap_nil, List.length_append,
    length_pieceBytes, Nat.toString_eq_repr, opening, dot, closing, List.length_nil]
  omega

theorem flatMap_pieceBytes (pieces : List String) :
    pieces.flatMap pieceBytes = pieceBytes (String.join pieces) := by
  induction pieces with
  | nil => rfl
  | cons piece rest ih =>
      rw [List.flatMap_cons, ih, String.join_cons]
      simp only [pieceBytes, String.toUTF8_eq_toByteArray, String.toByteArray_append,
        ByteArray.data_append, Array.toList_append]

private theorem fromUTF8?_toUTF8 (text : String) : String.fromUTF8? text.toUTF8 = some text := by
  have valid : text.toUTF8.IsValidUTF8 := text.isValidUTF8
  unfold String.fromUTF8?
  rw [dif_pos valid]
  rfl

theorem View.debugTag_writes {view : View} {body : BodyRecord} (buffer : TagBuffer)
    (found : view.bodyFor .debugTag = .ok body) :
    ∃ (tag : String) (after : TagBuffer), view.debugTag buffer = .ok (tag, after) ∧
      tag = tagText body.sourceContext view.localFunction body.functionNumber ∧
      after.toList = pieceBytes tag ++ buffer.toList.drop (pieceBytes tag).length := by
  obtain ⟨atLeast, atMost⟩ :=
    length_tagBytes body.sourceContext view.localFunction body.functionNumber
  have fits : (⟨buffer, 0⟩ : TagWriter).written + ((tagPieces body.sourceContext
      view.localFunction body.functionNumber).flatMap pieceBytes).length ≤ 42 := by
    simp only
    omega
  obtain ⟨writer, wrote, written, content⟩ := TagWriter.writeAll_of_fits fits
  simp only [List.take_zero, List.nil_append, Nat.zero_add] at written content
  have bytes : writer.buffer.toArray.extract 0 writer.written =
      (tagText body.sourceContext view.localFunction body.functionNumber).toUTF8.data := by
    rw [← Array.toList_inj, Array.toList_extract, List.extract_eq_take_drop, List.drop_zero,
      Nat.sub_zero]
    change writer.buffer.toList.take writer.written = _
    rw [content, written, List.take_left, flatMap_pieceBytes]
    rfl
  refine ⟨_, writer.buffer, ?_, rfl, ?_⟩
  · unfold View.debugTag
    rw [found]
    simp only [bind, Except.bind, wrote]
    have longEnough : minTagLength < writer.written := by
      unfold minTagLength
      omega
    rw [if_pos (by simpa using longEnough), bytes]
    rw [fromUTF8?_toUTF8]
    rfl
  · rw [content, flatMap_pieceBytes]
    rfl

/-- Only a node without a body has no tag. -/
theorem View.debugTag_eq_ok {view : View} {body : BodyRecord} {buffer : TagBuffer}
    (found : view.bodyFor .debugTag = .ok body) :
    ∃ after, view.debugTag buffer =
      .ok (tagText body.sourceContext view.localFunction body.functionNumber, after) := by
  obtain ⟨_, after, written, rfl, _⟩ := view.debugTag_writes buffer found
  exact ⟨after, written⟩

end JitSnapshot
