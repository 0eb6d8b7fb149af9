import JitSnapshot.Proofs.DebugTag
import JitSnapshot.Proofs.Text.Pieces
import JitSnapshot.Proofs.View.Navigation

set_option autoImplicit false

/-!
Debug tags tell functions apart. The marks between the three numbers of a tag
are none that a number is written with, so the tag can be cut at them and each
number read from its part.
-/

namespace JitSnapshot

namespace SourceContextId

theorem signed_eq_bmod (id : SourceContextId) :
    id.signed = (id.raw.toNat : Int).bmod (2 ^ 32) :=
  BitVec.toInt_eq_toNat_bmod id.raw.toBitVec

theorem signed_inj {id other : SourceContextId} (same : id.signed = other.signed) :
    id = other := by
  have sameBits : id.raw.toBitVec = other.raw.toBitVec := BitVec.toInt_inj.mp same
  exact congrArg Id.mk (UInt32.toBitVec_inj.mp sameBits)

end SourceContextId

/-! ### The numbers and the marks of a tag -/

private theorem mark_not_mem_repr {mark : Char} (number : Nat) (noDigit : mark.isDigit = false) :
    mark ∉ number.repr.toList := by
  rw [Nat.toList_repr]
  exact Numeral.not_mem_decimal number noDigit

private theorem point_not_mem_signed (number : Int) : '.' ∉ number.repr.toList := by
  rw [Int.repr_eq_if]
  split
  · exact mark_not_mem_repr _ (by decide)
  · rw [String.toList_append]
    intro member
    rcases List.mem_append.mp member with inSign | inDigits
    · exact absurd inSign (by decide)
    · exact mark_not_mem_repr _ (by decide) inDigits

/-- A number can be read from its digits. -/
private theorem repr_inj {number other : Nat}
    (same : number.repr.toList = other.repr.toList) : number = other := by
  rw [Nat.toList_repr, Nat.toList_repr] at same
  have values := congrArg (fun digits => Nat.ofDigitChars 10 digits 0) same
  simpa only [Nat.ofDigitChars_ten_toDigits] using values

private theorem signedRepr_inj {number other : Int}
    (same : number.repr.toList = other.repr.toList) : number = other := by
  have signed (below : Nat) :
      (Int.negSucc below).repr.toList = '-' :: (below + 1).repr.toList :=
    String.toList_append
  have unsigned (value : Nat) : '-' ∉ (Int.ofNat value).repr.toList :=
    mark_not_mem_repr value (by decide)
  cases number with
  | ofNat value =>
      cases other with
      | ofNat otherValue => exact congrArg Int.ofNat (repr_inj same)
      | negSucc below =>
          rw [signed] at same
          exact absurd (same ▸ List.mem_cons_self) (unsigned value)
  | negSucc below =>
      cases other with
      | ofNat value =>
          rw [signed] at same
          exact absurd (same ▸ List.mem_cons_self) (unsigned value)
      | negSucc otherBelow =>
          rw [signed, signed] at same
          have digits := repr_inj (List.cons.inj same).2
          exact congrArg Int.negSucc (Nat.succ.inj digits)

section Parts

variable {source otherSource : SourceContextId} {localFunction otherLocal : LocalFunctionId}
  {number otherNumber : FunctionNumber}

theorem tagText_eq : tagText source localFunction number =
    " (#" ++ toString source.signed ++ "." ++ toString localFunction.raw.toNat ++ "), #" ++
      toString number.raw.toNat := by
  simp only [tagText, tagPieces, String.join_cons, String.join_nil, String.append_empty,
    String.append_assoc]

/-- The tag as its first two numbers, each in front of the mark that ends it, and the third. -/
theorem toList_tagText : (tagText source localFunction number).toList =
    " (#".toList ++ (source.signed.repr.toList ++ '.' ::
      (localFunction.raw.toNat.repr.toList ++ ')' ::
        (", #".toList ++ number.raw.toNat.repr.toList))) := by
  rw [tagText_eq]
  simp only [String.toList_append, Nat.toString_eq_repr, Int.toString_eq_repr, List.append_assoc]
  rfl

theorem tagText_inj
    (same : tagText source localFunction number = tagText otherSource otherLocal otherNumber) :
    source = otherSource ∧ localFunction = otherLocal ∧ number = otherNumber := by
  have opened := congrArg String.toList same
  rw [toList_tagText, toList_tagText] at opened
  have atPoint := congrArg (Separated.cutFirst? '.') (List.append_cancel_left opened)
  rw [Separated.cutFirst?_append (point_not_mem_signed _),
    Separated.cutFirst?_append (point_not_mem_signed _), Option.some.injEq,
    Prod.mk.injEq] at atPoint
  have atParenthesis := congrArg (Separated.cutFirst? ')') atPoint.2
  rw [Separated.cutFirst?_append (mark_not_mem_repr _ (by decide)),
    Separated.cutFirst?_append (mark_not_mem_repr _ (by decide)), Option.some.injEq,
    Prod.mk.injEq] at atParenthesis
  have sameSource := signedRepr_inj atPoint.1
  have sameLocal := repr_inj atParenthesis.1
  have sameNumber := repr_inj (List.append_cancel_left atParenthesis.2)
  exact ⟨SourceContextId.signed_inj sameSource, Id.index_inj.mp sameLocal,
    Id.index_inj.mp sameNumber⟩

end Parts

namespace View

variable {view : View} {body : BodyRecord}

/-- Every function with a body has a tag, of eleven to thirty-nine bytes. It goes to the front of
the buffer, all behind it stays, and no function with another source, another local id or another
number has the same one. -/
theorem debugTag_identifies (present : view.body? = .ok (some body)) (buffer : TagBuffer) :
    ∃ (tag : String) (after : TagBuffer), view.debugTag buffer = .ok (tag, after) ∧
      tag = " (#" ++ toString ((body.sourceContext.raw.toNat : Int).bmod (2 ^ 32)) ++ "." ++
        toString view.localFunction.raw.toNat ++ "), #" ++
          toString body.functionNumber.raw.toNat ∧
      11 ≤ tag.utf8ByteSize ∧ tag.utf8ByteSize ≤ 39 ∧
      after.toList = tag.toUTF8.data.toList ++ buffer.toList.drop tag.utf8ByteSize ∧
      ∀ (other : View) (otherBody : BodyRecord) (otherBuffer otherAfter : TagBuffer),
        other.body? = .ok (some otherBody) →
          other.debugTag otherBuffer = .ok (tag, otherAfter) →
            otherBody.sourceContext = body.sourceContext ∧
              other.localFunction = view.localFunction ∧
                otherBody.functionNumber = body.functionNumber := by
  obtain ⟨tag, after, written, rfl, content⟩ := view.debugTag_writes buffer (bodyFor_eq_ok present)
  have size := length_tagBytes body.sourceContext view.localFunction body.functionNumber
  rw [flatMap_pieceBytes, length_pieceBytes] at size
  refine ⟨_, after, written, ?_, size.1, size.2, content, ?_⟩
  · rw [tagText_eq, SourceContextId.signed_eq_bmod]
  · intro other otherBody otherBuffer otherAfter otherPresent otherWritten
    obtain ⟨_, _, again, rfl, _⟩ :=
      other.debugTag_writes otherBuffer (bodyFor_eq_ok otherPresent)
    have sameAnswer := Except.ok.inj (again.symm.trans otherWritten)
    exact tagText_inj (Prod.mk.inj sameAnswer).1

def widest : View :=
  { arena :=
      { nodes := #[{ body := some ⟨0⟩, localFunction := ⟨4294967295⟩ }]
        bodies := #[{ sourceContext := ⟨2147483648⟩, functionNumber := ⟨4294967295⟩ }] }
    home := 0
    id := ⟨0⟩
    record := { body := some ⟨0⟩, localFunction := ⟨4294967295⟩ }
    found := rfl }

theorem debugTag_identifies_widest :
    widest.body? =
        .ok (some { sourceContext := ⟨2147483648⟩, functionNumber := ⟨4294967295⟩ }) ∧
      ∃ after, widest.debugTag (Vector.replicate 42 120) =
          .ok (" (#-2147483648.4294967295), #4294967295", after) ∧
        after.toList = " (#-2147483648.4294967295), #4294967295".toUTF8.data.toList ++
          List.replicate 3 120 := by
  have present : widest.body? =
      .ok (some { sourceContext := ⟨2147483648⟩, functionNumber := ⟨4294967295⟩ }) := rfl
  obtain ⟨tag, after, written, spelled, _, _, content, _⟩ :=
    debugTag_identifies present (Vector.replicate 42 120)
  have isWidest : tag = " (#-2147483648.4294967295), #4294967295" := by
    rw [spelled]
    decide +kernel
  subst isWidest
  exact ⟨present, after, written, content⟩

end View

end JitSnapshot
