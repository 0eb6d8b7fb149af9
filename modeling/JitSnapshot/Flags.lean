import JitSnapshot.Text.Lexical

set_option autoImplicit false

/-!
Sets of flags kept in one byte. A kind of set names some of the eight bits;
bits without a name are kept as they are, so a set read from a newer peer
loses nothing.
-/

namespace JitSnapshot

inductive FlagKind where
  | node
  | body
  | phases
  deriving DecidableEq

namespace FlagKind

def label : FlagKind → String
  | .node => "NodeFlags"
  | .body => "BodyFlags"
  | .phases => "Phases"

def named : FlagKind → List (UInt8 × String)
  | .node => [(1, "AGGRESSIVE_INLINING"), (2, "INLINED")]
  | .body => [(1, "GENERATOR"), (2, "HAS_TRY")]
  | .phases => [(1, "JIT_LOOP_BODY"), (2, "FULL_JIT")]

def known (kind : FlagKind) : UInt8 :=
  kind.named.foldl (fun bits entry => bits ||| entry.1) 0

end FlagKind

/-- A set of flags: one byte, named bits and others. -/
structure Flags (kind : FlagKind) where
  bits : UInt8
  deriving DecidableEq

namespace Flags

variable {kind : FlagKind}

def empty : Flags kind := ⟨0⟩

instance : Inhabited (Flags kind) := ⟨empty⟩

def isEmpty (flags : Flags kind) : Bool :=
  flags.bits == 0

def contains (flags wanted : Flags kind) : Bool :=
  flags.bits &&& wanted.bits == wanted.bits

def union (left right : Flags kind) : Flags kind :=
  ⟨left.bits ||| right.bits⟩

theorem empty_union (flags : Flags kind) : empty.union flags = flags :=
  congrArg mk UInt8.zero_or

theorem union_empty (flags : Flags kind) : flags.union empty = flags :=
  congrArg mk UInt8.or_zero

theorem union_self (flags : Flags kind) : flags.union flags = flags :=
  congrArg mk UInt8.or_self

theorem union_assoc (first second third : Flags kind) :
    (first.union second).union third = first.union (second.union third) :=
  congrArg mk (UInt8.or_assoc _ _ _)

def truncate (flags : Flags kind) : Flags kind :=
  ⟨flags.bits &&& kind.known⟩

def isKnown (flags : Flags kind) : Bool :=
  flags.bits &&& ~~~kind.known == 0

theorem isKnown_iff_truncate_eq {flags : Flags kind} :
    flags.isKnown = true ↔ flags.truncate = flags := by
  obtain ⟨bits⟩ := flags
  rw [isKnown, truncate, mk.injEq, beq_iff_eq]
  constructor
  · intro noRest
    calc bits &&& kind.known
      _ = (bits &&& kind.known) ||| (bits &&& ~~~kind.known) := by rw [noRest, UInt8.or_zero]
      _ = bits &&& (kind.known ||| ~~~kind.known) :=
          (UInt8.toBitVec_inj.mp BitVec.and_or_distrib_left).symm
      _ = bits := by rw [UInt8.or_not_self, UInt8.and_neg_one]
  · intro same
    rw [← same, UInt8.and_assoc, UInt8.and_not_self, UInt8.and_zero]

theorem truncate_union (left right : Flags kind) :
    (left.union right).truncate = left.truncate.union right.truncate :=
  congrArg mk (UInt8.toBitVec_inj.mp BitVec.and_or_distrib_right)

theorem isKnown_union {left right : Flags kind} (leftKnown : left.isKnown = true)
    (rightKnown : right.isKnown = true) : (left.union right).isKnown = true := by
  rw [isKnown_iff_truncate_eq] at leftKnown rightKnown ⊢
  rw [truncate_union, leftKnown, rightKnown]

theorem isEmpty_union (left right : Flags kind) :
    (left.union right).isEmpty = (left.isEmpty && right.isEmpty) := by
  rw [Bool.eq_iff_iff, Bool.and_eq_true, isEmpty, isEmpty, isEmpty, beq_iff_eq, beq_iff_eq,
    beq_iff_eq, union]
  exact UInt8.or_eq_zero_iff

/-- The parts of the text of a set: the names of its bits, then the unnamed rest as one number. -/
def parts (flags : Flags kind) : List String :=
  let names := kind.named.filterMap fun (bit, name) =>
    if flags.contains ⟨bit⟩ then some name else none
  let rest := flags.bits &&& ~~~kind.known
  if rest == 0 then names else names ++ ["0x" ++ Numeral.lowerHex rest.toNat]

def text (flags : Flags kind) : String :=
  let inside := if flags.isEmpty then "0x0" else " | ".intercalate flags.parts
  kind.label ++ "(" ++ inside ++ ")"

end Flags

abbrev NodeFlags := Flags .node
abbrev BodyFlags := Flags .body
abbrev Phases := Flags .phases

namespace Flags

def aggressiveInlining : NodeFlags := ⟨1⟩

def inlined : NodeFlags := ⟨2⟩

def generator : BodyFlags := ⟨1⟩

def hasTry : BodyFlags := ⟨2⟩

def loopBody : Phases := ⟨1⟩

def fullJit : Phases := ⟨2⟩

end Flags

end JitSnapshot
