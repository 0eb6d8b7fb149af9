import JitSnapshot.Text.Lexical

set_option autoImplicit false

/-!
How things name one another. The records of a snapshot name the running program
by addresses, other records by ids and the entries of flat lists by ranges; a
function instance is named, from the one above it, by a step.

Ids and ranges are made of 32-bit words. A position or a length that does not
fit one cannot be named, and is an overflow.
-/

namespace JitSnapshot

/-! ### Addresses -/

/-- A word of the process that runs the compiled program. A snapshot carries
addresses, and never follows one. -/
structure Address where
  raw : UInt64
  deriving DecidableEq, Inhabited

namespace Address

def null : Address := ⟨0⟩

def isNull (address : Address) : Bool :=
  address.raw == 0

def text (address : Address) : String :=
  if address.isNull then "RemoteAddr::NULL"
  else "RemoteAddr(0x" ++ Numeral.upperHex address.raw.toNat ++ ")"

end Address

/-! ### Ids -/

/-- What a 32-bit number names. The first four name records of an arena. -/
inductive IdKind where
  | node
  | body
  | runtime
  | profile
  | property
  | localFunction
  | sourceContext
  | functionNumber
  | inlineCache
  deriving DecidableEq

def IdKind.label : IdKind → String
  | .node => "SnapshotId"
  | .body => "BodyId"
  | .runtime => "RuntimeId"
  | .profile => "ProfileSlotId"
  | .property => "PropertyId"
  | .localFunction => "LocalFunctionId"
  | .sourceContext => "SourceContextId"
  | .functionNumber => "FunctionNumber"
  | .inlineCache => "InlineCacheIndex"

structure Id (kind : IdKind) where
  raw : UInt32
  deriving DecidableEq, Inhabited

namespace Id

variable {kind : IdKind}

def index (id : Id kind) : Nat :=
  id.raw.toNat

theorem index_inj {left right : Id kind} : left.index = right.index ↔ left = right := by
  constructor
  · intro same
    cases left with
    | mk left =>
        cases right with
        | mk right => exact congrArg Id.mk (UInt32.toNat_inj.mp same)
  · exact congrArg index

def text (id : Id kind) : String :=
  kind.label ++ "(" ++ toString id.raw.toNat ++ ")"

end Id

abbrev NodeId := Id .node
abbrev BodyId := Id .body
abbrev RuntimeId := Id .runtime
abbrev ProfileId := Id .profile
abbrev PropertyId := Id .property
abbrev LocalFunctionId := Id .localFunction
abbrev SourceContextId := Id .sourceContext
abbrev FunctionNumber := Id .functionNumber
abbrev CacheIndex := Id .inlineCache

structure CallSite where
  raw : UInt16
  deriving DecidableEq, Inhabited

namespace CallSite

def index (site : CallSite) : Nat :=
  site.raw.toNat

def text (site : CallSite) : String :=
  "ProfileId(" ++ toString site.index ++ ")"

end CallSite

/-! ### Ranges -/

inductive ListKind where
  | slots
  | addresses
  | guards
  | typeSpecs
  deriving DecidableEq

def ListKind.label : ListKind → String
  | .slots => "SlotRange"
  | .addresses => "AddrRange"
  | .guards => "GuardRange"
  | .typeSpecs => "TypeSpecRange"

structure ListRange (kind : ListKind) where
  start : UInt32
  len : UInt32
  deriving DecidableEq

namespace ListRange

variable {kind : ListKind}

/-- The range an empty list has, wherever it was pushed. -/
def empty : ListRange kind := ⟨0, 0⟩

instance : Inhabited (ListRange kind) := ⟨empty⟩

/-- A natural number, so it cannot wrap. -/
def stop (range : ListRange kind) : Nat :=
  range.start.toNat + range.len.toNat

def isEmpty (range : ListRange kind) : Bool :=
  range.len == 0

def text (range : ListRange kind) : String :=
  kind.label ++ "(" ++ toString range.start.toNat ++ ".." ++ toString range.stop ++ ")"

/-- The entries of a range of a list, unless the range ends behind the list. -/
def read? {α : Type} (range : ListRange kind) (entries : Array α) : Option (List α) :=
  if range.isEmpty then some []
  else if range.stop ≤ entries.size then
    some (entries.extract range.start.toNat range.stop).toList
  else none

end ListRange

abbrev SlotRange := ListRange .slots
abbrev AddressRange := ListRange .addresses
abbrev GuardRange := ListRange .guards
abbrev TypeSpecRange := ListRange .typeSpecs

/-! ### Capacity -/

/-- What is counted in 32-bit words: the records of an arena and the entries of
its flat lists, and those of one list that is to go behind them. -/
inductive Counted where
  | nodes
  | bodies
  | runtimes
  | profiles
  | entries (kind : ListKind)
  | list (kind : ListKind)
  deriving DecidableEq

def Counted.label : Counted → String
  | .nodes => "snapshot nodes"
  | .bodies => "bodies"
  | .runtimes => "runtime records"
  | .profiles => "profiles"
  | .entries .slots => "inlinee slots"
  | .entries .addresses => "inline cache addresses"
  | .entries .guards => "shared guards"
  | .entries .typeSpecs => "type-spec records"
  | .list .slots => "inlinee slot list"
  | .list .addresses => "inline cache address list"
  | .list .guards => "shared guard list"
  | .list .typeSpecs => "type-spec list"

/-- A count that no 32-bit word holds. -/
structure Overflow where
  counted : Counted
  count : Nat
  exceeds : UInt32.size ≤ count
  deriving DecidableEq

def Overflow.message (overflow : Overflow) : String :=
  s!"snapshot arena overflow: {overflow.counted.label} count {overflow.count} exceeds u32::MAX"

def Counted.word (counted : Counted) (count : Nat) : Except Overflow UInt32 :=
  if fits : count < UInt32.size then .ok (.ofNatLT count fits)
  else .error { counted, count, exceeds := Nat.le_of_not_lt fits }

/-- The id of a record behind so many others. -/
def Id.behind {kind : IdKind} (counted : Counted) (count : Nat) : Except Overflow (Id kind) :=
  return ⟨← counted.word count⟩

/-- The range of a list behind so many entries. The empty list is not counted. -/
def ListRange.behind {kind : ListKind} (count length : Nat) :
    Except Overflow (ListRange kind) :=
  if length = 0 then .ok empty
  else return ⟨← Counted.word (.entries kind) count, ← Counted.word (.list kind) length⟩

/-! ### Steps -/

/-- A step from a function instance to one below it. The same steps lead through
the live functions, their runtime contexts, the nodes of an arena and the views
of them. -/
inductive Step where
  | inlinee (site : Nat)
  | fieldInlinee (cache : Nat)
  | next
  deriving DecidableEq

end JitSnapshot
