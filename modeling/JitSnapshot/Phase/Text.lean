import JitSnapshot.Phase.List
import JitSnapshot.Text.Lexical

set_option autoImplicit false

/-!
Phase lists as text, for instance `JITLoopBody;FullJit:3.12,3.14`: entries
between semicolons, each a phase for every function, or a phase, a colon and
keys between commas. A key is the number of a source, a point and the number of
a function in it.

The printer writes the phases enabled everywhere first, then each phase with
its keys in ascending order. The reader takes names in any case of ASCII
letters, white space around entries, names and keys, and entries in any order.
-/

namespace JitSnapshot

inductive SettingError where
  | unknownPhase (name : String)
  | invalidFunctionKey (key : String)
  | invalidFlag (value : String)
  deriving DecidableEq

def SettingError.message : SettingError → String
  | .unknownPhase name => s!"unknown JIT phase `{name}`"
  | .invalidFunctionKey key =>
      s!"invalid function key `{key}`, expected `<source>.<local>`"
  | .invalidFlag value =>
      s!"invalid boolean `{value}`, expected `1`, `0`, `true` or `false`"

namespace Phase

def named : List (Phases × String) :=
  [(.loopBody, "JITLoopBody"), (.fullJit, "FullJit")]

def ofName? (name : List Char) : Option Phases :=
  (named.find? fun entry => Separated.sameLetters entry.2.toList name).map Prod.fst

end Phase

namespace FunctionKey

def chars (key : FunctionKey) : List Char :=
  Nat.toDigits 10 key.source.raw.toNat ++ '.' :: Nat.toDigits 10 key.localFunction.raw.toNat

def ofChars? (text : List Char) : Option FunctionKey := do
  let (source, localFunction) ← Separated.cutFirst? '.' text
  let source ← Numeral.toUInt32? source
  let localFunction ← Numeral.toUInt32? localFunction
  return { source := ⟨source⟩, localFunction := ⟨localFunction⟩ }

end FunctionKey

namespace PhaseList

/-! ### Printing -/

def globalPieces (list : PhaseList) : List (List Char) :=
  Phase.named.filterMap fun (phase, name) =>
    if list.everywhere.contains phase then some name.toList else none

def keysOf (list : PhaseList) (phase : Phases) : List FunctionKey :=
  (list.entries.filter fun entry => entry.2.contains phase).map Prod.fst

/-- The piece for the keys of a phase. A phase without keys has none. -/
def keyedPiece? (name : String) : List FunctionKey → Option (List Char)
  | [] => none
  | keys => some (name.toList ++ ':' :: Separated.join ',' (keys.map FunctionKey.chars))

def keyedPieces (list : PhaseList) : List (List Char) :=
  Phase.named.filterMap fun (phase, name) => keyedPiece? name (list.keysOf phase)

def chars (list : PhaseList) : List Char :=
  Separated.join ';' (list.globalPieces ++ list.keyedPieces)

/-- The canonical text of a phase list. Bits without a phase are left out. -/
def text (list : PhaseList) : String :=
  String.ofList list.chars

/-! ### Reading -/

def addKey (phase : Phases) (list : PhaseList) (key : List Char) :
    Except SettingError PhaseList :=
  let key := Blank.trim key
  match FunctionKey.ofChars? key with
  | none => .error (.invalidFunctionKey (String.ofList key))
  | some key => .ok (list.enableFor phase key)

def nameAndKeys (entry : List Char) : List Char × Option (List Char) :=
  match Separated.cutFirst? ':' entry with
  | some (name, keys) => (Blank.trim name, some keys)
  | none => (entry, none)

/-- Adds one entry, without white space around it and not blank. The name is judged before the
keys. -/
def addEntry (list : PhaseList) (entry : List Char) : Except SettingError PhaseList :=
  let (name, keys) := nameAndKeys entry
  match Phase.ofName? name with
  | none => .error (.unknownPhase (String.ofList name))
  | some phase =>
      match keys with
      | none => .ok (list.enable phase)
      | some keys => (keys.splitOn ',').foldlM (addKey phase) list

def entriesOf (text : List Char) : List (List Char) :=
  ((text.splitOn ';').map Blank.trim).filter fun entry => !entry.isEmpty

def parseChars (text : List Char) : Except SettingError PhaseList :=
  (entriesOf text).foldlM addEntry empty

/-- The phase list that a text names, or its leftmost offence. -/
def parse (text : String) : Except SettingError PhaseList :=
  parseChars text.toList

end PhaseList

end JitSnapshot
