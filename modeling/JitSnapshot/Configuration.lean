import JitSnapshot.Phase.Text
import JitSnapshot.View.Basic

set_option autoImplicit false

/-!
The compiler's configuration: phases switched off, phases forced, and whether
functions are compiled before they are first run. It is read from three
variables; one that is not set leaves its default.

By its configuration it is decided whether a function's loop bodies are to be
compiled on their own. Four gates have to be open, and one of two reasons has
to hold.
-/

namespace JitSnapshot

inductive ConfigVariable where
  | off
  | force
  | prejit
  deriving DecidableEq

def ConfigVariable.name : ConfigVariable → String
  | .off => "ORI_JIT_OFF"
  | .force => "ORI_JIT_FORCE"
  | .prejit => "ORI_JIT_PREJIT"

structure VariableError where
  source : ConfigVariable
  cause : SettingError
  deriving DecidableEq

def VariableError.message (error : VariableError) : String :=
  s!"{error.source.name}: {error.cause.message}"

structure Configuration where
  off : PhaseList := .empty
  force : PhaseList := .empty
  prejit : Bool := false
  deriving DecidableEq, Inhabited

namespace Configuration

/-- A truth value: `1` or `true`, `0` or `false` in any case, with white space
around it or not. A blank text is false. -/
def parseFlag (text : String) : Except SettingError Bool :=
  let value := Blank.trim text.toList
  if value = ['1'] || Separated.sameLetters value ['t', 'r', 'u', 'e'] then .ok true
  else if value.isEmpty || value = ['0']
      || Separated.sameLetters value ['f', 'a', 'l', 's', 'e'] then .ok false
  else .error (.invalidFlag (String.ofList value))

def readVariable {α : Type} (lookup : String → Option String) (source : ConfigVariable)
    (default : α) (read : String → Except SettingError α) : Except VariableError α :=
  match lookup source.name with
  | none => .ok default
  | some text => (read text).mapError fun cause => { source, cause }

/-- The configuration that the variables hold. The first that cannot be read is
reported, in the order off, force, prejit. -/
def ofLookup (lookup : String → Option String) : Except VariableError Configuration := do
  let off ← readVariable lookup .off .empty PhaseList.parse
  let force ← readVariable lookup .force .empty PhaseList.parse
  let prejit ← readVariable lookup .prejit false parseFlag
  return { off, force, prejit }

def isOff (configuration : Configuration) (phases : Phases) (key : FunctionKey) : Bool :=
  configuration.off.contains phases key

def isForced (configuration : Configuration) (phases : Phases) (key : FunctionKey) : Bool :=
  configuration.force.contains phases key

end Configuration

/-! ### Loop bodies -/

def View.keyWith (view : View) (body : BodyRecord) : FunctionKey :=
  { source := body.sourceContext, localFunction := view.localFunction }

/-- No gate is closed: neither phase is off for the function, and its body is
neither a generator nor has it exception handlers. -/
def Configuration.admitsLoopBody (configuration : Configuration) (key : FunctionKey)
    (body : BodyRecord) : Bool :=
  !configuration.isOff .loopBody key && !configuration.isOff .fullJit key &&
    !body.isGenerator && !body.hasTry

def View.forcesLoopBody (view : View) (configuration : Configuration) :
    Except ViewError Bool := do
  let body ← view.bodyFor .loopBodyPolicy
  let key := view.keyWith body
  return configuration.admitsLoopBody key body &&
    (configuration.isForced .loopBody key || configuration.prejit)

end JitSnapshot
