import JitSnapshot.Text.Quoted
import JitSnapshot.View.Runtime

set_option autoImplicit false

/-!
Views as messages show them: a name, and the fields in braces.
-/

namespace JitSnapshot

def fieldsText (name : String) (fields : List (String × String)) : String :=
  name ++ " \x7b " ++ ", ".intercalate (fields.map fun (field, text) => field ++ ": " ++ text) ++
    " \x7d"

def optionText : Option String → String
  | none => "None"
  | some text => "Some(" ++ text ++ ")"

def truthText (value : Bool) : String :=
  if value then "true" else "false"

def View.text (view : View) : String :=
  fieldsText "FunctionSnapshot"
    [("id", view.id.text), ("function_info_addr", view.functionInfo.text),
      ("has_body", truthText view.hasBody)]

def BodyRecord.text (body : BodyRecord) : String :=
  fieldsText "BodyRecord"
    [("addr", body.address.text), ("source_context_id", body.sourceContext.text),
      ("function_number", body.functionNumber.text),
      ("profiled_call_site_count", toString body.callSiteCount.toNat),
      ("inline_cache_count", toString body.cacheCount.toNat), ("flags", body.flags.text),
      ("display_name", Quoted.encode body.displayName),
      ("profile", optionText (body.profile.map Id.text))]

def RuntimeView.text (runtime : RuntimeView) : Except ViewError String := do
  let addresses ← runtime.clonedCaches
  return fieldsText "RuntimeInfo"
    [("cloned_inline_caches", "[" ++ ", ".intercalate (addresses.map Address.text) ++ "]")]

end JitSnapshot
