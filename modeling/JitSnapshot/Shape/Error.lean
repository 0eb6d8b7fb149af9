import JitSnapshot.Name

set_option autoImplicit false

/-!
The ways in which a snapshot can fail to be a well-formed tree, each with the
node it was found at.
-/

namespace JitSnapshot

inductive RecordTable where
  | body
  | profile
  | runtime
  deriving DecidableEq

def RecordTable.label : RecordTable → String
  | .body => "body"
  | .profile => "profile"
  | .runtime => "runtime"

/-- The lists a node owns. The last belongs to its runtime record. -/
inductive NodeList where
  | inlinees
  | fieldInlinees
  | sharedGuards
  | typeSpecs
  | globalTypeSpecs
  | clonedCaches
  deriving DecidableEq

def NodeList.label : NodeList → String
  | .inlinees => "inlinee"
  | .fieldInlinees => "field inlinee"
  | .sharedGuards => "shared guard"
  | .typeSpecs => "type-spec"
  | .globalTypeSpecs => "global type-spec"
  | .clonedCaches => "cloned inline cache"

inductive BodyData where
  | runtime
  | slots
  | sharedGuards
  | typeSpecs
  | next
  deriving DecidableEq

def BodyData.label : BodyData → String
  | .runtime => "a runtime record"
  | .slots => "inlinee slots"
  | .sharedGuards => "shared guards"
  | .typeSpecs => "type-spec records"
  | .next => "a polymorphic successor"

inductive ShapeError where
  | danglingNode (node : NodeId) (size : Nat)
  | danglingRecord (node : NodeId) (table : RecordTable) (index : UInt32)
  /-- A range of the node ends at `stop`, behind the `size` entries of its list. -/
  | rangeOutOfBounds (node : NodeId) (list : NodeList) (start : UInt32) (stop size : Nat)
  | countMismatch (node : NodeId) (list : NodeList) (expected actual : UInt32)
  | missingRuntime (node : NodeId)
  | bodylessData (node : NodeId) (data : BodyData)
  | guardsWithoutProfile (node : NodeId)
  | sharedNode (node : NodeId)
  deriving DecidableEq

def ShapeError.message : ShapeError → String
  | .danglingNode node size =>
      s!"snapshot node {node.text} is out of bounds (arena holds {size} nodes)"
  | .danglingRecord node table index =>
      s!"node {node.text} refers to missing {table.label} record {index}"
  | .rangeOutOfBounds node list start stop size =>
      s!"node {node.text}: {list.label} range {start}..{stop} exceeds list length {size}"
  | .countMismatch node list expected actual =>
      s!"node {node.text}: {list.label} list has {actual} entries, body records {expected}"
  | .missingRuntime node =>
      s!"node {node.text} has a body but no runtime record"
  | .bodylessData node data =>
      s!"node {node.text} has no body but carries {data.label}"
  | .guardsWithoutProfile node =>
      s!"node {node.text} carries shared property guards without profile data"
  | .sharedNode node =>
      s!"node {node.text} is reachable more than once"

end JitSnapshot
