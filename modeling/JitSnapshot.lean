import JitSnapshot.Build.Node
import JitSnapshot.Configuration
import JitSnapshot.DebugTag
import JitSnapshot.Proofs.Arena.Receipts
import JitSnapshot.Proofs.Build.Counted
import JitSnapshot.Proofs.Build.Failure
import JitSnapshot.Proofs.Build.Inlinee
import JitSnapshot.Proofs.Build.Owned
import JitSnapshot.Proofs.Build.Preorder
import JitSnapshot.Proofs.Build.Statistics
import JitSnapshot.Proofs.DebugTag
import JitSnapshot.Proofs.Phase.Grammar
import JitSnapshot.Proofs.Policy
import JitSnapshot.Proofs.Tree.Recursive
import JitSnapshot.Proofs.Tree.Report
import JitSnapshot.Proofs.Tree.Stability
import JitSnapshot.Proofs.Tree.Subtrees
import JitSnapshot.Proofs.View.Mirror
import JitSnapshot.Proofs.View.Search
import JitSnapshot.Proofs.View.Tag
import JitSnapshot.Proofs.Wire.Prefix
import JitSnapshot.View.Text
import JitSnapshot.Wire.Snapshot
