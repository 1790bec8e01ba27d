import Patchwork.Fault.Kind
import Patchwork.Script.Step
import Patchwork.Store.View
import Patchwork.Text.Printable
import Patchwork.Upkeep.Site
import Patchwork.Proofs.Chain
import Patchwork.Proofs.Walk
import Patchwork.Proofs.Rendering
import Patchwork.Proofs.Division
import Patchwork.Proofs.Tiling
import Patchwork.Proofs.Substitution.Text
import Patchwork.Proofs.Substitution
import Patchwork.Proofs.Life
import Patchwork.Proofs.Life.Walk
import Patchwork.Proofs.Life.Queues
import Patchwork.Proofs.Life.Parts
import Patchwork.Proofs.Life.Output
import Patchwork.Proofs.Anchor
import Patchwork.Proofs.Reachable
import Patchwork.Proofs.Refusal
import Patchwork.Proofs.Life.Bound
import Patchwork.Proofs.Life.Batch
import Patchwork.Proofs.Bounds
import Patchwork.Proofs.Bounds.Script
import Patchwork.Proofs.Split
import Patchwork.Proofs.Cap
import Patchwork.Proofs.Cap.Script
import Patchwork.Proofs.Variant
import Patchwork.Proofs.Variant.Run
import Patchwork.Proofs.Frame
import Patchwork.Proofs.Isolation
import Patchwork.Proofs.Division.Links
import Patchwork.Proofs.Locality
import Patchwork.Proofs.History
import Patchwork.Proofs.Legible.Quoted
import Patchwork.Proofs.Legible
import Patchwork.Proofs.Display
import Patchwork.Proofs.Equality
import Patchwork.Proofs.Records
