import WikiStubs.Command.Machine
import WikiStubs.Main
import WikiStubs.Proofs.Bullet.Listed
import WikiStubs.Proofs.Bullet.Spelling
import WikiStubs.Proofs.Call.Spelled
import WikiStubs.Proofs.Command.Catalog
import WikiStubs.Proofs.Command.Functions
import WikiStubs.Proofs.Command.Output
import WikiStubs.Proofs.Command.Reached
import WikiStubs.Proofs.Descriptions.Places
import WikiStubs.Proofs.FunctionPage.Record
import WikiStubs.Proofs.LineEnds.Run
import WikiStubs.Proofs.Link.Rewriting
import WikiStubs.Proofs.Record.Extras
import WikiStubs.Proofs.Redirect.Trailing
import WikiStubs.Proofs.Render.CommentLines
import WikiStubs.Proofs.Render.Contiguous
import WikiStubs.Proofs.Render.Entries
import WikiStubs.Proofs.Render.JsonFile
import WikiStubs.Proofs.Render.Prototype
import WikiStubs.Proofs.Resolve
import WikiStubs.Proofs.Resolve.Appended
import WikiStubs.Proofs.Resolve.Raised
import WikiStubs.Proofs.Section.Names
import WikiStubs.Proofs.Section.Parts
import WikiStubs.Proofs.Section.RoundTrip
import WikiStubs.Proofs.Section.Subsections
import WikiStubs.Proofs.Signature.ClosedForm
import WikiStubs.Proofs.Signature.Distinct
import WikiStubs.Proofs.Signature.WellFormed
import WikiStubs.Proofs.VarType.Inference
import WikiStubs.Proofs.VarType.Numeral
