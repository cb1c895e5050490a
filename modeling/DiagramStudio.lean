import DiagramStudio.Program
import DiagramStudio.Script.Launching
import DiagramStudio.Workbench
import DiagramStudio.Proofs.Editing.Address
import DiagramStudio.Proofs.Editing.Timeline
import DiagramStudio.Proofs.Editing.Saving
import DiagramStudio.Proofs.Editing.Stored
import DiagramStudio.Proofs.Finding.Place
import DiagramStudio.Proofs.Preview.Newest
import DiagramStudio.Proofs.Preview.Precheck
import DiagramStudio.Proofs.Workbench.Picture
import DiagramStudio.Proofs.Workbench.Undisturbed
import DiagramStudio.Proofs.Markup.Harmless
import DiagramStudio.Proofs.Share.Accepted
import DiagramStudio.Proofs.Command.Sharing
import DiagramStudio.Proofs.Editing.Failing
import DiagramStudio.Proofs.Config.Viewer
import DiagramStudio.Proofs.Markup.Link
import DiagramStudio.Proofs.Canvas.Composed
import DiagramStudio.Proofs.Share.Cut
import DiagramStudio.Proofs.Preview.Gestures
import DiagramStudio.Proofs.Preview.Launching
import DiagramStudio.Proofs.Markup.SelfContained
import DiagramStudio.Proofs.Editing.Neighbours
import DiagramStudio.Proofs.Finding.Ignored
import DiagramStudio.Proofs.Markup.Extent
import DiagramStudio.Proofs.Command.Footprint
import DiagramStudio.Proofs.Editing.Loading
import DiagramStudio.Proofs.Workbench.Keys
import DiagramStudio.Proofs.Naming.FileName
import DiagramStudio.Proofs.Canvas.Measured
