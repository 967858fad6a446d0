import DiagramText.Main
import DiagramText.Proofs.Text.Trim
import DiagramText.Proofs.Text.Word
import DiagramText.Proofs.Page
import DiagramText.Proofs.Edge.Forms
import DiagramText.Proofs.Edge.Arrows
import DiagramText.Proofs.Text.Run
import DiagramText.Proofs.Edge.Respacing
import DiagramText.Proofs.Edge.WholeArrow
import DiagramText.Proofs.Edge.Headed
import DiagramText.Proofs.Line
import DiagramText.Proofs.Line.Shaped
import DiagramText.Proofs.Layout.FlowchartRow
import DiagramText.Proofs.Layout.Flowchart
import DiagramText.Proofs.Message
import DiagramText.Proofs.Message.Reading
import DiagramText.Proofs.Declaration
import DiagramText.Proofs.Note
import DiagramText.Proofs.Layout.SequenceRow
import DiagramText.Proofs.Layout.Sequence
import DiagramText.Proofs.Text.Mark
import DiagramText.Proofs.Edge.Label
import DiagramText.Proofs.Snippet
import DiagramText.Proofs.Reply
import DiagramText.Proofs.Document
import DiagramText.Proofs.Block.Stack
import DiagramText.Proofs.Block.Matching
import DiagramText.Proofs.Block.Insertion
import DiagramText.Proofs.Layout.Canonical
import DiagramText.Proofs.Layout.Nesting
import DiagramText.Proofs.Anchor
import DiagramText.Proofs.Insertion
import DiagramText.Proofs.Session
import DiagramText.Proofs.NewNode
import DiagramText.Proofs.Layout.Repeated
import DiagramText.Proofs.Layout.NewNode
import DiagramText.Proofs.Layout.Prettify
import DiagramText.Proofs.Block.Correspondence
import DiagramText.Proofs.Layout.Body
import DiagramText.Proofs.Ends.Edge
import DiagramText.Proofs.Ends.Message
import DiagramText.Proofs.Ends.Reversal
import DiagramText.Proofs.Ends.Swap
import DiagramText.Proofs.Ends.Spaced
import DiagramText.Proofs.Ends.Identifiers
import DiagramText.Proofs.Ends.Headed
import DiagramText.Proofs.Ends.Participants
import DiagramText.Proofs.Edge.ShapedSource
import DiagramText.Proofs.Participant
import DiagramText.Proofs.FreshNode
import DiagramText.Proofs.Session.NewNodes
import DiagramText.Proofs.Insertion.Messages
import DiagramText.Proofs.Snippet.Template
import DiagramText.Proofs.Snippet.TabStops
import DiagramText.Proofs.Anchor.LastNode
