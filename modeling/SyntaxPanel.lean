import SyntaxPanel.Document
import SyntaxPanel.Main
import SyntaxPanel.Proofs.Dialect
import SyntaxPanel.Proofs.Document.Edit
import SyntaxPanel.Proofs.Document.Position
import SyntaxPanel.Proofs.Document.Range
import SyntaxPanel.Proofs.Document.Replace
import SyntaxPanel.Proofs.Document.Snap
import SyntaxPanel.Proofs.Document.Splice
import SyntaxPanel.Proofs.Panel.Activation
import SyntaxPanel.Proofs.Panel.Batch
import SyntaxPanel.Proofs.Panel.Bystander
import SyntaxPanel.Proofs.Panel.Coherence
import SyntaxPanel.Proofs.Panel.Decorations
import SyntaxPanel.Proofs.Panel.Following
import SyntaxPanel.Proofs.Panel.Grouping
import SyntaxPanel.Proofs.Panel.Hiding
import SyntaxPanel.Proofs.Panel.History
import SyntaxPanel.Proofs.Panel.Lockstep
import SyntaxPanel.Proofs.Panel.Naming
import SyntaxPanel.Proofs.Panel.Progress
import SyntaxPanel.Proofs.Panel.Run
import SyntaxPanel.Proofs.Panel.Selection
import SyntaxPanel.Proofs.Panel.Unknown
import SyntaxPanel.Proofs.Server.Browsing
import SyntaxPanel.Proofs.Server.Items
import SyntaxPanel.Proofs.Server.Misread
import SyntaxPanel.Proofs.Server.Noise
import SyntaxPanel.Proofs.Server.Notices
import SyntaxPanel.Proofs.Server.Options
import SyntaxPanel.Proofs.Server.Progress
import SyntaxPanel.Proofs.Server.Responses
import SyntaxPanel.Proofs.Server.Serving
import SyntaxPanel.Proofs.Server.Unavailable
import SyntaxPanel.Proofs.Tree.Dump
import SyntaxPanel.Proofs.Tree.Fit
import SyntaxPanel.Proofs.Tree.Marks
import SyntaxPanel.Proofs.Tree.Outline
import SyntaxPanel.Proofs.Tree.Paths
import SyntaxPanel.Proofs.Tree.Problems
import SyntaxPanel.Proofs.Tree.Walk
