import CrateDocs.Link.Layout
import CrateDocs.Link.Target.Fields
import CrateDocs.Main
import CrateDocs.Proofs.Address
import CrateDocs.Proofs.Agreement
import CrateDocs.Proofs.AnyShape
import CrateDocs.Proofs.Arguments
import CrateDocs.Proofs.Context
import CrateDocs.Proofs.Effects
import CrateDocs.Proofs.Escape
import CrateDocs.Proofs.FixedPoint
import CrateDocs.Proofs.InnerLink
import CrateDocs.Proofs.LastLine
import CrateDocs.Proofs.LineEndings
import CrateDocs.Proofs.Lines
import CrateDocs.Proofs.LinkDefinition
import CrateDocs.Proofs.LinkPattern
import CrateDocs.Proofs.Loading
import CrateDocs.Proofs.Opacity
import CrateDocs.Proofs.Output
import CrateDocs.Proofs.PackageName
import CrateDocs.Proofs.Packages
import CrateDocs.Proofs.Page
import CrateDocs.Proofs.PageOrder
import CrateDocs.Proofs.Path
import CrateDocs.Proofs.Precedence
import CrateDocs.Proofs.Reading
import CrateDocs.Proofs.Recognition
import CrateDocs.Proofs.Refusal
import CrateDocs.Proofs.Relinking
import CrateDocs.Proofs.Rendering
import CrateDocs.Proofs.SameLink
import CrateDocs.Proofs.Seam
import CrateDocs.Proofs.Strictness
import CrateDocs.Proofs.Style
import CrateDocs.Proofs.UnknownKind
import CrateDocs.Proofs.Warning
import CrateDocs.Sandbox
