import ClassWiki.Main
import ClassWiki.Proofs.Conversion.LastWriter
import ClassWiki.Proofs.Conversion.Settings
import ClassWiki.Proofs.Conversion.TwoRuns
import ClassWiki.Proofs.Link.Nesting
import ClassWiki.Proofs.Doc.Element
import ClassWiki.Proofs.Page.Outline
import ClassWiki.Proofs.Doc.Comment
import ClassWiki.Proofs.Doc.Styles
import ClassWiki.Proofs.Tree.Excerpt
import ClassWiki.Proofs.Declaration.Locality
import ClassWiki.Proofs.Doc.Summary
import ClassWiki.Proofs.Doc.Exceptions
import ClassWiki.Proofs.Link.Qualified
import ClassWiki.Proofs.Declaration.Calls
import ClassWiki.Proofs.Declaration.Remarks
import ClassWiki.Proofs.Config.Overlay
import ClassWiki.Proofs.Declaration.Nested
import ClassWiki.Proofs.Doc.Grouping
import ClassWiki.Proofs.Doc.Paired
import ClassWiki.Proofs.Doc.Content
import ClassWiki.Proofs.Page.Summaries
import ClassWiki.Proofs.Declaration.Bases
import ClassWiki.Proofs.Declaration.ParameterText
import ClassWiki.Proofs.Store.Discovery
import ClassWiki.Proofs.Tree.Descendants
import ClassWiki.Proofs.Tree.Offsets
