import HtmlTemplate.Main
import HtmlTemplate.File.Tree
import HtmlTemplate.Host.Handles
import HtmlTemplate.Proofs.Arguments.Progress
import HtmlTemplate.Proofs.Arguments.Agreement
import HtmlTemplate.Proofs.Arguments.Acceptance
import HtmlTemplate.Proofs.Arguments.Sharing
import HtmlTemplate.Proofs.Arguments.Grounds
import HtmlTemplate.Proofs.Arguments.Description
import HtmlTemplate.Proofs.Text.Clusters
import HtmlTemplate.Proofs.Text.DoubledSigns
import HtmlTemplate.Proofs.Template.Places
import HtmlTemplate.Proofs.Template.Reading
import HtmlTemplate.Proofs.Template.SignRuns
import HtmlTemplate.Proofs.Template.Spelling
import HtmlTemplate.Proofs.Template.Lossless
import HtmlTemplate.Proofs.Template.Bytecode
import HtmlTemplate.Proofs.Markup.Escape
import HtmlTemplate.Proofs.Render.Run
import HtmlTemplate.Proofs.Render.Provenance
import HtmlTemplate.Proofs.Render.Announced
import HtmlTemplate.Proofs.Engine.Substitution
import HtmlTemplate.Proofs.Engine.Sandbox
import HtmlTemplate.Proofs.Engine.Cache
import HtmlTemplate.Proofs.Engine.Attribution
import HtmlTemplate.Proofs.Engine.Spellings
import HtmlTemplate.Proofs.Render.Verbatim
import HtmlTemplate.Proofs.Template.Pieces
import HtmlTemplate.Proofs.Template.Division
import HtmlTemplate.Proofs.Template.NormalForm
import HtmlTemplate.Proofs.Markup.Unescape
import HtmlTemplate.Proofs.Markup.Scan
import HtmlTemplate.Proofs.Value.Escape
import HtmlTemplate.Proofs.Engine.Resolution
import HtmlTemplate.Proofs.Engine.Reads
import HtmlTemplate.Proofs.Template.TokenLines
import HtmlTemplate.Proofs.Command.Agreement
import HtmlTemplate.Proofs.Arguments.OfJson
import HtmlTemplate.Proofs.Template.Names
import HtmlTemplate.Proofs.Decimal.Format
import HtmlTemplate.Proofs.Decimal.Equality
import HtmlTemplate.Proofs.Text.Boundaries
import HtmlTemplate.Proofs.Value.Equality
import HtmlTemplate.Proofs.Arguments.Stages
import HtmlTemplate.Proofs.Arguments.Bookkeeping
import HtmlTemplate.Proofs.Template.TokenLines
