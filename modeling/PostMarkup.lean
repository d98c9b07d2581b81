import PostMarkup.Document.Printer
import PostMarkup.Line.Cursor
import PostMarkup.Main
import PostMarkup.Proofs.Analysis
import PostMarkup.Proofs.Errors
import PostMarkup.Proofs.Findings
import PostMarkup.Proofs.Grammar
import PostMarkup.Proofs.Joining
import PostMarkup.Proofs.Lines
import PostMarkup.Proofs.Overrides
import PostMarkup.Proofs.Parsed
import PostMarkup.Proofs.Precedence
import PostMarkup.Proofs.Reordering
import PostMarkup.Proofs.RoundTrip
import PostMarkup.Proofs.Stages
import PostMarkup.Proofs.Validation
import PostMarkup.Proofs.Wording
import PostMarkup.Proofs.Gating
import PostMarkup.Proofs.Atomicity
import PostMarkup.Proofs.EmptyParts
import PostMarkup.Proofs.Pattern
import PostMarkup.Proofs.Score
import PostMarkup.Proofs.ContentLines
import PostMarkup.Proofs.LineByLine
import PostMarkup.Proofs.Multiples
import PostMarkup.Proofs.Coherence
import PostMarkup.Proofs.Leniency
import PostMarkup.Proofs.Embedding
import PostMarkup.Proofs.RenderedLength
import PostMarkup.Proofs.Relayout
import PostMarkup.Proofs.Confinement
import PostMarkup.Proofs.Notices
import PostMarkup.Proofs.Recording
import PostMarkup.Proofs.Cursor
import PostMarkup.Proofs.Accounting
import PostMarkup.Proofs.Summary
import PostMarkup.Proofs.Json
