import Highlighter.Files.Tree
import Highlighter.Main
import Highlighter.Proofs.Registry.Names
import Highlighter.Proofs.Registry.Settled
import Highlighter.Proofs.Line.Repeating
import Highlighter.Proofs.Session.Calls
import Highlighter.Proofs.Session.Lines
import Highlighter.Proofs.Document.Kept
import Highlighter.Proofs.Document.Highlight
import Highlighter.Proofs.Document.Incremental
import Highlighter.Proofs.Line.Dispatching
import Highlighter.Proofs.Line.SpanEnd
import Highlighter.Proofs.Session.OpenSpans
import Highlighter.Proofs.Line.Claims
import Highlighter.Proofs.Line.DelegatedRanges
import Highlighter.Proofs.Guarded.Lines
import Highlighter.Proofs.Line.Steps
import Highlighter.Proofs.Registry.Depth
import Highlighter.Proofs.Session.Termination
import Highlighter.Proofs.States.Words
import Highlighter.Proofs.Session.Handles
import Highlighter.Proofs.Registry.Sharing
import Highlighter.Proofs.Registry.History
import Highlighter.Proofs.Line.Leaving
import Highlighter.Proofs.Registry.Requests
import Highlighter.Proofs.Session.Resuming
import Highlighter.Proofs.Registry.Origins
import Highlighter.Proofs.Registry.Unknown
import Highlighter.Proofs.Session.Consulting
import Highlighter.Proofs.Registry.Leading
import Highlighter.Proofs.Line.InStep
import Highlighter.Proofs.Session.AfterColor
import Highlighter.Proofs.Line.LocalActions
import Highlighter.Proofs.Line.IgnoringCase
import Highlighter.Proofs.Registry.PlainRules
import Highlighter.Proofs.Session.IgnoringCase
import Highlighter.Proofs.Line.EndMarkers
import Highlighter.Proofs.Line.LineStart
import Highlighter.Proofs.Session.ColoringOff
import Highlighter.Proofs.Line.Switching
import Highlighter.Proofs.Session.Switching
import Highlighter.Proofs.Line.RangeClaims
import Highlighter.Proofs.Session.DelegatedLines
import Highlighter.Proofs.Line.DocParts
import Highlighter.Proofs.Session.DocParts
import Highlighter.Proofs.Line.ClosingMarkers
import Highlighter.Proofs.Session.ClosingMarkers
import Highlighter.Proofs.Line.Rows
import Highlighter.Proofs.Line.Inserting
import Highlighter.Proofs.Line.Filling
import Highlighter.Proofs.Line.Nesting
import Highlighter.Proofs.Session.Nesting
import Highlighter.Proofs.Rendering.Flattening
import Highlighter.Proofs.Registry.Growth
import Highlighter.Proofs.Line.NestedRuns
import Highlighter.Proofs.Registry.Gathering
import Highlighter.Proofs.Registry.LeadingLiterals
import Highlighter.Proofs.Line.Keywords
import Highlighter.Proofs.Registry.Courses
import Highlighter.Proofs.Registry.Listing
import Highlighter.Proofs.Registry.Reached
import Highlighter.Proofs.Line.MaximalWords
import Highlighter.Proofs.Session.MaximalWords
import Highlighter.Proofs.Document.Reasons
import Highlighter.Proofs.Registry.DirectivePlaces
import Highlighter.Proofs.Rendering.Pieces
import Highlighter.Proofs.Settings
import Highlighter.Proofs.Session.ArmedSpans
