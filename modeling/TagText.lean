import TagText.Cursor
import TagText.Encoding.Decode
import TagText.Main
import TagText.Proofs.Building.Readiness
import TagText.Proofs.Template.Conservation
import TagText.Proofs.Template.Escaping
import TagText.Proofs.Template.NormalForm
import TagText.Template.Expectation
import TagText.Template.Piece
import TagText.Proofs.Rendering.TextModifiers
import TagText.Proofs.CommandLine.Check
import TagText.Proofs.Template.TagFault
import TagText.Proofs.Template.Fault
import TagText.Proofs.Template.FaultPlace
import TagText.Proofs.Template.Concatenation
import TagText.Proofs.Rendering.Meaning
import TagText.Proofs.Building.Markup
import TagText.Proofs.Building.ListPaths
import TagText.Proofs.Rendering.Dependence
import TagText.Proofs.Template.Diagnosis
import TagText.Proofs.Template.PlainText
import TagText.Proofs.Session.Registrations
import TagText.Proofs.Value.ToldPath
import TagText.Proofs.Encoding.Percent
import TagText.Proofs.Named.Distinct
import TagText.Proofs.Value.Equality
import TagText.Proofs.Rendering.Chains
import TagText.Proofs.Session.Stores
import TagText.Proofs.Json.RoundTrip
import TagText.Proofs.Building.DottedPaths
import TagText.Proofs.Value.Index
import TagText.Proofs.CommandLine.Assignments
import TagText.Proofs.Session.Parsers
import TagText.Proofs.Session.Cursors
import TagText.Proofs.Template.LongestName
import TagText.Proofs.Template.CursorScan
import TagText.Proofs.Template.Progress
import TagText.Proofs.Config.Layering
