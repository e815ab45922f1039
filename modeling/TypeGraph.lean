import TypeGraph.Data.Json.Reader
import TypeGraph.Graph.Step
import TypeGraph.Main
import TypeGraph.Proofs.FirstSeen
import TypeGraph.Tools.Session
import TypeGraph.Tools.Start
import TypeGraph.Proofs.Growth
import TypeGraph.Proofs.EntityModel
import TypeGraph.Proofs.EdgeModel
import TypeGraph.Proofs.Reading
import TypeGraph.Proofs.Grammar
import TypeGraph.Proofs.Comments
import TypeGraph.Proofs.Program
import TypeGraph.Proofs.ProgramLines
import TypeGraph.Proofs.NoMatch
import TypeGraph.Proofs.ProgramGraph
import TypeGraph.Proofs.Legible
import TypeGraph.Proofs.DiagramReader
import TypeGraph.Proofs.History
import TypeGraph.Proofs.Rearrangement
import TypeGraph.Proofs.LineEnds
import TypeGraph.Proofs.Address
import TypeGraph.Proofs.Exchange
import TypeGraph.Proofs.Outcome
import TypeGraph.Proofs.Commentary
import TypeGraph.Proofs.ResultShape
import TypeGraph.Proofs.ToolAnswers
import TypeGraph.Proofs.ReturnText
import TypeGraph.Proofs.CommentFree
import TypeGraph.Proofs.FieldType
import TypeGraph.Proofs.Segments
import TypeGraph.Proofs.DiagramBlocks
import TypeGraph.Proofs.AddressReader
import TypeGraph.Proofs.Revalidation
import TypeGraph.Proofs.FileWriting
import TypeGraph.Proofs.Effects
import TypeGraph.Proofs.MarkupParts
import TypeGraph.Proofs.ShownText
import TypeGraph.Proofs.EscapedText
import TypeGraph.Proofs.Verbatim
import TypeGraph.Proofs.MemberLine
import TypeGraph.Proofs.RecordedText
import TypeGraph.Proofs.Inspection
import TypeGraph.Proofs.DiagramLines
