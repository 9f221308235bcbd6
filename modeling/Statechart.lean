import Statechart.Json.Reader
import Statechart.Main
import Statechart.Proofs.Lines
import Statechart.Proofs.Moves
import Statechart.Proofs.Growth
import Statechart.Proofs.Translation
import Statechart.Proofs.GraphView
import Statechart.Proofs.Ownership
import Statechart.Proofs.OpenScopes
import Statechart.Proofs.Conservation
import Statechart.Proofs.Names
import Statechart.Proofs.Requests
import Statechart.Proofs.StartsAndEnds
import Statechart.Proofs.Nicknames
import Statechart.Proofs.Repetition
import Statechart.Proofs.Distinctness
import Statechart.Proofs.Stability
import Statechart.Proofs.Reports
import Statechart.Proofs.EmptiedLines
import Statechart.Proofs.ExactReports
import Statechart.Proofs.Contents
import Statechart.Proofs.Depth
import Statechart.Proofs.Reconstruction
import Statechart.Proofs.FlatDiagrams
import Statechart.Proofs.Identifiers
import Statechart.Proofs.Layout
import Statechart.Proofs.Grammar
import Statechart.Proofs.Classification
import Statechart.Proofs.QuotedNames
import Statechart.Proofs.NamelessStates
import Statechart.Proofs.Edges
import Statechart.Proofs.Cycles
import Statechart.Proofs.OwnerChains
import Statechart.Proofs.Statistics
import Statechart.Proofs.JsonTexts
import Statechart.Proofs.JsonPrinting
import Statechart.Proofs.StructuredReports
import Statechart.Proofs.Histories
import Statechart.Proofs.Attachments
import Statechart.Proofs.ListingRows
import Statechart.Proofs.Formats
import Statechart.Proofs.KindsAndNames
import Statechart.Proofs.NormalNames
import Statechart.Proofs.RegistryIndex
