import DataCatalog.Document.Record
import DataCatalog.Main
import DataCatalog.Proofs.Recording
import DataCatalog.Proofs.FetchGate
import DataCatalog.Proofs.Evaluation
import DataCatalog.Proofs.BottomUp
import DataCatalog.Proofs.MappingKeys
import DataCatalog.Proofs.Parsing
import DataCatalog.Proofs.Grammar
import DataCatalog.Proofs.DocumentPosition
import DataCatalog.Proofs.ErrorPosition
import DataCatalog.Proofs.DatasetNames
import DataCatalog.Proofs.KeyEquality
import DataCatalog.Proofs.LayeredParameters
import DataCatalog.Proofs.Precedence
import DataCatalog.Proofs.Decoding
import DataCatalog.Proofs.PlainData
import DataCatalog.Proofs.DataGrammar
import DataCatalog.Proofs.FileReplacement
import DataCatalog.Proofs.AskedArguments
import DataCatalog.Proofs.Fallbacks
import DataCatalog.Proofs.Footprint
import DataCatalog.Proofs.Isolation
import DataCatalog.Proofs.CommandEffects
import DataCatalog.Proofs.FilePaths
import DataCatalog.Proofs.Placeholders
import DataCatalog.Proofs.PathExpressions
import DataCatalog.Proofs.StrictTemplates
import DataCatalog.Proofs.WrittenForm
import DataCatalog.Proofs.RoundTrip
import DataCatalog.Proofs.Tags
import DataCatalog.Proofs.FileViews
import DataCatalog.Proofs.ReadBack
import DataCatalog.Proofs.WholeWrites
import DataCatalog.Proofs.Extraction
import DataCatalog.Proofs.ReferenceForm
import DataCatalog.Proofs.Resolution
import DataCatalog.Proofs.Judgements
import DataCatalog.Proofs.ParserSteps
import DataCatalog.Proofs.Relocation
import DataCatalog.Proofs.RecipeFree
import DataCatalog.Proofs.EntryPoints
import DataCatalog.Proofs.EntryOrder
import DataCatalog.Proofs.DocumentSlots
import DataCatalog.Proofs.MalformedPosition
import DataCatalog.Proofs.DottedPaths
import DataCatalog.Proofs.DisplayedPositions
import DataCatalog.Proofs.Conversion
