import TextGrammar.Fault.Class
import TextGrammar.Grammar.Command
import TextGrammar.Grammar.Plan
import TextGrammar.Outcome
import TextGrammar.Sample.Brackets
import TextGrammar.Sample.Csv
import TextGrammar.Sample.Json
import TextGrammar.Sample.Total
import TextGrammar.Proofs.Agreement
import TextGrammar.Proofs.SingleRun
import TextGrammar.Proofs.Alignment
import TextGrammar.Proofs.TraceGrowth
import TextGrammar.Proofs.AlignedRuns
import TextGrammar.Proofs.AlignedDefinitions
import TextGrammar.Proofs.AlignedSteps
import TextGrammar.Proofs.LibraryLeaves
import TextGrammar.Proofs.Units
import TextGrammar.Proofs.Assembly
import TextGrammar.Proofs.Conduct
import TextGrammar.Proofs.Offsets
import TextGrammar.Proofs.Histories
import TextGrammar.Proofs.TextSuffix
import TextGrammar.Proofs.Locality
import TextGrammar.Proofs.Fuel
import TextGrammar.Proofs.Nesting
import TextGrammar.Proofs.Readings
import TextGrammar.Proofs.Forms
import TextGrammar.Proofs.ValueForms
import TextGrammar.Proofs.RepeatedForms
import TextGrammar.Proofs.LeafForms
import TextGrammar.Proofs.Answers
import TextGrammar.Proofs.JsonRenderings
import TextGrammar.Proofs.Numerals
import TextGrammar.Proofs.JsonStrings
import TextGrammar.Proofs.Recognition
import TextGrammar.Proofs.JsonNumbers
import TextGrammar.Proofs.Integers
import TextGrammar.Proofs.JsonLists
import TextGrammar.Proofs.JsonValues
import TextGrammar.Proofs.Recursions
import TextGrammar.Proofs.WholeTexts
import TextGrammar.Proofs.JsonDocuments
import TextGrammar.Proofs.CsvTables
import TextGrammar.Proofs.IntegerSums
import TextGrammar.Proofs.Blueprints
import TextGrammar.Proofs.Casting
import TextGrammar.Proofs.Ownership
import TextGrammar.Proofs.Staging
import TextGrammar.Proofs.DraftedOperations
import TextGrammar.Proofs.DraftedEvaluation
import TextGrammar.Proofs.StagedResolution
import TextGrammar.Proofs.StagedRuns
import TextGrammar.Proofs.Determination
import TextGrammar.Proofs.CellChanges
import TextGrammar.Proofs.Resolution
import TextGrammar.Proofs.Confinement
import TextGrammar.Proofs.Lifetimes
import TextGrammar.Proofs.Guises
import TextGrammar.Proofs.GuisedEvaluation
import TextGrammar.Proofs.GuisedRuns
import TextGrammar.Proofs.Observation
import TextGrammar.Proofs.HistoryIndependence
import TextGrammar.Proofs.Limits
import TextGrammar.Proofs.Foretelling
import TextGrammar.Proofs.PatternExtents
import TextGrammar.Proofs.BracketTexts
import TextGrammar.Proofs.Comparison
import TextGrammar.Proofs.Erasure
import TextGrammar.Proofs.Likeness
import TextGrammar.Proofs.ErasedRuns
import TextGrammar.Proofs.Unrolling
import TextGrammar.Proofs.AlikeDrafts
import TextGrammar.Proofs.KeptGrammars
import TextGrammar.Proofs.UnrolledRuns
import TextGrammar.Proofs.GuardedDrafts
import TextGrammar.Proofs.WiderLimits
import TextGrammar.Proofs.GuardedRecursion
import TextGrammar.Proofs.Encodings
import TextGrammar.Proofs.RuleLimits
import TextGrammar.Proofs.MirroredRuns
import TextGrammar.Proofs.Repetitions
import TextGrammar.Proofs.SeparatedItems
import TextGrammar.Proofs.RepetitionLaws
import TextGrammar.Proofs.LeafVersions
import TextGrammar.Proofs.CountedRuns
import TextGrammar.Proofs.CapturedTexts
import TextGrammar.Proofs.Refactorings
import TextGrammar.Proofs.LeftFactoring
import TextGrammar.Proofs.LimitedRuns
import TextGrammar.Proofs.WrittenIntegers
import TextGrammar.Proofs.LongestReadings
import TextGrammar.Proofs.LongestNumbers
import TextGrammar.Proofs.CharacterRuns
import TextGrammar.Proofs.Heeding
import TextGrammar.Proofs.Ways
import TextGrammar.Proofs.EntryPoints
