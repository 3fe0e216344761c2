import PipelineLint.Document.Segments
import PipelineLint.Expression.Lint
import PipelineLint.Main
import PipelineLint.Name.Nearest
import PipelineLint.Proofs.Answers
import PipelineLint.Proofs.Replacements
import PipelineLint.Proofs.Masking
import PipelineLint.Proofs.CallPlaces
import PipelineLint.Proofs.Calls
import PipelineLint.Proofs.Interpolations
import PipelineLint.Proofs.Stretches
import PipelineLint.Proofs.Entries
import PipelineLint.Proofs.Leads
import PipelineLint.Proofs.LineCalls
import PipelineLint.Proofs.DocumentCalls
import PipelineLint.Proofs.KeyRenames
import PipelineLint.Proofs.OutlineKeys
import PipelineLint.Proofs.Rounds
import PipelineLint.Proofs.Feeds
import PipelineLint.Proofs.Convergence
import PipelineLint.Proofs.KeptLines
import PipelineLint.Proofs.ExpressionBodies
import PipelineLint.Proofs.KeyPaths
import PipelineLint.Proofs.FlowFronts
import PipelineLint.Proofs.InlineLines
import PipelineLint.Proofs.EmbeddedTexts
import PipelineLint.Proofs.UnknownTypes
import PipelineLint.Proofs.ComponentKeys
import PipelineLint.Proofs.ReportedTypes
import PipelineLint.Proofs.SureNames
import PipelineLint.Proofs.ValidDocuments
import PipelineLint.Proofs.Advice
import PipelineLint.Proofs.OrdinaryValues
import PipelineLint.Proofs.ServiceFindings
import PipelineLint.Proofs.LineEndings
import PipelineLint.Proofs.Indentation
import PipelineLint.Proofs.Overrides
import PipelineLint.Proofs.Sessions
import PipelineLint.Proofs.FlowTexts
import PipelineLint.Proofs.BlockTexts
import PipelineLint.Proofs.Returns
import PipelineLint.Proofs.NearestNames
import PipelineLint.Proofs.FaultLines
import PipelineLint.Proofs.Resolutions
import PipelineLint.Proofs.ProcessorsKeys
import PipelineLint.Proofs.KeptValidity
import PipelineLint.Proofs.TopLevelKeys
import PipelineLint.Proofs.RequiredFields
import PipelineLint.Proofs.ProblemPlaces
import PipelineLint.Proofs.SectionTypes
import PipelineLint.Proofs.ProcessorOrder
import PipelineLint.Proofs.Notes
import PipelineLint.Proofs.CallRanges
import PipelineLint.Proofs.LintedCalls
import PipelineLint.Proofs.ClosedBodies
import PipelineLint.Proofs.References
import PipelineLint.Proofs.JoinedDocuments
import PipelineLint.Proofs.TableFiles
import PipelineLint.Proofs.Durations
import PipelineLint.Proofs.StableMask
