import RefLint.Command.Run
import RefLint.Main
import RefLint.Schema.Validation
import RefLint.Proofs.CyclePolicies
import RefLint.Proofs.DefinitionPrefix
import RefLint.Proofs.DeletedMembers
import RefLint.Proofs.DereferencePruning
import RefLint.Proofs.LazyLookup
import RefLint.Proofs.LintVerdict
import RefLint.Proofs.PlainResolution
import RefLint.Proofs.PointerCycles
import RefLint.Proofs.ResidualReferences
import RefLint.Proofs.ResolverState
import RefLint.Proofs.NamedMembers
import RefLint.Proofs.NeededDefinitions
import RefLint.Proofs.DistinctKeys
import RefLint.Proofs.RulesetDecoding
import RefLint.Proofs.RulesetForm
import RefLint.Proofs.SchemaKeywords
import RefLint.Proofs.SharedRoot
import RefLint.Proofs.RemovedReferences
import RefLint.Proofs.RepeatedDereference
import RefLint.Proofs.RepeatedResolution
import RefLint.Proofs.PrunedSubtree
import RefLint.Proofs.ReadDocuments
import RefLint.Proofs.ReferenceDiagnostics
import RefLint.Proofs.ReferencePlaces
import RefLint.Proofs.CheckAccounting
import RefLint.Proofs.DocumentFiles
import RefLint.Proofs.FilePaths
import RefLint.Proofs.RuleUpdates
import RefLint.Proofs.RulesetListing
import RefLint.Proofs.WrittenRules
import RefLint.Proofs.NestedTargets
import RefLint.Proofs.PlacePointers
import RefLint.Proofs.JsonApiContent
import RefLint.Proofs.WrittenEndings
import RefLint.Proofs.PrintedDocuments
import RefLint.Proofs.YamlFiles
