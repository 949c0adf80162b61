import MemberMapping.CommandLine.Folder
import MemberMapping.Context.ObjectGraph
import MemberMapping.Main
import MemberMapping.Proofs.Imports
import MemberMapping.Proofs.Resolution
import MemberMapping.Proofs.StatelessAssembly
import MemberMapping.Proofs.Updates
import MemberMapping.Proofs.PrintedExpressions
import MemberMapping.Proofs.PrintedFunctions
import MemberMapping.Proofs.UpdateAgreement
import MemberMapping.Proofs.BuiltSchema
import MemberMapping.Proofs.BaseChain
import MemberMapping.Proofs.TypeGraph
import MemberMapping.Proofs.Declarations
import MemberMapping.Proofs.Inventory
import MemberMapping.Proofs.DeclarationOrder
import MemberMapping.Proofs.SourceAccess
import MemberMapping.Proofs.ModuleWalk
import MemberMapping.Proofs.SourceOrder
import MemberMapping.Proofs.RootedPaths
import MemberMapping.Proofs.Placement
import MemberMapping.Proofs.Failures
import MemberMapping.Proofs.ResolverCalls
import MemberMapping.Proofs.Independence
import MemberMapping.Proofs.Calls
import MemberMapping.Proofs.Memoization
import MemberMapping.Proofs.ReferredNamespaces
import MemberMapping.Proofs.Reexpansion
import MemberMapping.Proofs.OptionIndependence
import MemberMapping.Proofs.RawNames
import MemberMapping.Proofs.FieldReading
import MemberMapping.Proofs.TypeItems
import MemberMapping.Proofs.RepeatedNames
import MemberMapping.Proofs.ReportedFaults
import MemberMapping.Proofs.FieldInitialisation
import MemberMapping.Proofs.NameCharacters
import MemberMapping.Proofs.WrittenNames
import MemberMapping.Proofs.PrintableCode
import MemberMapping.Proofs.InheritedParts
import MemberMapping.Proofs.DirectValues
import MemberMapping.Proofs.WrittenConstructors
import MemberMapping.Proofs.RecordConstruction
import MemberMapping.Proofs.ParameterNames
import MemberMapping.Proofs.PathTexts
import MemberMapping.Proofs.DefinitionNames
import MemberMapping.Proofs.WrittenPrefixes
import MemberMapping.Proofs.MappedAncestors
import MemberMapping.Proofs.CollectionElements
import MemberMapping.Proofs.MappedSources
import MemberMapping.Proofs.ImportOrder
import MemberMapping.Proofs.ImportRequests
import MemberMapping.Proofs.ConversionOrder
import MemberMapping.Proofs.RevisedDeclarations
import MemberMapping.Proofs.ConstructorOrder
import MemberMapping.Proofs.ContainerSpellings
import MemberMapping.Proofs.AlikeOutcomes
import MemberMapping.Proofs.SpelledOutcomes
import MemberMapping.Proofs.UniformSpellings
import MemberMapping.Proofs.InterchangeableSpellings
import MemberMapping.Proofs.OptionPrecedence
import MemberMapping.Proofs.CyclicInheritance
import MemberMapping.Proofs.ExtensionTraits
import MemberMapping.Proofs.IntegerParameters
import MemberMapping.Proofs.RemovedAttributes
