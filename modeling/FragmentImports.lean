import FragmentImports.Main
import FragmentImports.Proofs.OrderedMap
import FragmentImports.Proofs.Registry
import FragmentImports.Proofs.SpreadChain
import FragmentImports.Proofs.DirectImports
import FragmentImports.Proofs.LocalFragments
import FragmentImports.Proofs.ScanOutcome
import FragmentImports.Proofs.DocumentOrder
import FragmentImports.Proofs.ScanErrors
import FragmentImports.Proofs.OutputPath
import FragmentImports.Proofs.RelativeModule
import FragmentImports.Proofs.ImportTarget
import FragmentImports.Proofs.ImportSymbols
import FragmentImports.Proofs.OutputNames
import FragmentImports.Proofs.TransitiveImports
import FragmentImports.Proofs.ReachedEntries
import FragmentImports.Proofs.FileTree
import FragmentImports.Proofs.WrittenFiles
import FragmentImports.Proofs.PlannedRuns
import FragmentImports.Proofs.ValidPreambles
import FragmentImports.Proofs.RegistryGrowth
import FragmentImports.Proofs.OwnExports
import FragmentImports.Proofs.FailedRuns
import FragmentImports.Proofs.LoadedRuns
import FragmentImports.Proofs.EndpointAnswers
import FragmentImports.Proofs.RegistryContents
import FragmentImports.Proofs.DiscoveryOrder
import FragmentImports.Proofs.ModuleResolution
import FragmentImports.Proofs.GeneratedPaths
import FragmentImports.Proofs.SharedSymbols
import FragmentImports.Proofs.VariableNames
import FragmentImports.Proofs.PreambleData
import FragmentImports.Proofs.FoundDocuments
import FragmentImports.Proofs.RespeltSettings
import FragmentImports.Proofs.WalkSteps
import FragmentImports.Proofs.WordBoundaries
