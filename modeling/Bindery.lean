import Bindery.Main
import Bindery.Proofs.GuardTrees
import Bindery.Proofs.Idempotence
import Bindery.Proofs.QuotedNames
import Bindery.Proofs.RecoveredRegistrations
import Bindery.Proofs.RegistryRuns
import Bindery.Proofs.ExactVerification
import Bindery.Proofs.Scopes
import Bindery.Proofs.WrittenNames
import Bindery.Proofs.Stripping
import Bindery.Proofs.OutputDirectories
import Bindery.Proofs.Faults
import Bindery.Proofs.LoneFiles
import Bindery.Proofs.ExitCodes
import Bindery.Proofs.ReloadedManifests
import Bindery.Proofs.Reordering
import Bindery.Proofs.Consumption
import Bindery.Proofs.SourceFiles
import Bindery.Proofs.NestedRules
import Bindery.Proofs.OutputPlaces
import Bindery.Proofs.SettingsFiles
import Bindery.Proofs.BracketedTexts
import Bindery.Proofs.CheckedArguments
import Bindery.Proofs.ArgumentPlaces
import Bindery.Proofs.EnumBases
import Bindery.Proofs.FirstFaults
import Bindery.Proofs.ToldLines
import Bindery.Proofs.Conditions
