import ChainScript.Ledger.Catalog
import ChainScript.Pattern.Inspect
import ChainScript.Contract.Description
import ChainScript.Chain.Gas
import ChainScript.Chain.OptionsText
import ChainScript.Proofs.AbiRoundTrip
import ChainScript.Proofs.AbiSoundness
import ChainScript.Proofs.AbiExtension
import ChainScript.Proofs.AbiLayout
import ChainScript.Proofs.BindingFaults
import ChainScript.Proofs.RunnerPaths
import ChainScript.Proofs.RunnerRequests
import ChainScript.Proofs.RunnerGas
import ChainScript.Proofs.ScriptedReplies
import ChainScript.Proofs.Numerals
import ChainScript.Proofs.Trimming
import ChainScript.Proofs.TypeCuts
import ChainScript.Proofs.TypeMembers
import ChainScript.Proofs.TypeGrammar
import ChainScript.Proofs.TypeSpelling
import ChainScript.Proofs.SessionFailures
import ChainScript.Proofs.FailureEntries
import ChainScript.Proofs.RunnerOutcomes
import ChainScript.Proofs.EventSpelling
import ChainScript.Proofs.CallerInfluence
import ChainScript.Proofs.CallRoundTrip
import ChainScript.Proofs.DescriptionItems
import ChainScript.Proofs.AbiMisfits
import ChainScript.Proofs.RevertNotes
import ChainScript.Proofs.DescribedTypes
import ChainScript.Proofs.FailureReports
import ChainScript.Proofs.Signatures
import ChainScript.Proofs.TwosComplement
import ChainScript.Proofs.PatternExtension
import ChainScript.Proofs.MappedBindings
import ChainScript.Proofs.NumberTokens
import ChainScript.Proofs.AddressLiterals
import ChainScript.Proofs.NameMatching
import ChainScript.Proofs.RecordQueues
import ChainScript.Proofs.DocCleaning
import ChainScript.Proofs.AbiSlots
import ChainScript.Proofs.TomlLines
import ChainScript.Proofs.TomlNumbers
import ChainScript.Proofs.OptionsDocument
