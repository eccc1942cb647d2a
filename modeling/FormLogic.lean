import FormLogic.Command.Run
import FormLogic.Operator.Access
import FormLogic.Wire.Request
import FormLogic.Main
import FormLogic.Proofs.Calls
import FormLogic.Proofs.Causes
import FormLogic.Proofs.Requests
import FormLogic.Proofs.StaticCheck
import FormLogic.Proofs.Documents
import FormLogic.Proofs.KindSoundness
import FormLogic.Proofs.Places
import FormLogic.Proofs.Provenance
import FormLogic.Proofs.PostOrder
import FormLogic.Proofs.Traces
import FormLogic.Proofs.Recovery
import FormLogic.Proofs.Correspondence
import FormLogic.Proofs.Substitution
import FormLogic.Proofs.Composition
import FormLogic.Proofs.DepthLimit
import FormLogic.Proofs.FirstFailure
import FormLogic.Proofs.Instrumentation
import FormLogic.Proofs.Locality
import FormLogic.Proofs.StandardOperators
import FormLogic.Proofs.Dependence
import FormLogic.Proofs.HiddenData
import FormLogic.Proofs.StandardFailures
import FormLogic.Proofs.ReturnTypes
import FormLogic.Proofs.HostDocuments
import FormLogic.Proofs.CommandLines
import FormLogic.Proofs.Checks
import FormLogic.Proofs.Issues
import FormLogic.Proofs.Words
import FormLogic.Proofs.StandardCalls
import FormLogic.Proofs.TextOperators
import FormLogic.Proofs.IntegerOrder
import FormLogic.Proofs.CastProjections
import FormLogic.Proofs.IntegerFormats
import FormLogic.Proofs.StandardSignatures
import FormLogic.Proofs.DataPaths
import FormLogic.Proofs.ExactTexts
import FormLogic.Proofs.Occurrences
import FormLogic.Proofs.Replacements
import FormLogic.Proofs.ShownValues
import FormLogic.Proofs.ExactArithmetic
import FormLogic.Proofs.Histories
