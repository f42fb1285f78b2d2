import SoapClasses.Main
import SoapClasses.Proofs.ExposedOperations
import SoapClasses.Proofs.FailedSteps
import SoapClasses.Proofs.CompleteOutput
import SoapClasses.Proofs.ArgumentAgreement
import SoapClasses.Proofs.ValidProjects
import SoapClasses.Proofs.CallHistories
import SoapClasses.Proofs.CommentContainment
import SoapClasses.Proofs.DeclaredTypes
import SoapClasses.Proofs.DocumentedTypes
import SoapClasses.Proofs.StepFrames
import SoapClasses.Proofs.ImportedNames
import SoapClasses.Proofs.CheckedResults
import SoapClasses.Proofs.StepOrders
import SoapClasses.Proofs.NameResolution
import SoapClasses.Proofs.RecordRoundTrips
import SoapClasses.Proofs.FactoryReferences
import SoapClasses.Proofs.WrapperReferences
import SoapClasses.Proofs.DeclaredInterfaces
import SoapClasses.Proofs.FieldNullability
import SoapClasses.Proofs.QuotedCalls
import SoapClasses.Proofs.LetterSpellings
import SoapClasses.Proofs.PreservedIdentifiers
import SoapClasses.Proofs.ClassSpellings
import SoapClasses.Proofs.ProjectParts
import SoapClasses.Proofs.FactorySubstitutions
import SoapClasses.Proofs.DistinctProperties
import SoapClasses.Proofs.PipelineComposition
