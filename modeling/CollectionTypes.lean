import CollectionTypes.Main
import CollectionTypes.Proofs.DanglingRelations
import CollectionTypes.Proofs.Dependence
import CollectionTypes.Proofs.DocumentOutcomes
import CollectionTypes.Proofs.DocumentVariants
import CollectionTypes.Proofs.ExpandedRelations
import CollectionTypes.Proofs.ExportLines
import CollectionTypes.Proofs.FieldEdits
import CollectionTypes.Proofs.InputOrder
import CollectionTypes.Proofs.LimitLiterals
import CollectionTypes.Proofs.Listings
import CollectionTypes.Proofs.MissingTargets
import CollectionTypes.Proofs.OptionEnums
import CollectionTypes.Proofs.ParameterCapture
import CollectionTypes.Proofs.ParameterLists
import CollectionTypes.Proofs.ParameterNames
import CollectionTypes.Proofs.PascalWords
import CollectionTypes.Proofs.PlainNames
import CollectionTypes.Proofs.RecordBodies
import CollectionTypes.Proofs.RunEffects
import CollectionTypes.Proofs.SelfDelimiting
import CollectionTypes.Proofs.WireFormat
