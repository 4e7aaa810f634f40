import LateBinding.Main
import LateBinding.Proofs.Substitution
import LateBinding.Proofs.WellFormed
import LateBinding.Proofs.Walks
import LateBinding.Proofs.Hierarchy
import LateBinding.Proofs.Assignability
import LateBinding.Proofs.Supertypes
import LateBinding.Proofs.Bindings
import LateBinding.Proofs.Matching
import LateBinding.Proofs.FirstBinding
import LateBinding.Proofs.Completeness
import LateBinding.Proofs.Unification
import LateBinding.Proofs.SameHierarchy
import LateBinding.Proofs.BaseClasses
import LateBinding.Proofs.Enumeration
import LateBinding.Proofs.Specialization
import LateBinding.Proofs.Closing
import LateBinding.Proofs.ClosingOrder
import LateBinding.Proofs.Selection
import LateBinding.Proofs.Retrieval
import LateBinding.Proofs.NullPositions
import LateBinding.Proofs.Identity
import LateBinding.Proofs.Consumption
import LateBinding.Proofs.AddedDeclarations
import LateBinding.Proofs.LaterDeclarations
import LateBinding.Proofs.Acceptance
import LateBinding.Proofs.Inference
import LateBinding.Proofs.Inversion
import LateBinding.Proofs.Checks
import LateBinding.Proofs.Activations
import LateBinding.Proofs.Fields
import LateBinding.Proofs.TypedStore
import LateBinding.Proofs.TypePreservation
import LateBinding.Proofs.OperationPreservation
import LateBinding.Proofs.HeapTyping
import LateBinding.Proofs.Subtyping
import LateBinding.Proofs.Operations
import LateBinding.Proofs.Refusals
import LateBinding.Proofs.HostCalls
import LateBinding.Proofs.Declarations
import LateBinding.Proofs.Atomicity
import LateBinding.Proofs.PassingOn
import LateBinding.Proofs.Propagation
import LateBinding.Proofs.EventFields
import LateBinding.Proofs.Subscriptions
import LateBinding.Proofs.TypeGrammar
import LateBinding.Proofs.TypeReading
import LateBinding.Proofs.TypeNameRoundTrip
import LateBinding.Proofs.Handlers
import LateBinding.Proofs.Overriding
import LateBinding.Proofs.BaseDefinitions
import LateBinding.Proofs.Visibility
import LateBinding.Proofs.Listing
import LateBinding.Proofs.Numerals
import LateBinding.Proofs.LiteralReading
import LateBinding.Proofs.FirstFault
import LateBinding.Proofs.Composition
