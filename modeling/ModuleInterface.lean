import ModuleInterface.Codec.Direct
import ModuleInterface.Value.Description
import ModuleInterface.Value.Embedded
import ModuleInterface.Workspace.Step
import ModuleInterface.Proofs.Fallible
import ModuleInterface.Proofs.Bytes.Field
import ModuleInterface.Proofs.Container.Acceptance
import ModuleInterface.Proofs.Codec.Total
import ModuleInterface.Proofs.Container.Bounds
import ModuleInterface.Proofs.Codec.Words
import ModuleInterface.Proofs.Codec.Typed
import ModuleInterface.Proofs.Codec.RoundTrip
import ModuleInterface.Proofs.Text.Utf8
import ModuleInterface.Proofs.Builder.Run
import ModuleInterface.Proofs.Builder.Image
import ModuleInterface.Proofs.Builder.Written
import ModuleInterface.Proofs.Builder.RoundTrip
import ModuleInterface.Proofs.Container.Memory
import ModuleInterface.Proofs.Container.Answers
import ModuleInterface.Proofs.Workspace.Agreement
import ModuleInterface.Proofs.Workspace.Steps
import ModuleInterface.Proofs.Workspace.Naming
import ModuleInterface.Proofs.Workspace.History
import ModuleInterface.Proofs.Container.Alteration
import ModuleInterface.Proofs.Container.Attributes
import ModuleInterface.Proofs.Workspace.Queries
import ModuleInterface.Proofs.Codec.Normal
import ModuleInterface.Proofs.Builder.Texts
import ModuleInterface.Proofs.Builder.Loading
import ModuleInterface.Proofs.Registry
import ModuleInterface.Proofs.Workspace.Registrations
import ModuleInterface.Proofs.Container.Effects
import ModuleInterface.Proofs.Container.Lasting
import ModuleInterface.Proofs.Workspace.Effects
import ModuleInterface.Proofs.Workspace.Located
import ModuleInterface.Proofs.Container.Release
import ModuleInterface.Proofs.Container.Byteless
import ModuleInterface.Proofs.Workspace.Release
import ModuleInterface.Proofs.Workspace.Byteless
import ModuleInterface.Proofs.Workspace.Closing
import ModuleInterface.Proofs.Bytes.Search
import ModuleInterface.Proofs.Container.Duplicates
import ModuleInterface.Proofs.Container.Slices
import ModuleInterface.Proofs.Workspace.Refusals
import ModuleInterface.Proofs.Codec.Fieldwise
import ModuleInterface.Proofs.Container.Backings
import ModuleInterface.Proofs.Container.Strings
import ModuleInterface.Proofs.Container.Keys
import ModuleInterface.Proofs.Container.SingleTraits
import ModuleInterface.Proofs.Index.Encoding
import ModuleInterface.Proofs.Container.Interchange
import ModuleInterface.Proofs.Workspace.Interchange
import ModuleInterface.Proofs.Container.Navigation
import ModuleInterface.Proofs.Container.Scopes
import ModuleInterface.Proofs.Container.EmptyRanges
import ModuleInterface.Proofs.Workspace.Navigation
import ModuleInterface.Proofs.Container.Modules
import ModuleInterface.Proofs.Workspace.Leaves
import ModuleInterface.Proofs.Workspace.Modules
import ModuleInterface.Proofs.Container.Resealing
import ModuleInterface.Proofs.Container.Overlooking
import ModuleInterface.Proofs.Workspace.Views
import ModuleInterface.Proofs.Workspace.Resealing
import ModuleInterface.Proofs.Builder.Checksum
import ModuleInterface.Proofs.Builder.Sizes
