import MemberThunks.Text.CharacterRuns
import MemberThunks.Text.Character
import MemberThunks.Text.Identifier
import MemberThunks.Text.Quoted
import MemberThunks.Annotation.Token
import MemberThunks.World.ClassRef
import MemberThunks.World.Value
import MemberThunks.Annotation.Term
import MemberThunks.World.Magnitude
import MemberThunks.TypeForm.Equality
import MemberThunks.Failure
import MemberThunks.TypeForm.Fault
import MemberThunks.Entries
import MemberThunks.World.Routine
import MemberThunks.World.Namespace
import MemberThunks.World.BuiltinEntries
import MemberThunks.World.Basic
import MemberThunks.World.Display
import MemberThunks.TypeForm.Argument
import MemberThunks.TypeForm.Comparison
import MemberThunks.TypeForm.Union
import MemberThunks.TypeForm.Vocabulary
import MemberThunks.World.Binding
import MemberThunks.World.Raised
import MemberThunks.World.SetOrder
import MemberThunks.World.Store
import MemberThunks.World.Reserved
import MemberThunks.World.Access
import MemberThunks.World.Item
import MemberThunks.World.Operator
import MemberThunks.Annotation.Evaluation
import MemberThunks.World.Linearization
import MemberThunks.World.Declaration
import MemberThunks.Member.Basic
import MemberThunks.World.Call
import MemberThunks.World.Known
import MemberThunks.Member.Hints
import MemberThunks.Member.Signature
import MemberThunks.Member.Describe
import MemberThunks.Expression.Basic
import MemberThunks.World.Instance
import MemberThunks.Conversion.Basic
import MemberThunks.Conversion.OfForm
import MemberThunks.Conversion.Settling
import MemberThunks.Thunk.Constant
import MemberThunks.Expression.Builder
import MemberThunks.Thunk.Located
import MemberThunks.Expression.Lambda
import MemberThunks.Thunk.BuildFault
import MemberThunks.Expression.Reading
import MemberThunks.Listing.Basic
import MemberThunks.Listing.Instruction
import MemberThunks.Listing.Lowering
import MemberThunks.Listing.Writing
import MemberThunks.Options
import MemberThunks.Text.Composition
import MemberThunks.Text.NormalForm
import MemberThunks.Listing.Run
import MemberThunks.Thunk.Basic
import MemberThunks.Thunk.Loading
import MemberThunks.Registry
import MemberThunks.Strategy
import MemberThunks.CommandLine
import MemberThunks.TypeForm.Pool
import MemberThunks.World.Digits
import MemberThunks.World.Arithmetic
import MemberThunks.World.Telling
import MemberThunks.World.Likeness
import MemberThunks.World.Enumeration
import MemberThunks.World.Documentation
import MemberThunks.World.FormEntries
import MemberThunks.World.Forming
import MemberThunks.World.Construction
import MemberThunks.World.Instantiation
import MemberThunks.World.Layout
import MemberThunks.World.ConstructionFault
import MemberThunks.TypeForm.Parts
import MemberThunks.Annotation.Escape
import MemberThunks.Annotation.Operation
import MemberThunks.Annotation.Routine
import MemberThunks.Text.Compatibility
import MemberThunks.Text.Numeral
import MemberThunks.Main
import MemberThunks.Proofs.Effects
import MemberThunks.Proofs.ConstantNames
import MemberThunks.Proofs.ExactBinding
import MemberThunks.Proofs.LoweringRefinement
import MemberThunks.Proofs.Settling
import MemberThunks.Proofs.MethodBuild
import MemberThunks.Proofs.MethodDispatch
import MemberThunks.Proofs.CheckedWrites
import MemberThunks.Proofs.Admission
import MemberThunks.Proofs.FieldThunks
import MemberThunks.Proofs.Interchange
import MemberThunks.Proofs.LiveSources
import MemberThunks.Proofs.PropertyReads
import MemberThunks.Proofs.CheckedCalls
import MemberThunks.Proofs.VirtualWrites
import MemberThunks.Proofs.WellFormedPrograms
import MemberThunks.Proofs.DirectFields
import MemberThunks.Proofs.MemberFailures
import MemberThunks.Proofs.UnionOrder
import MemberThunks.Proofs.RefusalKinds
import MemberThunks.Proofs.RepeatedMembers
import MemberThunks.Proofs.BareClasses
import MemberThunks.Proofs.SquashedNames
import MemberThunks.Proofs.WriteBuilds
import MemberThunks.Proofs.ProgramNames
import MemberThunks.Proofs.ResolutionOrder
import MemberThunks.Proofs.MemberKinds
import MemberThunks.Proofs.CanonicalMembers
import MemberThunks.Proofs.SilentClasses
import MemberThunks.Proofs.DescribingFaults
import MemberThunks.Proofs.SlotDiscipline
import MemberThunks.Proofs.TargetNames
import MemberThunks.Proofs.CommandArguments
import MemberThunks.Proofs.CommandEnds
import MemberThunks.Proofs.PropertyTypes
import MemberThunks.Proofs.QuotedNames
import MemberThunks.Proofs.FreshConstants
