import Prompter.Naming
import Prompter.TextTool
import Prompter.Proofs.Choices
import Prompter.Proofs.Construction
import Prompter.Proofs.Reading
import Prompter.Workspace.Execution
import Prompter.Proofs.Scheme.WellFormed
import Prompter.Proofs.Prompt.Items
import Prompter.Proofs.Prompt.Checks
import Prompter.Proofs.Prompt.FirstFit
import Prompter.Proofs.Interpreter.Enumerations
import Prompter.Proofs.Prompt.Soundness
import Prompter.Proofs.Scheme.Writing
import Prompter.Proofs.Literal.Constants
import Prompter.Proofs.Scheme.Argument
import Prompter.Proofs.Scheme.RoundTrip
import Prompter.Proofs.Literal.Extent
import Prompter.Proofs.Prompt.Meaning
import Prompter.Proofs.Prompt.Spacing
import Prompter.Proofs.Prompt.Reordering
import Prompter.Proofs.Prompt.ByName
import Prompter.Proofs.Scheme.Declarations
import Prompter.Proofs.Interpreter.Registration
import Prompter.Proofs.Interpreter.Membership
import Prompter.Proofs.Shown
import Prompter.Proofs.Bounds
import Prompter.Proofs.Literal.Bounds
import Prompter.Proofs.Scheme.Bounds
import Prompter.Proofs.Literal.Range
import Prompter.Proofs.Prompt.Bounds
import Prompter.Proofs.Operations
import Prompter.Proofs.Progress
import Prompter.Proofs.Prompt.Overflow
import Prompter.Proofs.Interpreter.Failures
import Prompter.Proofs.Literal.ReadBack
import Prompter.Proofs.Literal.Names
import Prompter.Proofs.Prompt.Dependence
import Prompter.Proofs.Workspace.Requests
import Prompter.Proofs.Repository.History
import Prompter.Proofs.Prompt.FirstFault
import Prompter.Proofs.Prompt.About
import Prompter.Proofs.Prompt.Relative
import Prompter.Proofs.Prompt.Keywords
import Prompter.Proofs.Prompt.Arity
import Prompter.Proofs.Fault.Pointer
import Prompter.Proofs.Literal.Strings
import Prompter.Proofs.Scheme.Modifiers
import Prompter.Proofs.Literal.Numbers
import Prompter.Proofs.Fault.Places
import Prompter.Proofs.Normalization
import Prompter.Proofs.Scheme.Defaults
import Prompter.Proofs.Prompt.Defaults
import Prompter.Proofs.Scheme.Heads
import Prompter.Proofs.Interpreter.Interchange
