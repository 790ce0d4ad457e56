import ArrowMachine.Main
import ArrowMachine.Run.Machine
import ArrowMachine.Table.Document
import ArrowMachine.Proofs.Run.Pruning
import ArrowMachine.Proofs.Run.Termination
import ArrowMachine.Proofs.Run.Replay
import ArrowMachine.Proofs.Table.Ambiguity
import ArrowMachine.Proofs.Table.Reordering
import ArrowMachine.Proofs.Table.Chaining
import ArrowMachine.Proofs.Rule.Grammar
import ArrowMachine.Proofs.Rule.Arrow
import ArrowMachine.Proofs.Rule.Recognition
import ArrowMachine.Proofs.Rule.Channels
import ArrowMachine.Proofs.Rule.Meaning
import ArrowMachine.Proofs.Table.Form
import ArrowMachine.Proofs.Run.Calls
import ArrowMachine.Proofs.Run.Driving
import ArrowMachine.Proofs.Run.Places
import ArrowMachine.Proofs.Script.Recovery
import ArrowMachine.Proofs.Run.Limits
import ArrowMachine.Proofs.Script.Structure
import ArrowMachine.Proofs.Run.Widening
import ArrowMachine.Proofs.Command.Agreement
import ArrowMachine.Proofs.Run.Feeding
import ArrowMachine.Proofs.Run.Effect
import ArrowMachine.Proofs.Table.Identity
import ArrowMachine.Proofs.Rule.Directing
import ArrowMachine.Proofs.Run.Dispatching
import ArrowMachine.Proofs.Text.Lines
import ArrowMachine.Proofs.Rule.Placing
import ArrowMachine.Proofs.Rule.Blaming
import ArrowMachine.Proofs.Text.Quoting
import ArrowMachine.Proofs.Table.Overtaxing
import ArrowMachine.Proofs.Command.Answering
import ArrowMachine.Proofs.Command.Naming
import ArrowMachine.Proofs.Rule.Expanding
import ArrowMachine.Proofs.Rule.Combining
import ArrowMachine.Proofs.Run.Subscribing
import ArrowMachine.Proofs.Command.Declaring
import ArrowMachine.Proofs.Rule.Pointing
import ArrowMachine.Proofs.Table.Listing
import ArrowMachine.Proofs.Run.Lineage
import ArrowMachine.Proofs.Text.Indenting
import ArrowMachine.Proofs.Text.Aligning
import ArrowMachine.Proofs.Pattern.Sufficing
