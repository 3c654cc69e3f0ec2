import RegisterMachine.Main
import RegisterMachine.Template
import RegisterMachine.Proofs.Machine.Replay
import RegisterMachine.Proofs.Remote.Traffic
import RegisterMachine.Proofs.Wire.RoundTrip
import RegisterMachine.Proofs.Machine.Action
import RegisterMachine.Proofs.Text.Lines
import RegisterMachine.Proofs.Wire.Canonical
import RegisterMachine.Proofs.Machine.Account
import RegisterMachine.Proofs.Machine.Isolation
import RegisterMachine.Proofs.Machine.Stack
import RegisterMachine.Proofs.Machine.Recall
import RegisterMachine.Proofs.Remote.Stream
import RegisterMachine.Proofs.Machine.Reuse
import RegisterMachine.Proofs.Command.Agreement
import RegisterMachine.Proofs.Machine.Composition
import RegisterMachine.Proofs.Text.LetterCase
import RegisterMachine.Proofs.Machine.Layout
import RegisterMachine.Proofs.Text.Numerals
import RegisterMachine.Proofs.Machine.Operands
import RegisterMachine.Proofs.Machine.Decoding
import RegisterMachine.Proofs.Wire.Truncation
import RegisterMachine.Proofs.Text.Printing
import RegisterMachine.Proofs.Machine.Writing
import RegisterMachine.Proofs.Machine.Wording
import RegisterMachine.Proofs.Machine.Listing
import RegisterMachine.Proofs.Text.Solid
import RegisterMachine.Proofs.Wire.FrameRow
import RegisterMachine.Proofs.Machine.Views
import RegisterMachine.Proofs.Machine.Footprint
import RegisterMachine.Proofs.Machine.StackPointer
import RegisterMachine.Proofs.Machine.Growth
import RegisterMachine.Proofs.Journal.Calendar
import RegisterMachine.Proofs.Command.Flags
import RegisterMachine.Proofs.Text.Templates
