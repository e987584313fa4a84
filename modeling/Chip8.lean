import Chip8.Arguments
import Chip8.Arithmetic
import Chip8.Binary
import Chip8.Bitmap
import Chip8.Bits
import Chip8.CallStack
import Chip8.ColourScheme
import Chip8.Command
import Chip8.Config
import Chip8.Count
import Chip8.Cycle
import Chip8.DecodeTable
import Chip8.Disassembly
import Chip8.Error
import Chip8.Event
import Chip8.Execute
import Chip8.Folder
import Chip8.Headless
import Chip8.Host
import Chip8.Instruction
import Chip8.Keypad
import Chip8.Log
import Chip8.Loop
import Chip8.Main
import Chip8.Memory
import Chip8.NestedArray
import Chip8.Operation
import Chip8.Picture
import Chip8.PictureFile
import Chip8.Program
import Chip8.Progress
import Chip8.Proofs.Assembly
import Chip8.Proofs.AwaitedKey
import Chip8.Proofs.BlockTransfer
import Chip8.Proofs.CallStack
import Chip8.Proofs.Chronicle
import Chip8.Proofs.Commuting
import Chip8.Proofs.Conservation
import Chip8.Proofs.DecimalDigits
import Chip8.Proofs.Decoding
import Chip8.Proofs.Diagnosis
import Chip8.Proofs.Drawing
import Chip8.Proofs.Driving
import Chip8.Proofs.Effect
import Chip8.Proofs.Exchange
import Chip8.Proofs.Faultless
import Chip8.Proofs.FlagArithmetic
import Chip8.Proofs.Footprint
import Chip8.Proofs.Framebuffer
import Chip8.Proofs.Frames
import Chip8.Proofs.HaltedHost
import Chip8.Proofs.Halting
import Chip8.Proofs.HeadlessRun
import Chip8.Proofs.HostEvents
import Chip8.Proofs.HostOutcome
import Chip8.Proofs.KeyHistory
import Chip8.Proofs.Ledger
import Chip8.Proofs.Loading
import Chip8.Proofs.Lockstep
import Chip8.Proofs.MachineErrors
import Chip8.Proofs.Magnification
import Chip8.Proofs.Metering
import Chip8.Proofs.ModeIsolation
import Chip8.Proofs.Moderation
import Chip8.Proofs.Observation
import Chip8.Proofs.OrdinaryErrors
import Chip8.Proofs.PacedCycles
import Chip8.Proofs.PixelTable
import Chip8.Proofs.ProgramCounter
import Chip8.Proofs.ProgressBar
import Chip8.Proofs.RandomStream
import Chip8.Proofs.Reachable
import Chip8.Proofs.Refusals
import Chip8.Proofs.RememberedProgram
import Chip8.Proofs.SavedPicture
import Chip8.Proofs.SeedIsolation
import Chip8.Proofs.SpeedReports
import Chip8.Proofs.Subroutine
import Chip8.Proofs.Timers
import Chip8.Proofs.WellFormed
import Chip8.Proofs.WordForm
import Chip8.Random
import Chip8.RateMeter
import Chip8.Report
import Chip8.Rounding
import Chip8.Seconds
import Chip8.Settings
import Chip8.Sprite
import Chip8.State
import Chip8.Text.BinarySize
import Chip8.Text.CaseTable
import Chip8.Text.CodeRange
import Chip8.Text.Decimal
import Chip8.Text.Digit
import Chip8.Text.LetterCase
import Chip8.Text.Number
import Chip8.Text.Placeholder
import Chip8.Text.Quoted
import Chip8.Text.Shortest
import Chip8.Text.Unprinted
import Chip8.Value
import Chip8.Value.Call
import Chip8.Value.Decimal
import Chip8.Value.Flaw
import Chip8.Value.Function
import Chip8.Value.LookUp
import Chip8.Value.Numeral
import Chip8.Value.Outline
import Chip8.Value.Reference
import Chip8.Value.Template
import Chip8.Value.Token
