import ClockChip.Chip.Image
import ClockChip.Main
import ClockChip.Session.Run
import ClockChip.Store.Memory
import ClockChip.Wire.Memory
import ClockChip.Wire.Recorder
import ClockChip.Proofs.Program
import ClockChip.Proofs.Byte.Levels
import ClockChip.Proofs.Wire.Call
import ClockChip.Proofs.Wire.Fall
import ClockChip.Proofs.Wire.Reading
import ClockChip.Proofs.Chip.Transfer
import ClockChip.Proofs.Chip.Persistence
import ClockChip.Proofs.Wire.Position
import ClockChip.Proofs.Calendar.Range
import ClockChip.Proofs.Clock.Stopwatch
import ClockChip.Proofs.Chip.Tearing
import ClockChip.Proofs.Byte.Decoding
import ClockChip.Proofs.Chip.Restoring
import ClockChip.Proofs.Chip.Loading
import ClockChip.Proofs.Wire.Progress
import ClockChip.Proofs.Chip.Reachable
import ClockChip.Proofs.Wire.Bystander
import ClockChip.Proofs.Chip.Untouched
import ClockChip.Proofs.Register.Keeping
import ClockChip.Proofs.Chip.LinearMemory
import ClockChip.Proofs.Store.SaveFile
import ClockChip.Proofs.Chip.Bookkeeping
import ClockChip.Proofs.Chip.Neighbours
import ClockChip.Proofs.File.Path
import ClockChip.Proofs.File.Tree
import ClockChip.Proofs.Store.Interchange
import ClockChip.Proofs.Session.Poking
import ClockChip.Proofs.Wire.Framing
import ClockChip.Proofs.Register.YearDay
import ClockChip.Proofs.Register.TimeOfDay
import ClockChip.Proofs.Register.Latched
import ClockChip.Proofs.Calendar.Era
import ClockChip.Proofs.Register.WriteBack
import ClockChip.Proofs.Register.YearBits
import ClockChip.Proofs.Session.TimeLine
import ClockChip.Proofs.Calendar.Distance
import ClockChip.Proofs.Clock.Wide
import ClockChip.Proofs.Register.Independence
import ClockChip.Proofs.Chip.Halting
import ClockChip.Proofs.Session.Watching
import ClockChip.Proofs.Session.Picture
import ClockChip.Proofs.Byte.Numeral
