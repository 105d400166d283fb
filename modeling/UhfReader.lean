import UhfReader.Lib.Memory
import UhfReader.Lib.Splice
import UhfReader.Lib.Framing
import UhfReader.Lib.Run
import UhfReader.Lib.Slots
import UhfReader.Lib.Keyed
import UhfReader.Lib.Pages
import UhfReader.Lib.Stateful
import UhfReader.Lib.Reading
import UhfReader.Lib.Interrupts
import UhfReader.Device
import UhfReader.State
import UhfReader.Flash
import UhfReader.Radio
import UhfReader.Radio.Masks
import UhfReader.Radio.Selections
import UhfReader.Radio.Encode
import UhfReader.Radio.Link
import UhfReader.Clock
import UhfReader.Handlers
import UhfReader.Handlers.Tags
import UhfReader.Handlers.Frames
import UhfReader.Handlers.Reads
import UhfReader.Handlers.Lengths
import UhfReader.ParamTable
import UhfReader.Boot
import UhfReader.Command
import UhfReader.Validation
import UhfReader.Reply
import UhfReader.Requests
import UhfReader.TagReplies
import UhfReader.Crash
import UhfReader.Wait
import UhfReader.Radio.Transmit
import UhfReader.Radio.Frequency
import UhfReader.Radio.Parameters
import UhfReader.Radio.Reception
import UhfReader.Serial
import UhfReader.Receivers
import UhfReader.Serving
import UhfReader.Resync
import UhfReader.Collect
import UhfReader.Judge
import UhfReader.Atomicity
import UhfReader.Origins
import UhfReader.LongReplies
import UhfReader.Agreement
import UhfReader.Datagrams
import UhfReader.Paging
import UhfReader.Active
import UhfReader.TagTable
import UhfReader.ActiveCode
import UhfReader.Storage
import UhfReader.BlockWrites
import UhfReader.Windows
import UhfReader.Effects
import UhfReader.Unsaved
import UhfReader.Stores
import UhfReader.Held
import UhfReader.Saving
import UhfReader.ReadBack
import UhfReader.TagRuns
import UhfReader.Ranges
import UhfReader.SavedTags
import UhfReader.Labels
import UhfReader.Leftovers
import UhfReader.Trailing
import UhfReader.Overreads
import UhfReader.Regions
import UhfReader.Filters
import UhfReader.Snapshots
import UhfReader.SavedRows
import UhfReader.LabelPages
import UhfReader.FrameRows
import UhfReader.Expiry
import UhfReader.Output
import UhfReader.Sending
import UhfReader.Phantoms
import UhfReader.LengthChecks
import UhfReader.Access
import UhfReader.WordWrites
import UhfReader.MatchState
import UhfReader.RssiPages
import UhfReader.Registrations
import UhfReader.Lib.Bits
import UhfReader.Lib.Lines
import UhfReader.Lib.Pieces
import UhfReader.Lib.ThreeWire
import UhfReader.Timers
import UhfReader.Wiegand
import UhfReader.Records
import UhfReader.TextRecords
import UhfReader.CardNumbers
import UhfReader.ClockChip
import UhfReader.Lib.Simulation
import UhfReader.Lib.Rounds
import UhfReader.Lib.Ring
import UhfReader.Lib.Tiling
import UhfReader.Sessions
import UhfReader.Bus
import UhfReader.Polling
import UhfReader.Ethernet
import UhfReader.Ethernet.Reception
import UhfReader.Ethernet.Transmission
import UhfReader.Heap
import UhfReader.Heap.Layout
import UhfReader.Heap.Operations
import UhfReader.Heap.Clients
import UhfReader.Announcements
import UhfReader.Relays
