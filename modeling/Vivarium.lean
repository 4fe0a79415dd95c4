import Vivarium.Main
import Vivarium.Species.Printer
import Vivarium.Station.Route
import Vivarium.Station.Socket
import Vivarium.Window.Run
import Vivarium.Index
import Vivarium.Proofs.Board.Occupancy
import Vivarium.Proofs.Board.Turn
import Vivarium.Proofs.Colony.Operation
import Vivarium.Proofs.Colony.Occupancy
import Vivarium.Proofs.Board.Effect
import Vivarium.Proofs.Colony.Turn
import Vivarium.Proofs.Board.Retarget
import Vivarium.Proofs.Colony.Retarget
import Vivarium.Proofs.Board.Jumps
import Vivarium.Proofs.Board.Limit
import Vivarium.Proofs.Board.Outlook
import Vivarium.Proofs.Colony.Census
import Vivarium.Proofs.Colony.Extinction
import Vivarium.Proofs.Colony.Limit
import Vivarium.Proofs.Colony.Labels
import Vivarium.Proofs.Board.Logs
import Vivarium.Proofs.Colony.Founding
import Vivarium.Proofs.Colony.Logs
import Vivarium.Proofs.Colony.Placement
import Vivarium.Proofs.Colony.Reset
import Vivarium.Proofs.Colony.Capacity
import Vivarium.Proofs.Board.Screen
import Vivarium.Proofs.Colony.Screen
import Vivarium.Proofs.Board.Score
import Vivarium.Proofs.Colony.Advance
import Vivarium.Proofs.Colony.Account
import Vivarium.Proofs.Colony.Game
import Vivarium.Proofs.Colony.Schedule
import Vivarium.Proofs.Batch.Game
import Vivarium.Proofs.Station.Game
import Vivarium.Proofs.Window.Game
import Vivarium.Proofs.Drivers
import Vivarium.Proofs.Station.Delivery
import Vivarium.Proofs.Station.Command
import Vivarium.Proofs.Station.Broadcast
import Vivarium.Proofs.Station.Message
import Vivarium.Proofs.Station.Record
import Vivarium.Proofs.Station.Acknowledgement
import Vivarium.Proofs.Station.Queue
import Vivarium.Proofs.Station.Waiting
import Vivarium.Proofs.Station.Interleaving
import Vivarium.Proofs.Station.Loop
import Vivarium.Proofs.Station.Socket
import Vivarium.Proofs.Species.Grammar
import Vivarium.Proofs.Text.Numeral
import Vivarium.Proofs.Species.Printed
import Vivarium.Proofs.Board.Rotation
import Vivarium.Proofs.Colony.Rotation
import Vivarium.Proofs.Colony.Commute
import Vivarium.Proofs.Board.Guarded
import Vivarium.Proofs.Board.Prompt
import Vivarium.Proofs.Colony.Bundled
import Vivarium.Proofs.Colony.Lots
import Vivarium.Proofs.Colony.Settlement
import Vivarium.Proofs.Species.Layout
import Vivarium.Proofs.Species.Builder
import Vivarium.Proofs.Colony.Picture
import Vivarium.Proofs.Folder.Writing
import Vivarium.Proofs.Batch.Record
import Vivarium.Proofs.Colony.Guarded
import Vivarium.Proofs.Settings.Validation
import Vivarium.Proofs.Settings.Reading
import Vivarium.Proofs.Settings.Escape
import Vivarium.Proofs.Settings.Merging
import Vivarium.Proofs.Window.Closing
import Vivarium.Proofs.Grid
import Vivarium.Proofs.Colony.Scoreboard
import Vivarium.Proofs.Colony.Counter
