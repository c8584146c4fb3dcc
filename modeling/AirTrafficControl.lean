import AirTrafficControl.Library.Execution
import AirTrafficControl.Library.Earliest
import AirTrafficControl.Library.FifoServer
import AirTrafficControl.Library.ServiceTime
import AirTrafficControl.Library.StepFunction
import AirTrafficControl.Library.SharedStream
import AirTrafficControl.Library.Tandem
import AirTrafficControl.Library.Table
import AirTrafficControl.Library.Pooling
import AirTrafficControl.Library.Deviation
import AirTrafficControl.Library.EffectiveSize
import AirTrafficControl.Library.Dictionary
import AirTrafficControl.Library.Join
import AirTrafficControl.Library.Grouping
import AirTrafficControl.Library.Walsh
import AirTrafficControl.Model.Basic
import AirTrafficControl.Model.Network
import AirTrafficControl.Model.Run
import AirTrafficControl.Model.Ini
import AirTrafficControl.Safety.Clock
import AirTrafficControl.Safety.Pending
import AirTrafficControl.Safety.Runway
import AirTrafficControl.Safety.Roster
import AirTrafficControl.Safety.Itinerary
import AirTrafficControl.Safety.Conservation
import AirTrafficControl.Safety.Durations
import AirTrafficControl.Safety.Response
import AirTrafficControl.Queue.Operations
import AirTrafficControl.Queue.Refinement
import AirTrafficControl.Queue.Choice
import AirTrafficControl.Liveness.Progress
import AirTrafficControl.Liveness.Termination
import AirTrafficControl.Statistics.Log
import AirTrafficControl.Statistics.Samples
import AirTrafficControl.Statistics.Sizes
import AirTrafficControl.Statistics.Utilization
import AirTrafficControl.Statistics.Collected
import AirTrafficControl.Statistics.RunwayTime
import AirTrafficControl.Statistics.Little
import AirTrafficControl.Statistics.Population
import AirTrafficControl.Streams.Draws
import AirTrafficControl.Streams.Separation
import AirTrafficControl.Regime.BusyPeriod
import AirTrafficControl.Regime.Deterministic
import AirTrafficControl.Regime.Ages
import AirTrafficControl.Regime.Overload
import AirTrafficControl.Regime.Throughput
import AirTrafficControl.Regime.Jitter
import AirTrafficControl.Order.Schedule
import AirTrafficControl.Order.Rounds
import AirTrafficControl.Order.Overtaking
import AirTrafficControl.Symmetry.Rescaling
import AirTrafficControl.Symmetry.TimeUnit
import AirTrafficControl.Symmetry.Relative
import AirTrafficControl.Symmetry.Periodicity
import AirTrafficControl.Symmetry.Extension
import AirTrafficControl.Results.Variance
import AirTrafficControl.Results.SignMatrix
import AirTrafficControl.Results.MakeInput
import AirTrafficControl.Results.Design
import AirTrafficControl.Results.RowOrder
import AirTrafficControl.Results.Lorenz
import AirTrafficControl.Results.EffectiveSize
import AirTrafficControl.Results.Parity
import AirTrafficControl.Results.Factorial
import AirTrafficControl.Results.Variation
import AirTrafficControl.Results.Script
import AirTrafficControl.Results.Summary
import AirTrafficControl.Results.Residuals
import AirTrafficControl.Results.Options
import AirTrafficControl.Results.Effects
import AirTrafficControl.Results.Extraction
import AirTrafficControl.Results.Analysis
import AirTrafficControl.Results.Directory
import AirTrafficControl.Results.Scatter
