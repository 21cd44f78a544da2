import Lunar.Library.Run
import Lunar.Library.Scan
import Lunar.Library.Word
import Lunar.Library.Levels
import Lunar.Library.Hysteresis
import Lunar.Library.Counting
import Lunar.Library.Text
import Lunar.Library.Queues
import Lunar.Defines
import Lunar.Datatypes
import Lunar.Helpers
import Lunar.Tiers
import Lunar.Dispatches
import Lunar.Dispatches.Takes
import Lunar.Dispatches.Outcome
import Lunar.Dispatches.Moves
import Lunar.Dispatches.Strict
import Lunar.Dispatches.Starved
import Lunar.Callbacks
import Lunar.Topology
import Lunar.Topology.Groups
import Lunar.Topology.Cpulist
import Lunar.Callbacks.Dispatch
import Lunar.Conservation
import Lunar.Callbacks.Views
import Lunar.Callbacks.Specs
import Lunar.Callbacks.Placement
import Lunar.Kernel
import Lunar.Kernel.Steps
import Lunar.Kernel.Invariant
import Lunar.Kernel.Tiers
import Lunar.Kernel.Life
import Lunar.Kernel.Slices
import Lunar.Kernel.Boost
import Lunar.Kernel.Accounting
import Lunar.Kernel.Starvation
import Lunar.Kernel.OverrideBudget
import Lunar.Kernel.Override
import Lunar.Kernel.Chain
import Lunar.Kernel.Token
import Lunar.Kernel.Ahead
import Lunar.Classification
import Lunar.RtCount
import Lunar.Kernel.Drain
import Lunar.Tiers.Steady
import Lunar.Helpers.Average
import Lunar.Helpers.Duty
import Lunar.Callbacks.Contexts
import Lunar.Library.Estimates
import Lunar.Tiers.Table
import Lunar.Duty
import Lunar.Helpers.Crit
import Lunar.Crit
import Lunar.Boosts
import Lunar.Kernel.Waiting
import Lunar.Topology.Written
import Lunar.Kernel.Queues
import Lunar.Kernel.Ranks
import Lunar.Kernel.Wakeups
import Lunar.Kernel.Turns
import Lunar.UserExitInfo
import Lunar.Main
import Lunar.Main.Lifecycle
import Lunar.Init
import Lunar.Library.Registry
import Lunar.Kernel.Capacity
import Lunar.Locality
import Lunar.Statistics
import Lunar.Kernel.Callbacks
import Lunar.Kernel.Migration
import Lunar.Topology.Files
import Lunar.Library.Halving
import Lunar.Share
import Lunar.Dispatches.Lookups
