import Libmsr.Core.DeviceSpec
import Libmsr.Core.BatchBounds
import Libmsr.Core.BatchDirection
import Libmsr.Core.BatchPaths
import Libmsr.Core.BatchLoad
import Libmsr.Core.BatchLoadSpec
import Libmsr.Core.Addressing
import Libmsr.Lib.Log2
import Libmsr.Rapl.Units
import Libmsr.Rapl.Limits
import Libmsr.Rapl.LimitsSpec
import Libmsr.Rapl.LimitEncoding
import Libmsr.Rapl.LimitOutcomes
import Libmsr.Rapl.LimitHalves
import Libmsr.Core.BatchReadSpec
import Libmsr.Lib.WrapCounter
import Libmsr.Rapl.Energy
import Libmsr.Rapl.EnergyLoad
import Libmsr.Rapl.EnergyPoll
import Libmsr.Rapl.EnergyExact
import Libmsr.Rapl.EnergyRuns
import Libmsr.Rapl.LimitGet
import Libmsr.Rapl.LimitRoundTrip
import Libmsr.Rapl.LimitFailures
import Libmsr.Core.Lifecycle
import Libmsr.Core.LifecycleRuns
import Libmsr.Core.BatchRows
import Libmsr.Core.RowLoading
import Libmsr.Clocks.PerfState
import Libmsr.Clocks.PerfStateRuns
import Libmsr.Clocks.Turbo
import Libmsr.Clocks.TurboRuns
import Libmsr.Lib.Counting
import Libmsr.Rapl.Locks
import Libmsr.Rapl.LockReads
import Libmsr.Rapl.LocksSpec
import Libmsr.Core.BatchCells
import Libmsr.Lib.BitFields
import Libmsr.Thermal.Thermal
import Libmsr.Thermal.ThermalRuns
import Libmsr.Thermal.ThermalFields
import Libmsr.Thermal.ThermStatSpec
import Libmsr.Counters.CounterFields
import Libmsr.Thermal.ThermInterruptSpec
import Libmsr.Counters.CounterCalls
import Libmsr.Counters.CounterRuns
import Libmsr.Core.UnitLoading
import Libmsr.Core.BatchPointers
import Libmsr.Core.UnitReads
import Libmsr.Csr.CsrBatch
import Libmsr.Csr.CsrBatchRuns
import Libmsr.Csr.BatchFree
import Libmsr.Csr.Imc
import Libmsr.Csr.ImcSpec
import Libmsr.Csr.ImcSlots
import Libmsr.Lib.Heap
import Libmsr.Mem.Memhdlr
import Libmsr.Mem.MemhdlrRuns
import Libmsr.Rapl.EnergyArrays
import Libmsr.Csr.CsrDevice
import Libmsr.Csr.CsrDeviceRuns
import Libmsr.Lib.Listing
import Libmsr.Thermal.Dump
import Libmsr.Thermal.DumpRuns
import Libmsr.Thermal.DumpSpec
import Libmsr.Lib.Semaphores
import Libmsr.Powmon.Highlander
import Libmsr.Powmon.HighlanderRuns
import Libmsr.Core.CpuCoverage
import Libmsr.Core.InitRounds
import Libmsr.Core.InitFallback
import Libmsr.Rapl.FlagStorage
import Libmsr.Rapl.FlagStorageRuns
import Libmsr.Csr.AllocateRuns
import Libmsr.Csr.ErrorReports
import Libmsr.Csr.ImcEvents
import Libmsr.Csr.ImcEventsSpec
import Libmsr.Csr.ImcEventsRuns
import Libmsr.Thermal.PkgLogs
import Libmsr.Clocks.ClockMod
import Libmsr.Misc.MiscEnable
import Libmsr.Core.RegisterTables
import Libmsr.Counters.Pmc
import Libmsr.Counters.PmcControl
import Libmsr.Counters.PmcClear
import Libmsr.Counters.Pcu
import Libmsr.Counters.PcuLoading
import Libmsr.Counters.PcuEvents
import Libmsr.Counters.EventSelect
import Libmsr.Counters.PcuRuns
import Libmsr.Rapl.PowerUnits
import Libmsr.Rapl.WindowRounding
import Libmsr.Rapl.MaskMacros
import Libmsr.Powmon.Timer
import Libmsr.Powmon.TimerRuns
import Libmsr.Core.TableStorage
import Libmsr.Lib.Components
import Libmsr.Clocks.ClocksData
import Libmsr.Misc.Residency
import Libmsr.Thermal.ThermShared
import Libmsr.System.RegisterModules
import Libmsr.Counters.CounterDump
import Libmsr.Rapl.EnergyClock
import Libmsr.Rapl.LimitPairs
import Libmsr.Rapl.PowerInfo
import Libmsr.Lib.Bounce
import Libmsr.Lib.Ratios
import Libmsr.Powmon.PowerWrapper
import Libmsr.Powmon.PowerMeasure
import Libmsr.Powmon.PowerCap
import Libmsr.Msrmod.Defaults
import Libmsr.Core.CoordBatch
import Libmsr.Rapl.RaplDump
import Libmsr.Rapl.RaplDumpRuns
import Libmsr.Csr.ImcCounts
import Libmsr.Csr.ImcCountsRuns
import Libmsr.Core.RegFrames
import Libmsr.Rapl.LimitFrames
import Libmsr.Msrmod.Msrmod
import Libmsr.Msrmod.MsrmodRuns
import Libmsr.Csr.ImcUnits
import Libmsr.Csr.ImcUnitsRuns
import Libmsr.Core.TableWrites
import Libmsr.Counters.PmcMachine
import Libmsr.Counters.PmcRuns
import Libmsr.Counters.PcuMachine
import Libmsr.Counters.PcuPrograms
