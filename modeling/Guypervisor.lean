import Guypervisor.Soundness.AccessBounds
import Guypervisor.Soundness.AccessRights
import Guypervisor.Soundness.AlignedAllocation
import Guypervisor.Soundness.AtomicRead
import Guypervisor.Soundness.CapabilityUse
import Guypervisor.Soundness.CompleteContext
import Guypervisor.Soundness.ContextCleanup
import Guypervisor.Soundness.ContextLeak
import Guypervisor.Soundness.ControlWords
import Guypervisor.Soundness.DriverCleanup
import Guypervisor.Soundness.DumpLabels
import Guypervisor.Soundness.ErrorRecursion
import Guypervisor.Soundness.ExitHandling
import Guypervisor.Soundness.FailureReporting
import Guypervisor.Soundness.FeatureControl
import Guypervisor.Soundness.FixedBits
import Guypervisor.Soundness.GuestExecution
import Guypervisor.Soundness.HostReturn
import Guypervisor.Soundness.HostSelectors
import Guypervisor.Soundness.IdentityMap
import Guypervisor.Soundness.IrpCompletion
import Guypervisor.Soundness.LaunchedVmcs
import Guypervisor.Soundness.LoadBalance
import Guypervisor.Soundness.LoadOutcome
import Guypervisor.Soundness.MemorySafety
import Guypervisor.Soundness.NullSegment
import Guypervisor.Soundness.PhysicalAccess
import Guypervisor.Soundness.PhysicalCalls
import Guypervisor.Soundness.Population
import Guypervisor.Soundness.ProcessorDetection
import Guypervisor.Soundness.ProcessorLife
import Guypervisor.Soundness.ReadBack
import Guypervisor.Soundness.RegionHeaders
import Guypervisor.Soundness.RegionOwnership
import Guypervisor.Soundness.RegionPages
import Guypervisor.Soundness.RequestTrace
import Guypervisor.Soundness.SegmentBase
import Guypervisor.Soundness.SelectorTables
import Guypervisor.Soundness.SharedHeaders
import Guypervisor.Soundness.StackOwnership
import Guypervisor.Soundness.StaleFields
import Guypervisor.Soundness.TableContents
import Guypervisor.Soundness.UnmappedRange
import Guypervisor.Soundness.UserRequest
import Guypervisor.Soundness.VmxProtocol
import Guypervisor.Soundness.WriteReporting
