import Zio.Events
import Zio.Kqueue.Specification
import Zio.Kqueue.Atomicity
import Zio.Kqueue.Reduction
import Zio.Kqueue.Honesty
import Zio.Kqueue.Coalescing
import Zio.Kqueue.Receipts
import Zio.Kqueue.Phases
import Zio.Kqueue.Simulation
import Zio.Linux.InPlace
import Zio.Linux.EventFd
import Zio.Linux.Failure
import Zio.Linux.Kernel
import Zio.Mutation.Accounting
import Zio.Mutation.Ownership
import Zio.Table.Identity
import Zio.Table.Admission
import Zio.Table.Sealed
import Zio.Twins
import Zio.Scripted.Lockstep
import Zio.Testkit.Conformance
import Zio.Wait
import Zio.Qualify.Coverage
import Zio.Benchmark.Readings
import Zio.Benchmark.Probes
import Zio.Benchmark.Settings
import Zio.Benchmark.Measure
