import TestBench.Main
import TestBench.Reader.Queue
import TestBench.Samples
import TestBench.Proofs.Command
import TestBench.Proofs.Trace
import TestBench.Proofs.Operations
import TestBench.Proofs.Bench
import TestBench.Proofs.Returns
import TestBench.Proofs.Suite
import TestBench.Proofs.Reading
import TestBench.Proofs.Outcome
import TestBench.Proofs.Sentinel
import TestBench.Proofs.Stage
import TestBench.Proofs.Timeout
import TestBench.Proofs.Clock
import TestBench.Proofs.Disk
import TestBench.Proofs.Properties.Loading
import TestBench.Proofs.Properties.Roundtrip
import TestBench.Proofs.Installation
import TestBench.Proofs.Locations
import TestBench.Proofs.Confined
import TestBench.Proofs.Footprint
import TestBench.Proofs.Discovery
import TestBench.Proofs.Boundary
import TestBench.Proofs.Moments
import TestBench.Proofs.SharedRunner
import TestBench.Proofs.Launch
import TestBench.Proofs.Agreement
import TestBench.Proofs.Steady
import TestBench.Proofs.Twins
import TestBench.Proofs.Order
import TestBench.Proofs.Recorded
import TestBench.Proofs.Closing
import TestBench.Proofs.Reporting
import TestBench.Proofs.Queue.Service
import TestBench.Proofs.Preparation
import TestBench.Proofs.Building
import TestBench.Proofs.Lifecycle
import TestBench.Proofs.Text.Splitting
import TestBench.Proofs.Execution
import TestBench.Proofs.Interleaving
import TestBench.Proofs.Package.Reading
import TestBench.Proofs.Search
import TestBench.Proofs.Supported
import TestBench.Proofs.Classpath
import TestBench.Proofs.PathList
import TestBench.Proofs.RunnerSources
import TestBench.Proofs.Configuration
