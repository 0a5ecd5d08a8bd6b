import DemeterBench.Python
import DemeterBench.Utils
import DemeterBench.Bench
import DemeterBench.Vm.Args
import DemeterBench.Vm.Boot
import DemeterBench.Admission.Loop
import DemeterBench.Admission.Properties
import DemeterBench.Lifecycle.Py
import DemeterBench.Lifecycle.Guests
import DemeterBench.Lifecycle.Teardown
import DemeterBench.Admission.Batches
import DemeterBench.Vm.KvmLogs
import DemeterBench.Posix
import DemeterBench.Launch
import DemeterBench.Workload
import DemeterBench.Benchmark
import DemeterBench.Guest.Run
import DemeterBench.Guest.Launcher
import DemeterBench.Guest.Properties
import DemeterBench.Guest.Host
import DemeterBench.Log.Double
import DemeterBench.Log.Regex
import DemeterBench.Log.Matching
import DemeterBench.Log.Metrics
import DemeterBench.Log.Table
import DemeterBench.Log.Records
import DemeterBench.Log.Reports
