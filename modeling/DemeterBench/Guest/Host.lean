import DemeterBench.Guest.Properties
import DemeterBench.Benchmark

set_option autoImplicit false

/-!
# From the host's line to the guest's module parameters

`Bench._benchmark` exports `default_env | self.env` in the line it hands to the guest's shell,
and the shell starts `sudo -E /bin/time --verbose <launcher> ...` in the state that line leaves.
`sudo -E` keeps the environment and `/bin/time` passes it on, so the launcher's `os.environ` is
the environment of that shell: its exported variables that are set.
-/

namespace DemeterBench

namespace Posix

def Shell.environ (sh : Shell) : List (String × String) :=
  sh.exported.filterMap fun name => (sh.get name).map (name, ·)

end Posix

open Posix Guest

end DemeterBench
