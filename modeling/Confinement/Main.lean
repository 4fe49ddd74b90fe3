import Confinement.CommandLine

/-!
The program: probes the running system, answers its arguments and exits.
-/

namespace Confinement

/-- The first line of a file, or what to say where there is none. -/
def firstLine (path otherwise : String) : IO String := do
  try
    let text ← IO.FS.readFile path
    pure (String.ofList (text.toList.takeWhile (· != '\n')))
  catch _ => pure otherwise

/-- The running system as a probe sees it. -/
def runningHost : IO Host := do
  let machine ← firstLine "/proc/sys/kernel/arch" "x86_64"
  let release ← firstLine "/proc/sys/kernel/osrelease" ""
  pure (Host.linux machine release)

end Confinement

def main (arguments : List String) : IO UInt32 := do
  let host ← Confinement.runningHost
  let output := Confinement.CommandLine.run (Confinement.SystemInfo.probe host) arguments
  (← IO.getStdout).putStr output.stdout
  for line in output.stderr do
    (← IO.getStderr).putStrLn line
  pure output.exit.toUInt32
