import ScanSchema.Command.Program

/-!
# Running the program

The program on the real file system: its command line is that of the process, and its files are
those of the machine.
-/

namespace ScanSchema.Command

/-- The fault behind an error of the system. -/
def FileFault.ofSystem : IO.Error → FileFault
  | .noFileOrDirectory .. => .notFound
  | error => .other (toString error)

/-- Run a process on the real file system. -/
def Process.perform {α : Type} : Process α → IO α
  | done value => return value
  | readInput resume => do
    let result ← (← IO.getStdin).readBinToEnd.toBaseIO
    (resume (answer result)).perform
  | readFile path resume => do
    let result ← (IO.FS.readBinFile path).toBaseIO
    (resume (answer result)).perform
  | writeFile path bytes resume => do
    let result ← (IO.FS.writeBinFile path ⟨bytes.toArray⟩).toBaseIO
    (resume (result.mapError FileFault.ofSystem)).perform
where
  /-- The bytes that were read, or the fault. -/
  answer (result : Except IO.Error ByteArray) : Except FileFault (List UInt8) :=
    (result.mapError FileFault.ofSystem).map (·.data.toList)

end ScanSchema.Command

/-- Run the program, print what it has to say, and answer with its exit code. -/
def main (arguments : List String) : IO UInt32 := do
  let isTerminal ← (← IO.getStderr).isTty
  let report ← (ScanSchema.Command.run arguments isTerminal).perform
  IO.print report.output
  IO.eprint report.errors
  return UInt32.ofNat report.code
