/-!
# Processes

A process is a computation that reads and writes files and in the end answers with a value. It only
says which file it wants and how it goes on with the answer, so the same process runs on a real file
system and on a simulated one.
-/

namespace ScanSchema.Command

/-- What can go wrong with a file. -/
inductive FileFault where
  /-- There is no such file, or no directory to put it in. -/
  | notFound
  /-- The path leads to a directory. -/
  | isDirectory
  /-- The path leads through something that is not a directory. -/
  | notDirectory
  /-- The content is not UTF-8. -/
  | notText
  /-- Something else, in the words of the system. -/
  | other (message : String)
  deriving DecidableEq, Repr

/-- The wording of each fault. -/
def FileFault.message : FileFault → String
  | .notFound => "No such file or directory (os error 2)"
  | .isDirectory => "Is a directory (os error 21)"
  | .notDirectory => "Not a directory (os error 20)"
  | .notText => "stream did not contain valid UTF-8"
  | .other message => message

/-- A computation that uses files and answers with a value of type `α`. -/
inductive Process (α : Type) where
  /-- The answer. -/
  | done (value : α)
  /-- Read all of standard input. -/
  | readInput (resume : Except FileFault (List UInt8) → Process α)
  /-- Read all of a file. -/
  | readFile (path : String) (resume : Except FileFault (List UInt8) → Process α)
  /-- Write a file. -/
  | writeFile (path : String) (bytes : List UInt8) (resume : Except FileFault Unit → Process α)

namespace Process

variable {α β : Type}

/-- Go on with another process once the answer of the first is there. -/
def andThen : Process α → (α → Process β) → Process β
  | done value, next => next value
  | readInput resume, next => readInput fun result => (resume result).andThen next
  | readFile path resume, next => readFile path fun result => (resume result).andThen next
  | writeFile path bytes resume, next =>
    writeFile path bytes fun result => (resume result).andThen next

instance : Monad Process where
  pure := done
  bind := andThen

/-- Read all of standard input. -/
def input : Process (Except FileFault (List UInt8)) := readInput done

/-- Read all of a file. -/
def file (path : String) : Process (Except FileFault (List UInt8)) := readFile path done

/-- Write a file. -/
def write (path : String) (bytes : List UInt8) : Process (Except FileFault Unit) :=
  writeFile path bytes done

end Process

end ScanSchema.Command
