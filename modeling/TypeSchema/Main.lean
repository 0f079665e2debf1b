import TypeSchema.Console.Command
/-!
# The program

Runs the command line on the types that every program can name, prints what the command
reports and writes its files.
-/

open TypeSchema

/-- Print the parts of a report. -/
def printReport (report : Console.Report) : IO Unit := do
  for line in report.lines do IO.println line
  match report.document with
  | some doc => IO.println doc.toPage
  | none => pure ()
  for row in report.rows do IO.println ("\t".intercalate row)

/-- Write a file, and the directories above it that are missing. -/
def writeReported (path : Console.Path) (content : String) : IO Unit := do
  IO.FS.createDirAll path.parent.display
  IO.FS.writeFile path.display content

/-- Run the program and return its exit code. -/
def main (arguments : List String) : IO UInt32 := do
  let report := Console.run .empty [] arguments
  for (path, content) in report.files do writeReported path content
  printReport report
  return report.exitCode.toUInt32
