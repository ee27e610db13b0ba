import XslLowering.CommandLine

/-!
# The program

`main` looks at the files that a request is about, runs the request on what it saw, and writes what
the run leaves behind.
-/

namespace XslLowering.CommandLine

/-- Whether a directory is at a path. -/
def isDirectory (path : String) : BaseIO Bool := do
  match ← (IO.FS.realPath path).toBaseIO with
  | .ok real => real.isDir
  | .error _ => return false

/-- Adds what is at a path to a set of files, or at least the directory around it. -/
def look (files : Files) (path : String) : IO Files := do
  match ← (IO.FS.readBinFile path).toBaseIO with
  | .ok bytes => return files.place path bytes
  | .error _ =>
    if ← isDirectory path then return files.placeDirectory path
    let around := Files.directoryOf path
    if ← isDirectory around then return files.placeDirectory around
    return files

end XslLowering.CommandLine

open XslLowering CommandLine in
def main (args : List String) : IO UInt32 := do
  let request := Request.ofArguments args
  let files ← request.paths.foldlM look Files.empty
  let outcome := request.run files
  IO.print outcome.output
  IO.eprint outcome.complaint
  if outcome.exitCode = 0 then
    if let some path := request.output? then
      if let .ok bytes := outcome.files.read path then
        IO.FS.writeBinFile path bytes
  return outcome.exitCode.toUInt32
