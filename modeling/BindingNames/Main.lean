import BindingNames.Document.Writing
import BindingNames.Program
import BindingNames.Recording

/-!
The command line. The program sees the text files below the working directory and what a
recording says, which the environment may name. The files that a run changes are written back, a
workbook as a document of its cells.
-/

namespace BindingNames.CommandLine

/-- The variable of the environment with the path of the recording. -/
def recordingVariable : String := "BINDING_NAMES_RECORDING"

def usageText : String :=
  "usage: binding-names [-h] [-c CONFIG] [-o OUTPUT] [--report REPORT] [-v] [--dump-config PATH]"

/-- The files in a directory, with the parts of their paths from the working directory. -/
partial def filesIn (parts : List Text) (entries : Array IO.FS.DirEntry) :
    IO (List (Path × Node)) := do
  let mut files := []
  for e in entries do
    let here := parts ++ [Text.ofString e.fileName]
    if ← e.path.isDir then
      files := files ++ (⟨[], here⟩, .directory) :: (← filesIn here (← e.path.readDir))
    else
      match Text.ofUtf8? (← IO.FS.readBinFile e.path).toList with
      | some text => files := files ++ [(⟨[], here⟩, .text text)]
      | none => pure ()
  return files

def readRecording : IO Value := do
  match ← IO.getEnv recordingVariable with
  | none => return .null
  | some path =>
    match Document.read (Text.ofString (← IO.FS.readFile path)) with
    | .ok v => return v
    | .error e => throw (.userError (Failure.document e).message.toChars)

def writeChanges (before after : Disk) : IO Unit := do
  for (place, node) in after.nodes do
    if before.nodes.lookup place != some node then
      let path := (Path.mk "/" place).toText
      let name := path.toChars
      match node with
      | .directory => IO.FS.createDirAll name
      | .text s => IO.FS.writeFile name s.toChars
      | .workbook w =>
        IO.FS.writeFile name (Document.write [(.text path, Recording.ofWorkbook w)]).toChars

def report (stamp : Text) : ProgramEnd → IO UInt32
  | .exit code => do
    if code == 0 then IO.println usageText else IO.eprintln usageText
    return code.toUInt32
  | .complaint text => do
    IO.eprintln text.toChars
    return 1
  | .crash failure => do
    IO.eprintln failure.message.toChars
    return 1
  | .logged code settings entries => do
    IO.print (LogOutput.render settings stamp entries).toChars
    let complaint := LogOutput.complaint settings stamp entries
    if !complaint.isEmpty then IO.eprintln complaint.toChars
    return code.toUInt32

def run (words : List Text) : IO UInt32 := do
  let recording ← readRecording
  let cwd ← IO.currentDir
  let files ← filesIn [] (← cwd.readDir)
  let bare := Disk.bare (Path.ofText (Text.ofString cwd.toString)).parts
  match bare.withNodes (files ++ Recording.files recording) with
  | .error fault =>
    IO.eprintln (Failure.file fault).message.toChars
    return 1
  | .ok before =>
    let tools := Recording.tools recording
    let (after, ending) := Program.run tools before words
    writeChanges before after
    report tools.stamp ending

end BindingNames.CommandLine

def main (words : List String) : IO UInt32 :=
  BindingNames.CommandLine.run (words.map BindingNames.Text.ofString)
