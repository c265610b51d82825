import ChatChain.FileSystem.Location

/-!
# Access to files

What can be done with files and directories.  Every operation that can fail says why, and one that
fails changes nothing, except that `makeDirectories` keeps the directories it made on the way.

* The operations on a `Location` say what each one does.
* Those on a `Path` follow the path from the root first.
-/

namespace ChatChain.FileSystem

/-! ## At a location -/

/-- What stands at a location. -/
def nodeAt (fs : FileSystem) : Location → Except FileError Node
  | .itself _ => .ok .directory
  | .named path slashed =>
    match fs.node? path with
    | none => .error .notFound
    | some .directory => .ok .directory
    | some (.file content) => if slashed then .error .notADirectory else .ok (.file content)

/-- Reads a regular file. -/
def readAt (fs : FileSystem) (l : Location) : Except FileError ByteArray := do
  match ← fs.nodeAt l with
  | .file content => .ok content
  | .directory => .error .isADirectory

/-- Writes a regular file, in place of one that stands there. -/
def writeAt (fs : FileSystem) (content : ByteArray) : Location → Except FileError FileSystem
  | .itself _ | .named _ true => .error .isADirectory
  | .named path false =>
    if fs.isDirectory path then .error .isADirectory else .ok (fs.set path (.file content))

/-- Removes a regular file. -/
def removeFileAt (fs : FileSystem) (l : Location) : Except FileError FileSystem := do
  match ← fs.nodeAt l with
  | .file _ => .ok (fs.erase l.path)
  | .directory => .error .isADirectory

/-- Removes an empty directory. -/
def removeDirectoryAt (fs : FileSystem) : Location → Except FileError FileSystem
  | .itself _ => .error .notEmpty
  | .named path slashed => do
    match ← fs.nodeAt (.named path slashed) with
    | .file _ => .error .notADirectory
    | .directory => if fs.children path = [] then .ok (fs.erase path) else .error .notEmpty

/-- Makes a directory, unless there is one. -/
def makeDirectoryAt (fs : FileSystem) : Location → Except FileError FileSystem
  | .itself _ => .ok fs
  | .named path _ =>
    match fs.node? path with
    | none => .ok (fs.set path .directory)
    | some .directory => .ok fs
    | some (.file _) => .error .alreadyExists

/-- The size that a directory reports. -/
def directorySize : Nat := 4096

/-- The size of a file or directory. -/
def nodeSize : Node → Nat
  | .file content => content.size
  | .directory => directorySize

/-! ## Directories on the way -/

/-- Makes the directories that names lead through, those that are missing.  What was made before a
failure stays. -/
def makeAlong (fs : FileSystem) (here : Path) : List String → Except FileError Unit × FileSystem
  | [] => (.ok (), fs)
  | name :: rest =>
    match fs.enter here name with
    | .ok next => fs.makeAlong next rest
    | .error .notFound =>
      let next := Path.advance here name
      (fs.set next .directory).makeAlong next rest
    | .error e => (.error e, fs)

/-- Makes the directories that lead to what a path names, written in the directory `here`. -/
def makeParents (fs : FileSystem) (here path : Path) : Except FileError Unit × FileSystem :=
  match Path.check path with
  | .error e => (.error e, fs)
  | .ok () => fs.makeAlong here (Path.normal path).dropLast

/-- Makes a directory, written in the directory `here`, after those that lead to it.  The empty text
asks for nothing. -/
def makeDirectoriesIn (fs : FileSystem) (here path : Path) : Except FileError Unit × FileSystem :=
  if path = [""] then (.ok (), fs)
  else
    match fs.makeParents here path with
    | (.error e, fs) => (.error e, fs)
    | (.ok (), fs) =>
      match fs.locate here path >>= fs.makeDirectoryAt with
      | .ok fs => (.ok (), fs)
      | .error e => (.error e, fs)

/-! ## At a path from the root -/

/-- Reads a regular file. -/
def read (fs : FileSystem) (path : Path) : Except FileError ByteArray :=
  fs.locate [] path >>= fs.readAt

/-- The size of what stands at a path. -/
def size (fs : FileSystem) (path : Path) : Except FileError Nat :=
  nodeSize <$> (fs.locate [] path >>= fs.nodeAt)

/-- Writes a regular file.  Its directory must exist, and no directory may stand at the path. -/
def write (fs : FileSystem) (path : Path) (content : ByteArray) : Except FileError FileSystem :=
  fs.locate [] path >>= fs.writeAt content

/-- Removes a regular file. -/
def removeFile (fs : FileSystem) (path : Path) : Except FileError FileSystem :=
  fs.locate [] path >>= fs.removeFileAt

/-- Removes an empty directory. -/
def removeDirectory (fs : FileSystem) (path : Path) : Except FileError FileSystem :=
  fs.locate [] path >>= fs.removeDirectoryAt

/-- Makes a directory after those that lead to it. -/
def makeDirectories (fs : FileSystem) (path : Path) : Except FileError Unit × FileSystem :=
  fs.makeDirectoriesIn [] path

end ChatChain.FileSystem
