/-!
# Files

A tree of files as the program sees it from its working directory: what there is under which path,
and why a path cannot be read.
-/

namespace Reindex

inductive FileError where
  | missing
  /-- A part of the path is a file and not a directory. -/
  | notDirectory
  | directory
  /-- The path or a part of it is too long for any file. -/
  | nameTooLong
  /-- The path has a character that no path can have. -/
  | nulInPath
  | notText
  deriving DecidableEq, Repr

def FileError.message : FileError → String
  | .missing => "No such file or directory (os error 2)"
  | .notDirectory => "Not a directory (os error 20)"
  | .directory => "Is a directory (os error 21)"
  | .nameTooLong => "File name too long (os error 36)"
  | .nulInPath => "file name contained an unexpected NUL byte"
  | .notText => "stream did not contain valid UTF-8"

inductive FileEntry where
  | file (bytes : List UInt8)
  | directory

/-- The files there are, by their paths. -/
structure Files where
  entries : List (String × FileEntry)

namespace Files

/-- The steps of a path; single dots and repeated slashes make none. -/
def steps (path : String) : List String :=
  (path.splitToList (· = '/')).filter fun s => s ≠ "" && s ≠ "."

/-- The entry under given steps. A directory need not be listed if something in it is. -/
def entryAt? (fs : Files) (place : List String) : Option FileEntry :=
  if place.isEmpty then some .directory
  else match fs.entries.find? fun e => steps e.1 = place with
    | some e => some e.2
    | none =>
      if fs.entries.any fun e => place.isPrefixOf (steps e.1) then some .directory else none

/-- Walk along the steps; two dots lead back. -/
def walk (fs : Files) (done : List String) : List String → Except FileError FileEntry
  | [] =>
    match fs.entryAt? done with
    | some e => .ok e
    | none => .error .missing
  | step :: rest =>
    match fs.entryAt? done with
    | none => .error .missing
    | some (.file _) => .error .notDirectory
    | some .directory =>
      if step = ".." then
        if done.isEmpty then .error .missing else walk fs done.dropLast rest
      else if 255 < step.utf8ByteSize then .error .nameTooLong
      else walk fs (done ++ [step]) rest

/-- The path names a place below itself and so must be a directory. -/
def wantsDirectory (path : String) : Bool := path.endsWith "/" || path.endsWith "/."

/-- What a path leads to. What is listed under the very path is known at once; otherwise nothing is
known outside of the working directory. -/
def find (fs : Files) (path : String) : Except FileError FileEntry :=
  if path.toList.contains '\x00' then .error .nulInPath
  else if path.isEmpty then .error .missing
  else if 4096 ≤ path.utf8ByteSize then .error .nameTooLong
  else match fs.entries.lookup path with
    | some entry => .ok entry
    | none =>
      if path.startsWith "/" then
        if (steps path).isEmpty then .ok .directory else .error .missing
      else match fs.walk [] (steps path) with
        | .ok (.file bytes) =>
          if wantsDirectory path then .error .notDirectory else .ok (.file bytes)
        | result => result

def contains (fs : Files) (path : String) : Bool := (fs.find path).toBool

def read (fs : Files) (path : String) : Except FileError (List UInt8) := do
  match ← fs.find path with
  | .file bytes => return bytes
  | .directory => throw .directory

end Files

end Reindex
