namespace MarkupAudit.Command

/-- What stands under a path. -/
inductive FileState where
  | missing
  | directory
  /-- A file that holds no text. -/
  | unreadable
  | text (content : String)
  deriving DecidableEq, Repr

/-- The files under their paths. -/
abbrev Files : Type := String → FileState

namespace FileState

/-- Whether there is a file. -/
def isFile : FileState → Bool
  | .text _ => true
  | .unreadable => true
  | .missing => false
  | .directory => false

/-- Whether there is anything. -/
def isPresent : FileState → Bool
  | .missing => false
  | _ => true

/-- The text of the file. -/
def content? : FileState → Option String
  | .text content => some content
  | _ => none

end FileState

/-- Puts a path below another. -/
def join (folder path : String) : String :=
  if folder.isEmpty then path
  else if folder.toList.getLast? == some '/' then folder ++ path
  else folder ++ "/" ++ path

/-- A folder with texts under relative paths. -/
structure Folder where
  files : List (String × String)

namespace Folder

/-- The steps of a path that stands in the folder. -/
def steps (path : String) : List String :=
  ((path.toList.splitOnP (· == '/')).map String.ofList).filter fun step =>
    step != "" && step != "."

/-- Whether the steps lead to the folder itself or to a directory in it. -/
def isDirectory (folder : Folder) (place : List String) : Bool :=
  place.isEmpty || folder.files.any fun (path, _) =>
    place.isPrefixOf (steps path) && place.length < (steps path).length

/-- One step along a path, from the directory where the steps before led. There is nothing above the
whole folder. -/
def follow (folder : Folder) (place : List String) (step : String) : Option (List String) :=
  if !folder.isDirectory place then none
  else if step = "" ∨ step = "." then some place
  else if step = ".." then (if place.isEmpty then none else some place.dropLast)
  else some (place ++ [step])

/-- Where a path leads, unless it leads out of the folder. -/
def resolve? (folder : Folder) (path : String) : Option (List String) :=
  if path.isEmpty || path.toList.head? == some '/' then none
  else ((path.toList.splitOnP (· == '/')).map String.ofList).foldlM folder.follow []

/-- What stands under a path of the folder. -/
def state (folder : Folder) : Files := fun path =>
  match folder.resolve? path with
  | none => .missing
  | some place =>
    match folder.files.find? fun (path, _) => steps path == place with
    | some (_, content) => .text content
    | none => if folder.isDirectory place then .directory else .missing

end Folder

end MarkupAudit.Command
