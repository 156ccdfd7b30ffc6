import CleanLaunch.Path.Component
import CleanLaunch.Report.LaunchError

/-! Finding an executable by name.

    An absolute name is its own only candidate, a name of several components is looked for under the
    working directory, and any other name in every directory of the search path. The first candidate
    that is executable is the answer, as it was formed. -/

namespace CleanLaunch.Path

/-- What a search depends on. -/
structure SearchContext where
  workingDirectory : Bytes
  /-- The search path, if there is one. -/
  searchPath : Option Bytes
  /-- The directory that a leading `~` stands for. -/
  home : Bytes
  /-- Is there an executable regular file at a path? -/
  isExecutable : Bytes → Bool

namespace SearchContext

/-- Separator of the search path's directories. -/
def colon : UInt8 := 58

/-- Is `~` the first component of a path? -/
def startsAtHome (path : Bytes) : Bool := (components path).head? == some (.named (utf8 "~"))

/-- A directory of the search path with a leading `~` component replaced by the home directory. -/
def expandHome (context : SearchContext) (directory : Bytes) : Bytes :=
  if startsAtHome directory then extend context.home ((components directory).drop 1) else directory

/-- The directory a part of the search path stands for. A relative one is below the working directory,
    unless it still starts with `~` because the home directory does; that one stays as it is. -/
def directory (context : SearchContext) (part : Bytes) : Bytes :=
  let expanded := context.expandHome part
  if startsAtHome expanded then expanded else absolute context.workingDirectory expanded

/-- The directories of the search path. Empty parts stand for the working directory. -/
def directories (context : SearchContext) (searchPath : Bytes) : List Bytes :=
  (searchPath.splitAt colon).map context.directory

/-- The paths a name may stand for, in order of preference. -/
def candidates (context : SearchContext) (name : Bytes) : Except SearchError (List Bytes) :=
  if isAbsolute name then .ok [name]
  else if (components name).length > 1 then .ok [absolute context.workingDirectory name]
  else match context.searchPath with
    | none => .error .noPathToSearch
    | some searchPath => .ok ((context.directories searchPath).map (push · name))

/-- The first candidate that is executable. -/
def find (context : SearchContext) (name : Bytes) : Except SearchError Bytes :=
  match context.candidates name with
  | .error error => .error error
  | .ok candidates =>
    match candidates.find? context.isExecutable with
    | some path => .ok path
    | none => .error .notFound

end SearchContext

end CleanLaunch.Path
