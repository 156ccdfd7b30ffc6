import CleanLaunch.Shell.Evaluation
import CleanLaunch.Shell.Startup
import CleanLaunch.Shell.Texts
import CleanLaunch.Shell.Utility.All

/-! Programs that run in a process, from the loading of their libraries to their end.

    `Program.runner` ties everything together: it runs any task, and what is inside of one with a smaller
    bound. -/

namespace CleanLaunch.Shell

open Shell.Action
open Files (Image)

namespace Program

/-- The first library that a program needs. -/
def library (program : Bytes) : Bytes :=
  let libraries :=
    [("libselinux.so.1", ["ls", "dir", "vdir", "mkdir", "cp", "mv", "stat", "id", "install", "mkfifo",
        "mknod", "chcon", "runcon", "find"]),
     ("libcrypto.so.3", ["sort", "md5sum", "sha1sum", "sha224sum", "sha256sum", "sha384sum",
        "sha512sum", "cksum", "b2sum"]),
     ("libpcre2-8.so.0", ["grep"]), ("libgmp.so.10", ["expr", "factor"]),
     ("libtinfo.so.6", ["bash"]), ("libacl.so.1", ["sed", "tar"]), ("libm.so.6", ["mawk"]),
     ("libz.so.1", ["dpkg"])]
  match libraries.find? fun (_, programs) => (programs.map utf8).contains program with
  | some (name, _) => utf8 name
  | none => utf8 "libc.so.6"

/-- Is there a library under a name without a directory? -/
def isLibrary (state : State) (name : Bytes) : Bool :=
  let given := ((Utility.environmentValue? state "LD_LIBRARY_PATH").getD []).splitAt 58
  let directories := given.filter (!·.isEmpty) ++
    [utf8 "/usr/lib/x86_64-linux-gnu", utf8 "/usr/lib", utf8 "/usr/local/lib"]
  directories.any fun directory =>
    match state.tree.find state.directory (directory ++ Path.slash :: name) with
    | .ok node => node.isRegular
    | .error _ => false

/-- Bytes that a library has at least. -/
def leastLibraryLength : Nat := 64

/-- Why a file cannot be loaded as a library, if it cannot. -/
def preloadProblem? (state : State) (name : Bytes) : Option String :=
  if name = utf8 Utility.Buffering.library then none
  else if !name.contains Path.slash then
    if isLibrary state name then none else some "cannot open shared object file"
  else match state.tree.find state.directory name with
    | .error _ => some "cannot open shared object file"
    | .ok (.directory _) => some "cannot read file data"
    | .ok (.file _ content) =>
      if (utf8 "\x7fELF").isPrefixOf content then
        if content = Host.programContent then some "file too short" else none
      else if content.length < leastLibraryLength then some "file too short"
      else some "invalid ELF header"
    | .ok (.program _) => some "cannot dynamically load position-independent executable"
    | .ok _ => some "file too short"

/-- Loads the libraries of a program. The result says whether that was possible. -/
def load (program : Bytes) : Action Bool := do
  let state ← get
  let names := (((Utility.environmentValue? state "LD_PRELOAD").getD []).splitAt 58).flatMap fun part =>
    (part.splitAt 32).filter (!·.isEmpty)
  for name in names do
    match preloadProblem? state name with
    | none => pure ()
    | some problem =>
      printError (utf8 "ERROR: ld.so: object '" ++ name ++
        utf8 "' from LD_PRELOAD cannot be preloaded (" ++ utf8 problem ++ utf8 "): ignored.\n")
  if Host.Descriptor.lowestFree state.descriptors 0 < state.limit then return true
  printError (state.arguments.headD [] ++ utf8 ": error while loading shared libraries: " ++
    library program ++ utf8 ": cannot open shared object file: Error 24\n")
  return false

/-- Status of a program that could not be loaded. -/
def loadFailure : Nat := 127

/-- Runs a program to its end. -/
def run (run : Runner) (image : Image) : Action Unit := do
  modify fun state => { state with output := [] }
  if !(← load image.program) then setStatus loadFailure
  else if image.program = utf8 "dash" then Startup.shell run .standard image.arguments
  else if image.program = utf8 "bash" then Startup.shell run .extended image.arguments
  else
    let status ← Utility.run run image.program (image.arguments.drop 1)
    let _ ← flush
    setStatus status

/-- Runs a task, and what is inside of it with a runner. -/
def step (runInside : Runner) : Task → Action Unit
  | .command command manner => Evaluation.command runInside manner command
  | .text text origin manner => Texts.runAll runInside origin manner text
  | .file content => Texts.runFile runInside content
  | .program image => run runInside image

/-- Runs tasks that are not nested more deeply than a bound. -/
def runner : (bound : Nat) → Runner
  | 0, _ => leave .abandoned
  | bound + 1, task => step (runner bound) task

/-- How deeply tasks may be nested. -/
def maxDepth : Nat := 4000

end Program

end CleanLaunch.Shell
