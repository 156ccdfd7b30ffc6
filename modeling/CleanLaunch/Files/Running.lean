import CleanLaunch.Files.Tree

/-! What the file tree shows of running processes.

    Every process has a directory under `/proc`, named by its number, and `/proc/self` leads each
    process to its own. `Tree.withRunning` is the tree as one of the processes sees it. -/

namespace CleanLaunch.Files

/-- A running process, as far as the tree shows it. -/
structure Running where
  pid : Nat
  parent : Nat
  /-- The name of the file it was started from. -/
  title : Bytes
  /-- Where its program is, if that is known. -/
  program : Place
  arguments : List Bytes
  environment : List Bytes
  directory : Place
  umask : Nat
  /-- What its open descriptors lead to. -/
  descriptors : List (Nat × Node)

namespace Running

/-- Bytes of a process's title. -/
def maxTitleLength : Nat := 15

/-- Strings one after another, each with its NUL. -/
def terminated (strings : List Bytes) : Bytes := strings.flatMap (· ++ [0])

/-- Octal digits of a number, at least `width` of them. -/
def octal (width n : Nat) : Bytes :=
  let digits := (Nat.toDigits 8 n).map fun digit => digit.toNat.toUInt8
  List.replicate (width - digits.length) 48 ++ digits

/-- The first lines of a process's status. -/
def status (running : Running) : Bytes :=
  let pid := Bytes.decimal running.pid
  utf8 "Name:\t" ++ running.title ++ utf8 "\nUmask:\t" ++ octal 4 running.umask ++
    utf8 "\nState:\tR (running)\nTgid:\t" ++ pid ++ utf8 "\nNgid:\t0\nPid:\t" ++ pid ++
    utf8 "\nPPid:\t" ++ Bytes.decimal running.parent ++ utf8 "\nTracerPid:\t0\n"

/-- Files of a process that are there, but whose content nobody looks at, with their modes. -/
def otherFiles : List (Nat × List String) :=
  [(0o444, ["arch_status", "cgroup", "cpuset", "limits", "maps", "mountinfo", "mounts", "numa_maps",
      "oom_score", "schedstat", "smaps", "smaps_rollup", "stat", "statm", "timers", "wchan"]),
   (0o400, ["auxv", "io", "ksm_merging_pages", "ksm_stat", "mountstats", "pagemap", "personality",
      "stack", "syscall"]),
   (0o644, ["autogroup", "coredump_filter", "gid_map", "projid_map", "sched", "setgroups",
      "timens_offsets", "uid_map"]),
   (0o200, ["clear_refs"]), (0o600, ["mem"]), (0o666, ["timerslack_ns"])]

/-- Directories of a process with nothing in them that anybody looks at. -/
def otherDirectories : List (Nat × String) :=
  [(0o555, "attr"), (0o500, "map_files"), (0o555, "net"), (0o511, "ns")]

/-- Numbers by which the system judges a process, each in a line of a file. -/
def scores : List (String × String) :=
  [("oom_adj", "0\n"), ("oom_score_adj", "0\n"), ("loginuid", "4294967295"), ("sessionid", "4294967295")]

/-- The nodes below a process's directory, each with its path from there. -/
def ownNodes (running : Running) : List (Place × Node) :=
  let node (name : String) (node : Node) : Place × Node := ([utf8 name], node)
  [node "cwd" (.link running.directory.path), node "root" (.link [Path.slash]),
   node "exe" (if running.program.isEmpty then .program running.title else .link running.program.path),
   node "fd" (.directory 0o500),
   node "fdinfo" (.directory 0o555),
   node "environ" (.file 0o400 (terminated running.environment)),
   node "cmdline" (.file 0o444 (terminated running.arguments)),
   node "comm" (.file 0o644 (running.title ++ [10])),
   node "status" (.file 0o444 running.status)] ++
  otherFiles.flatMap (fun (mode, names) => names.map (node · (.file mode []))) ++
  otherDirectories.map (fun (mode, name) => node name (.directory mode)) ++
  scores.map (fun (name, text) => node name (.file 0o644 (utf8 text))) ++
  running.descriptors.map fun (n, target) => ([utf8 "fd", Bytes.decimal n], target)

/-- The directory of a process. -/
def home (running : Running) : Place := [utf8 "proc", Bytes.decimal running.pid]

/-- Everything the tree shows of a process. -/
def nodes (running : Running) : List (Place × Node) :=
  let home := running.home
  let thread := home ++ [utf8 "task", Bytes.decimal running.pid]
  let below (place : Place) : List (Place × Node) :=
    (place, .directory 0o555) :: running.ownNodes.map fun (path, node) => (place ++ path, node)
  below home ++ (home ++ [utf8 "task"], .directory 0o555) :: below thread

end Running

/-- The tree with running processes in it, as the first of them sees it. -/
def Tree.withRunning (tree : Tree) : List Running → Tree
  | [] => tree
  | self :: others =>
    let pid := Bytes.decimal self.pid
    let link (name : String) (target : Bytes) : Place × Node :=
      ([utf8 "proc", utf8 name], .link target)
    let links := [link "self" pid, link "thread-self" (pid ++ utf8 "/task/" ++ pid)]
    { tree with nodes := links ++ (self :: others).flatMap Running.nodes ++ tree.nodes }

/-- Everything below `/proc` belongs to the kernel, and nobody can add to it. -/
def Place.isOfKernel (place : Place) : Bool := place.head? == some (utf8 "proc")

end CleanLaunch.Files
