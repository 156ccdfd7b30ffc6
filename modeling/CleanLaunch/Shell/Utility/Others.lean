import CleanLaunch.Shell.Lookup
import CleanLaunch.Shell.Utility.Input

/-! Programs of the system that are known only by what they say to arguments they cannot use, such as those
    of a shell. -/

namespace CleanLaunch.Shell.Utility

open Shell.Action

/-- Programs without a flag `c`, each with its status for flags it does not know. -/
def withoutCommandFlag : List (Nat × List String) :=
  [(1, ["logger", "wall", "arch", "chcon", "comm", "csplit", "dd",
     "df", "factor", "groups", "hostid", "join", "logname",
     "nproc", "numfmt", "pathchk", "pinky", "ptx", "shuf", "split", "sum", "sync", "tsort",
     "users", "who", "addpart", "choom", "chrt", "delpart", "ipcmk", "ipcrm",
     "last", "lsblk", "lslocks", "lsmem", "lsns", "mcookie", "mesg", "mountpoint", "namei", "partx",
     "rename.ul", "resizepart", "setpriv", "uclampset", "utmpdump", "wdctl", "blkdiscard", "chmem",
     "fsfreeze", "fstrim", "isosize", "readprofile", "rtcwake", "swaplabel", "zramctl"]),
   (2, ["getopt"]), (64, ["flock"]),
   (16, ["fsck.cramfs", "fsck.minix", "mkfs.cramfs"])]

/-- Programs that take the word behind a flag `c` for a file: how they name it, and their status if it cannot
    be opened. -/
def openingWord : List (String × Bool × Nat) :=
  [("b2sum", true, 1), ("md5sum", true, 1), ("cksum", true, 1), ("sha1sum", true, 1),
   ("sha224sum", true, 1), ("sha256sum", true, 1), ("sha384sum", true, 1), ("sha512sum", true, 1),
   ("dircolors", true, 1), ("pr", true, 1), ("cmp", false, 2), ("gzip", false, 1)]

/-- Runs a program that is not modelled. -/
def other (name : Bytes) (arguments : List Bytes) : Action Nat := do
  match arguments with
  | [45, 99] :: operands =>
    let among (names : List String) : Bool := (names.map utf8).contains name
    match withoutCommandFlag.find? fun (_, names) => among names with
    | some (status, _) => refuse status (utf8 "invalid option -- 'c'")
    | none =>
      match operands with
      | [word] =>
        match openingWord.find? fun (program, _) => utf8 program = name with
        | some (_, quotes, status) =>
          match ← content word with
          | .closed errno =>
            let shown ← if quotes then plainName word else pure word
            complain (shown ++ utf8 ": " ++ errno.wording)
            return status
          | _ => leave .abandoned
        | none =>
          if among ["stty"] then refuse 1 (utf8 "invalid argument '-c'")
          else if among ["mawk"] then
            complain (utf8 "not an option: -c")
            return 2
          else if among ["find"] then
            complain (utf8 "unknown predicate `-c'")
            return 1
          else leave .abandoned
      | _ => leave .abandoned
  | _ => leave .abandoned

/-- Prints where commands are found on the search path. -/
def which (arguments : List Bytes) : Action Nat := do
  let isFlags (word : Bytes) : Bool := word.head? == some 45 && 1 < word.length
  let flags := (arguments.takeWhile isFlags).flatMap (·.drop 1)
  let names := arguments.dropWhile isFlags
  match flags.find? fun letter => letter != 97 && letter != 115 && letter != 45 with
  | some letter =>
    printError (utf8 "Illegal option -" ++ [letter, 10])
    print (utf8 "Usage: /usr/bin/which [-as] args\n")
    finish 2 2
  | none =>
    let state ← get
    let path := (environmentValue? state "PATH").getD Lookup.defaultPath
    let status ← forInputs names fun name => do
      let files := if name.contains Path.slash then [name] else Lookup.candidates path name
      let found := files.filter fun file => state.tree.isExecutable state.directory file
      if !flags.contains 115 then
        print ((if flags.contains 97 then found else found.take 1).flatMap (· ++ [10]))
      return if found.isEmpty then 1 else 0
    finish (if names.isEmpty then 1 else status) 1

end CleanLaunch.Shell.Utility
