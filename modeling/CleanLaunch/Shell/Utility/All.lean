import CleanLaunch.Shell.Utility.Columns
import CleanLaunch.Shell.Utility.Conditions
import CleanLaunch.Shell.Utility.Copying.Commands
import CleanLaunch.Shell.Utility.Counting
import CleanLaunch.Shell.Utility.Dates
import CleanLaunch.Shell.Utility.Dump
import CleanLaunch.Shell.Utility.Editing.Running
import CleanLaunch.Shell.Utility.Encoding
import CleanLaunch.Shell.Utility.Ends
import CleanLaunch.Shell.Utility.Expressions
import CleanLaunch.Shell.Utility.Filling
import CleanLaunch.Shell.Utility.Formatting
import CleanLaunch.Shell.Utility.Gathering
import CleanLaunch.Shell.Utility.Inspecting
import CleanLaunch.Shell.Utility.Linking
import CleanLaunch.Shell.Utility.Listing.Running
import CleanLaunch.Shell.Utility.Making
import CleanLaunch.Shell.Utility.Others
import CleanLaunch.Shell.Utility.Permissions
import CleanLaunch.Shell.Utility.Removing
import CleanLaunch.Shell.Utility.Repeats
import CleanLaunch.Shell.Utility.Search
import CleanLaunch.Shell.Utility.Sequence
import CleanLaunch.Shell.Utility.Surroundings
import CleanLaunch.Shell.Utility.Tabs
import CleanLaunch.Shell.Utility.Text
import CleanLaunch.Shell.Utility.Timing
import CleanLaunch.Shell.Utility.Translation
import CleanLaunch.Shell.Utility.Words

/-! The table of the system's utilities. -/

namespace CleanLaunch.Shell.Utility

open Shell.Action

/-- Utilities that start no other program. -/
def plain : List (String × (List Bytes → Action Nat)) :=
  [("cat", cat), ("head", head), ("tail", tail), ("tac", tac), ("rev", rev), ("wc", wc), ("tee", tee),
   ("tr", tr), ("sort", sort), ("uniq", uniq), ("cut", cut), ("paste", paste), ("nl", nl),
   ("fold", fold), ("fmt", fmt), ("expand", expand), ("unexpand", unexpand), ("od", od),
   ("base64", encodeIn .base64), ("base32", encodeIn .base32), ("basenc", basenc),
   ("grep", grep 'G'), ("egrep", grep 'E'), ("fgrep", grep 'F'),
   ("seq", seq), ("echo", echo), ("printf", printf), ("yes", yes), ("expr", expr), ("date", date),
   ("test", test), ("[", bracket), ("true", nothing 0), ("false", nothing 1),
   ("ls", ls), ("dir", dir), ("vdir", vdir), ("stat", stat), ("readlink", readlink), ("realpath", realpath),
   ("touch", touch), ("mkdir", mkdir), ("mkfifo", mkfifo), ("mknod", mknod), ("mktemp", mktemp),
   ("truncate", truncate), ("rmdir", rmdir), ("rm", rm), ("ln", ln), ("link", link), ("unlink", unlink),
   ("chmod", chmod), ("chown", changeOwner false), ("chgrp", changeOwner true), ("cp", cp), ("mv", mv),
   ("install", install), ("basename", basename), ("dirname", dirname), ("printenv", printenv),
   ("pwd", pwd), ("sleep", sleep), ("id", account), ("whoami", whoami), ("uname", uname), ("tty", tty),
   ("which.debianutils", which)]

/-- Utilities that start another program. -/
def starters : List (String × (Runner → List Bytes → Action Nat)) :=
  [("env", env), ("nohup", nohup), ("nice", nice), ("setsid", setsid), ("timeout", timeout),
   ("stdbuf", stdbuf), ("xargs", xargs), ("sed", sed)]

/-- Runs a utility on its arguments. -/
def run (run : Runner) (name : Bytes) (arguments : List Bytes) : Action Nat :=
  match plain.find? fun entry => utf8 entry.1 = name with
  | some (_, utility) => utility arguments
  | none => match starters.find? fun entry => utf8 entry.1 = name with
    | some (_, utility) => utility run arguments
    | none => other name arguments

end CleanLaunch.Shell.Utility
