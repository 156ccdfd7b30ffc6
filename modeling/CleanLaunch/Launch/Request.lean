import CleanLaunch.Environ.Entry
import CleanLaunch.Path.Search

/-! Requests to launch a command. -/

namespace CleanLaunch

/-- The shell that interprets a command when no other is asked for. -/
def defaultShell : Bytes := utf8 "/bin/sh"

/-- How to launch a command: its text, the path of the shell, the inherited keys it may see, and the
    entries it gets besides. -/
structure Request where
  command : Bytes
  shell : Bytes := defaultShell
  allowlist : Allowlist := .standard
  extra : Option (List Bytes) := none
  deriving DecidableEq

namespace Request

/-- Asks for the shell found under a name. -/
def withShell (request : Request) (context : Path.SearchContext) (name : Bytes) :
    Except LaunchError Request :=
  match context.find name with
  | .ok path => .ok { request with shell := path }
  | .error error => .error (.shellNotFound error)

def withAllowlist (request : Request) (allowlist : Allowlist) : Request :=
  { request with allowlist }

def withExtra (request : Request) (extra : List Bytes) : Request :=
  { request with extra := some extra }

/-- One way a caller changes a request. -/
inductive Change
  | shellNamed (name : Bytes)
  | shellAt (path : Bytes)
  | allowlist (allowlist : Allowlist)
  | extra (entries : List Bytes)

def apply (request : Request) (context : Path.SearchContext) :
    Change → Except LaunchError Request
  | .shellNamed name => request.withShell context name
  | .shellAt path => .ok { request with shell := path }
  | .allowlist allowlist => .ok (request.withAllowlist allowlist)
  | .extra entries => .ok (request.withExtra entries)

/-- Applies changes in order. The requests are those before, between and after them; the first
    change that fails ends the list with its error. -/
def build (request : Request) (context : Path.SearchContext) :
    List Change → List (Except LaunchError Request)
  | [] => [.ok request]
  | change :: rest =>
    match request.apply context change with
    | .error error => [.ok request, .error error]
    | .ok changed => .ok request :: changed.build context rest

end Request

end CleanLaunch
