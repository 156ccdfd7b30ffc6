import CleanLaunch.Shell.Extended.Outline

/-! How the outline of commands is shown.

    The body of a function has a line for each command, and what is inside of others is indented. Elsewhere,
    lists stay on one line. Lines of here-documents follow the redirections, but not before the sign that joins
    their command with the next one; after them, no sign ends a command. -/

namespace CleanLaunch.Shell

namespace Outline

/-- The page that commands are shown on. -/
structure Page where
  /-- Blanks that a level is indented by. -/
  step : Nat := 4
  /-- The text so far, the last piece first. -/
  pieces : List Bytes := []
  indentation : Nat := 0
  /-- Begins the next command where the text ends? -/
  staysOnLine : Bool := false
  /-- Functions, and joined commands, around what is shown. -/
  functions : Nat := 0
  joints : Nat := 0
  /-- Here-documents whose lines are still to be shown. -/
  waiting : List Bytes := []
  /-- Have lines of a here-document just been shown? -/
  afterLines : Bool := false

namespace Page

def text (page : Page) : Bytes := page.pieces.reverse.flatten

/-- The last byte of the text. -/
def last? (page : Page) : Option UInt8 :=
  (page.pieces.find? (!·.isEmpty)).bind (·.getLast?)

def add (page : Page) (text : Bytes) : Page := { page with pieces := text :: page.pieces }

def say (page : Page) (text : String) : Page := page.add (utf8 text)

def indent (page : Page) : Page := page.add (List.replicate page.indentation 32)

/-- Begins a line with a text. -/
def line (page : Page) (text : String) : Page := ((page.add [10]).indent).say text

def deeper (page : Page) : Page := { page with indentation := page.indentation + page.step }

def shallower (page : Page) : Page := { page with indentation := page.indentation - page.step }

def stay (page : Page) : Page := { page with staysOnLine := true }

/-- Ends a command, unless a sign or a line has ended it. -/
def semicolon (page : Page) : Page :=
  match page.last? with
  | some 38 | some 10 => page
  | _ => page.say ";"

/-- The lines of here-documents. -/
def documents (page : Page) (all : List Bytes) : Page :=
  { page.add (10 :: all.flatMap (· ++ [10])) with afterLines := true }

/-- Shows a sign, and the lines that have been waiting for it. -/
def release (page : Page) (sign : String) : Page :=
  let page := if sign = ";" then page else page.say sign
  if page.waiting.isEmpty then page
  else
    let page := { page.documents page.waiting with waiting := [] }
    if sign.isEmpty || sign = ";" then page else page.say " "

/-- Shows redirections. -/
def redirections (page : Page) (redirects : List Redirection) : Page :=
  let page := { page with afterLines := false }
  let page := page.add (Bytes.joinWith [32] (redirects.map (·.text)))
  let lines := redirects.filterMap (·.lines?)
  if lines.isEmpty then page
  else if 0 < page.joints then { page with waiting := lines }
  else page.documents lines

/-- Shows how the next command follows. -/
def joint (page : Page) (joint : Joint) (hasNext : Bool) : Page :=
  let goOn (page : Page) : Page := if hasNext then page.stay else page
  match joint with
  | .both => goOn (page.release " && ")
  | .either => goOn (page.release " || ")
  | .pipe => (page.release " |").say " " |>.stay
  | .background =>
    let page := page.release " &"
    if hasNext then (page.say " ").stay else page
  | .next | .newline =>
    let inFunction : Bool := 0 < page.functions
    let page :=
      if !page.waiting.isEmpty then page.release (if inFunction then "" else ";")
      else if page.afterLines then { page with afterLines := false }
      else page.say (if joint = .newline then "\n" else ";")
    if inFunction then page.say "\n"
    else goOn (if joint = .newline then page else page.say " ")

end Page

def shownEnding : ArmEnd → String
  | .leave => ";;"
  | .enterNext => ";&"
  | .testNext => ";;&"

mutual

/-- Shows a command. -/
def Item.page (page : Page) : Item → Page
  | .nothing => page
  | .simple words redirects =>
    let page := (start page).add (Bytes.joinWith [32] words)
    if redirects.isEmpty then page
    else (if words.isEmpty then page else page.say " ").redirections redirects
  | .bracketed text => (start page).add text
  | .marked time negated item =>
    let page := start page
    let page := match time with
      | none => page
      | some portable => page.say (if portable then "time -p " else "time ")
    item.page (if negated then page.say "! " else page).stay
  | .joined first joint second =>
    let page := first.page { (start page).stay with joints := page.joints + 1 }
    let page := (second.page (page.joint joint !second.isNothing)).release ""
    { page with joints := page.joints - 1 }
  | .group body =>
    let page := (start page).say "\x7b "
    if 0 < page.functions then
      let page := (body.page (page.say "\n").deeper).release ""
      ((page.say "\n").shallower).indent.say "\x7d"
    else (((body.page page.stay).release "").semicolon).say " \x7d"
  | .subshell body => ((body.page ((start page).say "( ").stay).release "").say " )"
  | .conditional test yes no =>
    let page := ((test.page ((start page).say "if ").stay).semicolon).say " then\n"
    let page := ((yes.page page.deeper).release "").shallower
    let page := if no.isNothing then page
      else ((no.page ((page.semicolon).line "else\n").deeper).release "").shallower
    page.semicolon.line "fi"
  | .loop kind test body =>
    let head := match kind with
      | .whileSucceeds => "while "
      | .untilSucceeds => "until "
    let page := ((test.page ((start page).say head).stay).release "").semicolon.say " do\n"
    ((body.page page.deeper).release "").shallower.semicolon.line "done"
  | .counted head body =>
    let page := ((start page).add head).line "do\n"
    (((body.page page.deeper).release "").semicolon).shallower.line "done"
  | .choice subject arms =>
    let page := (start page).say "case " |>.add subject |>.say " in "
    ((arms.page page.deeper).shallower).line "esac"
  | .function name body =>
    let page := ((start page).add name).say " () \n"
    functionBody page body
  | .redirected body redirects => ((body.page page).say " ").redirections redirects
where
  /-- The place where a command begins. -/
  start (page : Page) : Page :=
    if page.staysOnLine then { page with staysOnLine := false } else page.indent

def Arms.page (page : Page) : Arms → Page
  | .done => page
  | .arm patterns body ending rest =>
    let page := ((page.line "").add (Bytes.joinWith (utf8 " | ") patterns)).say ")\n"
    let page := ((body.page page.deeper).shallower).release ""
    rest.page (page.line (shownEnding ending))

/-- Shows the body of a function, with the braces around it. -/
def functionBody (page : Page) (body : Item) : Page :=
  let page := page.indent.say "\x7b \n"
  let page := { page.deeper with functions := page.functions + 1 }
  let leave (page : Page) : Page :=
    let page := (page.release "").shallower
    { page with functions := page.functions - 1 }
  match body with
  | .group body => (leave (body.page page)).line "\x7d"
  | .redirected (.group body) redirects =>
    ((leave (body.page page)).line "\x7d ").redirections redirects
  | body => (leave (body.page page)).line "\x7d"

end

/-- A command as it is shown by itself. -/
def shownItem (item : Item) : Bytes := ((item.page { staysOnLine := true }).release "").text

/-- A list of commands as it is shown on one line. -/
def shownList (keepsLines : Bool) (documents : List (Nat × HereText)) (written : List Written) : Bytes :=
  ((ofWritten? keepsLines documents written).map shownItem).getD []

/-- The stages of a pipeline. -/
def stages : Item → List Item
  | .joined first .pipe second => first :: stages second
  | item => [item]

/-- The stages of a pipeline as they are shown, each by itself. -/
def shownStages (documents : List (Nat × HereText)) (written : List Written) : List Bytes :=
  match ofWritten? false documents written with
  | some item => (stages item).map shownItem
  | none => []

/-- A function as it is shown. -/
def shownFunction (documents : List (Nat × HereText)) (name : Bytes) (written : List Written) : Bytes :=
  let isReserved := (Keyword.all .extended).any fun keyword => utf8 keyword.text = name
  match bodyOf? documents written with
  | some body =>
    let page : Page := ({} : Page).add ((if isReserved then utf8 "function " else []) ++ name ++ utf8 " () \n")
    (functionBody page body).text ++ [10]
  | none => []

/-- A function as it is passed on to programs: without its name, and hardly indented. -/
def passedFunction (documents : List (Nat × HereText)) (written : List Written) : Bytes :=
  match bodyOf? documents written with
  | some body =>
    let page : Page := ({ step := 0, indentation := 1 } : Page).say "() \x7b "
    let page := { page with functions := 1 }
    let (body, redirects) : Item × List Redirection := match body with
      | .group body => (body, [])
      | .redirected (.group body) redirects => (body, redirects)
      | body => (body, [])
    let page := { (body.page page).release "" with indentation := 0, functions := 0 }
    if redirects.isEmpty then (page.line "\x7d").text
    else ((page.line "\x7d ").redirections redirects).text
  | none => []

end Outline

end CleanLaunch.Shell
