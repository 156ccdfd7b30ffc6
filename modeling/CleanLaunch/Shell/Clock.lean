import CleanLaunch.Calendar.Moment
import CleanLaunch.Shell.State

/-! The zone that the clocks of a process are in. -/

namespace CleanLaunch.Shell.Clock

open Shell.Action
open Calendar (Zone)

/-- The variable that describes the zone. -/
def variableName : Bytes := utf8 "TZ"

/-- The zone that a text describes; without one it is universal time. Zones that are known by places are not
    followed here. -/
def zone (text : Option Bytes) : Action Zone := do
  match text with
  | none => return Zone.universal
  | some text =>
    let name := if text.head? == some 58 then text.drop 1 else text
    let first := name.takeWhile fun byte => Zone.isLetter byte || byte == 95 || byte == 46
    if (name.drop first.length).head? == some Path.slash then leave .abandoned
    return Zone.read text

end CleanLaunch.Shell.Clock
