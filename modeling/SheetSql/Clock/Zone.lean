import SheetSql.Clock.Instant

namespace SheetSql

/-! Time zones: how far local time is ahead of UTC, and when that changes. -/

/-- From second `since` on, local time is `offset` seconds ahead of UTC. -/
structure Change where
  since : Int
  offset : Int
  deriving DecidableEq, Repr, Inhabited

namespace Change

def east (since offset : Nat) : Change := ⟨since, offset⟩

def west (since offset : Nat) : Change := ⟨since, -offset⟩

def oldEast (before offset : Nat) : Change := ⟨-before, offset⟩

def oldWest (before offset : Nat) : Change := ⟨-before, -offset⟩

end Change

structure Zone where
  name : String
  initial : Int
  changes : List Change
  deriving DecidableEq, Repr, Inhabited

namespace Zone

def offsetFrom (offset : Int) (second : Int) : List Change → Int
  | [] => offset
  | change :: later =>
    if second < change.since then offset else offsetFrom change.offset second later

def offsetAt (zone : Zone) (second : Int) : Int :=
  offsetFrom zone.initial second zone.changes

/--
The first second whose local time is `wall`, when `offset` holds from `start` up to the first of
the changes. A local time that a change skips has none.
-/
def earliestFrom (start : Option Int) (offset wall : Int) : List Change → Option Int
  | [] => if start.all (· ≤ wall - offset) then some (wall - offset) else none
  | change :: later =>
    if start.all (· ≤ wall - offset) && wall - offset < change.since then
      some (wall - offset)
    else earliestFrom (some change.since) change.offset wall later

def earliest? (zone : Zone) (wall : Int) : Option Int :=
  earliestFrom none zone.initial wall zone.changes

def offsetMinutes (zone : Zone) (moment : Instant) : Int :=
  (zone.offsetAt moment.seconds).tdiv 60

/--
The start of the local day of a moment. Where midnight is skipped it is the first of the next two
full hours that exists.
-/
def startOfDay (zone : Zone) (moment : Instant) : Instant :=
  let wall := moment.seconds + zone.offsetAt moment.seconds
  let midnight := wall - wall % 86400
  match [0, 3600, 7200].findSome? fun late => zone.earliest? (midnight + late) with
  | some second => ⟨second, 0⟩
  | none => moment

end Zone

end SheetSql
