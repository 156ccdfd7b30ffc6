import CleanLaunch.Calendar.Moment

/-! Times in the words of people, such as `2001-01-01 10:00 +2 days` or `next monday`.

    A phrase is cut into tokens, and the tokens are read as items: dates, times of day, days of the week, zones and
    distances. An item takes as many tokens as it can. What all items together say counts from the time of
    reading on. -/

namespace CleanLaunch.Calendar

namespace Phrase

/-- What distances are counted in. -/
inductive Measure
  | year | month | day | hour | minute | second
  deriving DecidableEq

/-- A number as it is written. -/
structure Digits where
  value : Int
  count : Nat
  isNegative : Bool := false

inductive Token
  | number (digits : Digits)
  /-- A number behind a sign. -/
  | signed (digits : Digits)
  /-- Seconds with parts of one. -/
  | decimal (isSigned : Bool) (seconds : Int) (nanoseconds : Nat)
  | half (isLater : Bool)
  | month (n : Nat)
  | weekday (n : Nat)
  | measure (measure : Measure) (factor : Int)
  | shift (days : Int)
  | ordinal (n : Int)
  | ago (factor : Int)
  /-- A zone, by the seconds that it is ahead. -/
  | zone (east : Int)
  /-- The same for a zone in summer. -/
  | summerZone (east : Int)
  /-- A name of the zone of the user, and whether it means summer, if that is clear. -/
  | localZone (isSummer : Option Bool)
  | summer
  /-- The letter that stands before times of day. -/
  | letterT
  /-- The letter that stands for the zone of the user. -/
  | letterJ
  | symbol (byte : UInt8)
  | unknown

def monthWords : List (String × Token) :=
  [("JANUARY", .month 1), ("FEBRUARY", .month 2), ("MARCH", .month 3), ("APRIL", .month 4), ("MAY", .month 5),
   ("JUNE", .month 6), ("JULY", .month 7), ("AUGUST", .month 8), ("SEPTEMBER", .month 9), ("SEPT", .month 9),
   ("OCTOBER", .month 10), ("NOVEMBER", .month 11), ("DECEMBER", .month 12), ("SUNDAY", .weekday 0),
   ("MONDAY", .weekday 1), ("TUESDAY", .weekday 2), ("TUES", .weekday 2), ("WEDNESDAY", .weekday 3),
   ("WEDNES", .weekday 3), ("THURSDAY", .weekday 4), ("THUR", .weekday 4), ("THURS", .weekday 4),
   ("FRIDAY", .weekday 5), ("SATURDAY", .weekday 6)]

def measureWords : List (String × Token) :=
  [("YEAR", .measure .year 1), ("MONTH", .measure .month 1), ("FORTNIGHT", .measure .day 14),
   ("WEEK", .measure .day 7), ("DAY", .measure .day 1), ("HOUR", .measure .hour 1),
   ("MINUTE", .measure .minute 1), ("MIN", .measure .minute 1), ("SECOND", .measure .second 1),
   ("SEC", .measure .second 1)]

def relativeWords : List (String × Token) :=
  [("TOMORROW", .shift 1), ("YESTERDAY", .shift (-1)), ("TODAY", .shift 0), ("NOW", .shift 0),
   ("LAST", .ordinal (-1)), ("THIS", .ordinal 0), ("NEXT", .ordinal 1), ("FIRST", .ordinal 1),
   ("THIRD", .ordinal 3), ("FOURTH", .ordinal 4), ("FIFTH", .ordinal 5), ("SIXTH", .ordinal 6),
   ("SEVENTH", .ordinal 7), ("EIGHTH", .ordinal 8), ("NINTH", .ordinal 9), ("TENTH", .ordinal 10),
   ("ELEVENTH", .ordinal 11), ("TWELFTH", .ordinal 12), ("AGO", .ago (-1)), ("HENCE", .ago 1)]

def universalWords : List String := ["GMT", "UT", "UTC"]

/-- Names of zones, each with the minutes it is ahead, and whether it is one in summer. -/
def zoneWords : List (String × Int × Bool) :=
  [("WET", 0, false), ("WEST", 0, true), ("BST", 0, true), ("ART", -180, false), ("BRT", -180, false),
   ("BRST", -180, true), ("NST", -210, false), ("NDT", -210, true), ("AST", -240, false), ("ADT", -240, true),
   ("CLT", -240, false), ("CLST", -240, true), ("EST", -300, false), ("EDT", -300, true), ("CST", -360, false),
   ("CDT", -360, true), ("MST", -420, false), ("MDT", -420, true), ("PST", -480, false), ("PDT", -480, true),
   ("AKST", -540, false), ("AKDT", -540, true), ("HST", -600, false), ("HAST", -600, false),
   ("HADT", -600, true), ("SST", -720, false), ("WAT", 60, false), ("CET", 60, false), ("CEST", 60, true),
   ("MET", 60, false), ("MEZ", 60, false), ("MEST", 60, true), ("MESZ", 60, true), ("EET", 120, false),
   ("EEST", 120, true), ("CAT", 120, false), ("SAST", 120, false), ("EAT", 180, false), ("MSK", 180, false),
   ("MSD", 180, true), ("IST", 330, false), ("SGT", 480, false), ("KST", 540, false), ("JST", 540, false),
   ("GST", 600, false), ("NZST", 720, false), ("NZDT", 720, true)]

/-- The zone that a letter stands for. -/
def letterZone? (letter : UInt8) : Option Token :=
  let hours (n : Int) : Option Token := some (.zone (n * 3600))
  if letter == 74 then some .letterJ
  else if letter == 84 then some .letterT
  else if letter == 90 then hours 0
  else if 65 ≤ letter && letter ≤ 73 then hours ((letter.toNat : Int) - 64)
  else if 75 ≤ letter && letter ≤ 77 then hours ((letter.toNat : Int) - 65)
  else if 78 ≤ letter && letter ≤ 89 then hours (77 - (letter.toNat : Int))
  else none

/-- The zone that a word in capitals stands for. -/
def zoneOf? (zone : Zone) (word : Bytes) : Option Token :=
  if universalWords.any fun name => utf8 name = word then some (.zone 0)
  else
    let isUsual := word = zone.usual.name
    let isSummer := zone.summer.any (·.offset.name = word)
    if isUsual && isSummer then some (.localZone none)
    else if isUsual then some (.localZone (some false))
    else if isSummer then some (.localZone (some true))
    else (zoneWords.find? fun entry => utf8 entry.1 = word).map fun (_, minutes, isSummer) =>
      if isSummer then .summerZone (minutes * 60) else .zone (minutes * 60)

/-- What a word in capitals means. -/
def wordToken (zone : Zone) (word : Bytes) : Token :=
  let among (words : List (String × Token)) (word : Bytes) : Option Token :=
    (words.find? fun entry => utf8 entry.1 = word).map (·.2)
  let isShort := word.length = 3 || (word.length = 4 && word.getLast? = some 46)
  let named := if isShort then
      (monthWords.find? fun entry => (utf8 entry.1).take 3 = word.take 3).map (·.2)
    else among monthWords word
  let withoutS := if word.getLast? = some 83 then among measureWords word.dropLast else none
  let half : Option Token :=
    if word = utf8 "AM" || word = utf8 "A.M." then some (.half false)
    else if word = utf8 "PM" || word = utf8 "P.M." then some (.half true)
    else none
  let letter := match word with
    | [letter] => letterZone? letter
    | _ => none
  let summer := if word = utf8 "DST" then some Token.summer else none
  let withoutPoints := if word.contains 46 then zoneOf? zone (word.filter (· != 46)) else none
  (half <|> named <|> zoneOf? zone word <|> summer <|> among measureWords word <|> withoutS <|>
    among relativeWords word <|> letter <|> withoutPoints).getD .unknown

def isSpace (byte : UInt8) : Bool := byte == 32 || (9 ≤ byte && byte ≤ 13)

/-- What is behind a remark in parentheses. -/
def pastRemark : (depth : Nat) → Bytes → Option Bytes
  | _, [] => none
  | depth, 40 :: rest => pastRemark (depth + 1) rest
  | depth, 41 :: rest => if depth ≤ 1 then some rest else pastRemark (depth - 1) rest
  | depth, _ :: rest => pastRemark depth rest

/-- A number at the head of a text, with its sign if there was one. -/
def numberToken (sign : Option Bool) (text : Bytes) : Token × Bytes :=
  let digits := text.takeWhile Bytes.isDigit
  let rest := text.drop digits.length
  let isNegative := sign == some true
  let value : Int := Zone.natural digits
  let value := if isNegative then -value else value
  let plain : Token :=
    let digits : Digits := ⟨value, digits.length, isNegative⟩
    if sign.isSome then .signed digits else .number digits
  match rest with
  | byte :: next :: _ =>
    if (byte == 46 || byte == 44) && Bytes.isDigit next then
      let parts := (rest.drop 1).takeWhile Bytes.isDigit
      let rest := rest.drop (parts.length + 1)
      let shown := Zone.natural (parts.take 9 ++ List.replicate (9 - parts.length) 48)
      let shown := if isNegative && (parts.drop 9).any (· != 48) then shown + 1 else shown
      if isNegative && shown ≠ 0 then (.decimal true (value - 1) (1000000000 - shown), rest)
      else (.decimal sign.isSome value shown, rest)
    else (plain, rest)
  | _ => (plain, rest)

/-- The tokens of a text. -/
def tokens (zone : Zone) : (bound : Nat) → Bytes → List Token
  | 0, _ | _, [] => []
  | bound + 1, byte :: rest =>
    if isSpace byte then tokens zone bound rest
    else if Bytes.isDigit byte then
      let (token, rest) := numberToken none (byte :: rest)
      token :: tokens zone bound rest
    else if byte == 45 || byte == 43 then
      let behind := rest.dropWhile isSpace
      if (behind.head?).any Bytes.isDigit then
        let (token, rest) := numberToken (some (byte == 45)) behind
        token :: tokens zone bound rest
      else tokens zone bound behind
    else if Zone.isLetter byte then
      let word := (byte :: rest).takeWhile fun byte => Zone.isLetter byte || byte == 46
      let capital := (word.take 19).map fun byte => if 97 ≤ byte && byte ≤ 122 then byte - 32 else byte
      wordToken zone capital :: tokens zone bound ((byte :: rest).drop word.length)
    else if byte == 40 then
      match pastRemark 1 rest with
      | some rest => tokens zone bound rest
      | none => []
    else .symbol byte :: tokens zone bound rest

/-- What has been read of a phrase. -/
structure Reading where
  year : Digits
  month : Int
  day : Int
  hour : Int
  minute : Int
  second : Int
  nanoseconds : Nat
  half : Option Bool := none
  weekday : Nat := 0
  weekdayOrdinal : Int := 0
  /-- The zone, by the seconds that it is ahead. -/
  east : Int := 0
  isSummer : Option Bool := none
  years : Int := 0
  months : Int := 0
  days : Int := 0
  hours : Int := 0
  minutes : Int := 0
  seconds : Int := 0
  parts : Int := 0
  dateCount : Nat := 0
  timeCount : Nat := 0
  weekdayCount : Nat := 0
  zoneCount : Nat := 0
  localZoneCount : Nat := 0
  summerCount : Nat := 0
  hasDistance : Bool := false

namespace Reading

def add (reading : Reading) (measure : Measure) (count : Int) : Reading :=
  let reading := { reading with hasDistance := true }
  match measure with
  | .year => { reading with years := reading.years + count }
  | .month => { reading with months := reading.months + count }
  | .day => { reading with days := reading.days + count }
  | .hour => { reading with hours := reading.hours + count }
  | .minute => { reading with minutes := reading.minutes + count }
  | .second => { reading with seconds := reading.seconds + count }

def setTime (reading : Reading) (hour minute second : Int) (nanoseconds : Nat) (half : Option Bool) : Reading :=
  { reading with hour, minute, second, nanoseconds, half, timeCount := reading.timeCount + 1 }

def setDate (reading : Reading) (year : Option Digits) (month day : Int) : Reading :=
  { reading with year := year.getD reading.year, month, day, dateCount := reading.dateCount + 1 }

/-- A number without anything behind it: a year, a date, or a time of day. -/
def setNumber (reading : Reading) (number : Digits) : Reading :=
  if reading.dateCount ≠ 0 && reading.year.count = 0 && !reading.hasDistance &&
      (reading.timeCount ≠ 0 || 2 < number.count) then
    { reading with year := number }
  else if 4 < number.count then
    reading.setDate (some ⟨number.value / 10000, number.count - 4, false⟩) (number.value / 100 % 100)
      (number.value % 100)
  else if number.count ≤ 2 then reading.setTime number.value 0 0 0 none
  else reading.setTime (number.value / 100) (number.value % 100) 0 0 none

/-- A distance from universal time, if it is one. -/
def setZone (reading : Reading) (hours : Digits) (minutes : Option Digits) (base : Int) : Option Reading :=
  let total : Int := match minutes with
    | some minutes => hours.value * 60 + (if hours.isNegative then -minutes.value else minutes.value)
    | none =>
      let value := if hours.count ≤ 2 then hours.value * 100 else hours.value
      value.tdiv 100 * 60 + value.tmod 100
  if total < -1440 || 1440 < total then none
  else some { reading with east := total * 60 + base }

end Reading

def opposite (digits : Digits) : Digits := { digits with value := -digits.value, isNegative := false }

/-- Minutes of a zone behind a colon, if there are any. -/
def zoneMinutes (tokens : List Token) : Option Digits × List Token :=
  match tokens with
  | .symbol 58 :: .number minutes :: rest => (some minutes, rest)
  | _ => (none, tokens)

/-- A zone that may stand behind a time of day. -/
def zoneBehind (reading : Reading) (tokens : List Token) : Option (Reading × List Token) :=
  match tokens with
  | .signed hours :: rest => do
    let (minutes, rest) := zoneMinutes rest
    let reading ← reading.setZone hours minutes 0
    return ({ reading with zoneCount := reading.zoneCount + 1 }, rest)
  | _ => some (reading, tokens)

/-- What may stand behind the hours of a time of day. `takesHalf` says that this can be half of a day. -/
def timeBehind (reading : Reading) (hour : Digits) (takesHalf : Bool) (tokens : List Token) :
    Option (Reading × List Token) :=
  let finish (minute second : Int) (nanoseconds : Nat) (rest : List Token) : Option (Reading × List Token) :=
    match rest, takesHalf with
    | .half isLater :: rest, true =>
      some (reading.setTime hour.value minute second nanoseconds (some isLater), rest)
    | rest, _ => zoneBehind (reading.setTime hour.value minute second nanoseconds none) rest
  match tokens with
  | .symbol 58 :: .number minute :: .symbol 58 :: .number second :: rest => finish minute.value second.value 0 rest
  | .symbol 58 :: .number minute :: .symbol 58 :: .decimal false seconds nanoseconds :: rest =>
    finish minute.value seconds nanoseconds rest
  | .symbol 58 :: .number _ :: .symbol 58 :: _ => none
  | .symbol 58 :: .number minute :: rest => finish minute.value 0 0 rest
  | .signed _ :: _ => zoneBehind (reading.setTime hour.value 0 0 0 none) tokens
  | _ => none

/-- A distance whose number has been read, and whether it lies in the past. -/
def distance (reading : Reading) (measure : Measure) (count : Int) (tokens : List Token) :
    Option (Reading × List Token) :=
  match tokens with
  | .ago factor :: rest => some (reading.add measure (count * factor), rest)
  | _ => some (reading.add measure count, tokens)

/-- Seconds with parts of one as a distance. -/
def decimalDistance (reading : Reading) (seconds : Int) (nanoseconds : Nat) (tokens : List Token) :
    Option (Reading × List Token) :=
  let (factor, rest) : Int × List Token := match tokens with
    | .ago factor :: rest => (factor, rest)
    | _ => (1, tokens)
  let reading := reading.add .second (seconds * factor)
  some ({ reading with parts := reading.parts + nanoseconds * factor }, rest)

/-- Reads an item. -/
def item (reading : Reading) (tokens : List Token) : Option (Reading × List Token) :=
  match tokens with
  | [] => none
  | .number n :: rest =>
    match rest with
    | .half isLater :: rest => some (reading.setTime n.value 0 0 0 (some isLater), rest)
    | .symbol 58 :: _ => timeBehind reading n true rest
    | .symbol 47 :: .number second :: .symbol 47 :: .number third :: rest =>
      if 4 ≤ n.count then some (reading.setDate (some n) second.value third.value, rest)
      else some (reading.setDate (some third) n.value second.value, rest)
    | .symbol 47 :: .number second :: rest => some (reading.setDate none n.value second.value, rest)
    | .month month :: .signed year :: rest => some (reading.setDate (some (opposite year)) month n.value, rest)
    | .month month :: .number year :: rest => some (reading.setDate (some year) month n.value, rest)
    | .month month :: rest => some (reading.setDate none month n.value, rest)
    | .weekday day :: rest =>
      some ({ reading with
        weekday := day, weekdayOrdinal := n.value, weekdayCount := reading.weekdayCount + 1 }, rest)
    | .measure measure factor :: rest => distance reading measure (n.value * factor) rest
    | .signed month :: .signed day :: rest =>
      let reading := reading.setDate (some n) (-month.value) (-day.value)
      match rest with
      | .letterT :: .number hour :: rest => timeBehind reading hour false rest
      | .letterT :: _ => none
      | _ => some (reading, rest)
    | .signed count :: .measure measure factor :: rest =>
      some ((reading.setNumber n).add measure (count.value * factor), rest)
    | .signed _ :: _ => timeBehind reading n false rest
    | _ => some (reading.setNumber n, rest)
  | .signed count :: .measure measure factor :: rest => distance reading measure (count.value * factor) rest
  | .decimal _ seconds nanoseconds :: .measure .second _ :: rest => decimalDistance reading seconds nanoseconds rest
  | .month month :: .signed day :: .signed year :: rest =>
    some (reading.setDate (some (opposite year)) month (-day.value), rest)
  | .month _ :: .signed _ :: _ => none
  | .month month :: .number day :: .symbol 44 :: .number year :: rest =>
    some (reading.setDate (some year) month day.value, rest)
  | .month month :: .number day :: rest => some (reading.setDate none month day.value, rest)
  | .weekday day :: rest =>
    let rest := match rest with
      | .symbol 44 :: rest => rest
      | rest => rest
    some ({ reading with weekday := day, weekdayOrdinal := 0, weekdayCount := reading.weekdayCount + 1 }, rest)
  | .ordinal n :: .weekday day :: rest =>
    some ({ reading with weekday := day, weekdayOrdinal := n, weekdayCount := reading.weekdayCount + 1 }, rest)
  | .ordinal n :: .measure measure factor :: rest => distance reading measure (n * factor) rest
  | .measure measure factor :: rest => distance reading measure factor rest
  | .shift days :: rest => some (reading.add .day days, rest)
  | .zone east :: rest => zoneItem { reading with east, zoneCount := reading.zoneCount + 1 } rest
  | .letterT :: rest => letterItem { reading with east := -7 * 3600, zoneCount := reading.zoneCount + 1 } rest
  | .summerZone east :: rest =>
    some ({ reading with east := east + 3600, zoneCount := reading.zoneCount + 1 }, rest)
  | .localZone isSummer :: rest =>
    let reading := { reading with isSummer, localZoneCount := reading.localZoneCount + 1 }
    match rest with
    | .summer :: rest => some ({ reading with isSummer := some true, summerCount := reading.summerCount + 1 }, rest)
    | _ => some (reading, rest)
  | .letterJ :: rest => some (reading, rest)
  | _ => none
where
  /-- What may stand behind the letter for a zone. -/
  letterItem (reading : Reading) (rest : List Token) : Option (Reading × List Token) :=
    match rest with
    | .signed count :: .measure measure factor :: rest => some (reading.add measure (count.value * factor), rest)
    | _ => some (reading, rest)
  /-- What may stand behind the name of a zone. -/
  zoneItem (reading : Reading) (rest : List Token) : Option (Reading × List Token) :=
    match rest with
    | .signed _ :: .measure .. :: _ => letterItem reading rest
    | .signed hours :: rest => do
      let (minutes, rest) := zoneMinutes rest
      return (← reading.setZone hours minutes reading.east, rest)
    | .summer :: rest => some ({ reading with east := reading.east + 3600 }, rest)
    | _ => some (reading, rest)

/-- Reads all items. -/
def items : (bound : Nat) → Reading → List Token → Option Reading
  | _, reading, [] => some reading
  | 0, _, _ => none
  | bound + 1, reading, tokens => do
    let (reading, rest) ← item reading tokens
    items bound reading rest

/-- The year that digits stand for. -/
def fullYear (year : Digits) : Int :=
  let size := (year.value.natAbs : Int)
  if year.count = 2 && 0 ≤ year.value then (if size < 69 then size + 2000 else size + 1900) else size

/-- The hour of the day. -/
def fullHour? (hour : Int) (half : Option Bool) : Option Int :=
  match half with
  | none => if 0 ≤ hour && hour < 24 then some hour else none
  | some isLater =>
    let hour? := if 0 < hour && hour < 12 then some hour else if hour = 12 then some 0 else none
    hour?.map fun hour => if isLater then hour + 12 else hour

/-- The time that a reading means. -/
def timeOf (zone : Zone) (now : Moment) (reading : Reading) : Option (Int × Nat) := do
  if 1 < reading.timeCount || 1 < reading.dateCount || 1 < reading.weekdayCount || 1 < reading.summerCount ||
      1 < reading.localZoneCount + reading.zoneCount then none
  let keepsTime := reading.timeCount ≠ 0 ||
    (reading.hasDistance && reading.dateCount = 0 && reading.weekdayCount = 0)
  let hour ← if keepsTime then fullHour? reading.hour reading.half else some 0
  let nanoseconds := if keepsTime then reading.nanoseconds else 0
  let fields : Fields := {
    year := fullYear reading.year, month := reading.month, day := reading.day, hour
    minute := if keepsTime then reading.minute else 0, second := if keepsTime then reading.second else 0 }
  let isAbsolute := reading.dateCount ≠ 0 || reading.weekdayCount ≠ 0 || reading.timeCount ≠ 0
  let isSummer := if reading.localZoneCount ≠ 0 then reading.isSummer
    else if isAbsolute then none else some now.offset.isSummer
  let start := fields.seconds zone isSummer
  let shown := Moment.ofSeconds zone start 0
  let isShown (moment : Moment) : Bool :=
    moment.year = fields.year && moment.month = fields.month && moment.day = fields.day &&
      moment.hour = fields.hour && moment.minute = fields.minute && moment.second = fields.second
  -- a time that is skipped here is there in another zone
  let isPlain := isShown (Moment.ofSeconds Zone.universal fields.plain 0)
  if !(isShown shown || (reading.zoneCount ≠ 0 && isPlain)) then none
  let (start, fields) :=
    if reading.weekdayCount ≠ 0 && reading.dateCount = 0 then
      let weeks := reading.weekdayOrdinal -
        (if 0 < reading.weekdayOrdinal && shown.weekday ≠ reading.weekday then 1 else 0)
      let fields := { fields with
        day := fields.day + weeks * 7 + ((reading.weekday : Int) - shown.weekday).fmod 7 }
      (fields.seconds zone none, fields)
    else (start, fields)
  let start :=
    if reading.years ≠ 0 || reading.months ≠ 0 || reading.days ≠ 0 then
      let fields := { fields with
        year := fields.year + reading.years, month := fields.month + reading.months
        day := fields.day + reading.days }
      fields.seconds zone isSummer
    else start
  let start := if reading.zoneCount ≠ 0 then
      start - (reading.east - (Moment.ofSeconds zone start 0).offset.east)
    else start
  let parts := (nanoseconds : Int) + reading.parts
  let seconds := start + reading.hours * 3600 + reading.minutes * 60 + reading.seconds + parts.fdiv 1000000000
  return (seconds, (parts.fmod 1000000000).toNat)

/-- A zone in quotation marks at the head of a phrase, and what is behind it. -/
def leadingZone (zone : Zone) (text : Bytes) : Zone × Bytes :=
  let start := utf8 "TZ=\""
  if start.isPrefixOf text then
    let name := (text.drop start.length).takeWhile (· != 34)
    let rest := text.drop (start.length + name.length)
    if rest.head? == some 34 then (Zone.read name, rest.drop 1) else (zone, text)
  else (zone, text)

/-- The time that a phrase means: seconds since 1970 and parts of the next one. -/
def read (zone : Zone) (seconds : Int) (nanoseconds : Nat) (text : Bytes) : Option (Int × Nat) :=
  let (zone, text) := leadingZone zone (text.dropWhile isSpace)
  let text := text.dropWhile isSpace
  let now := Moment.ofSeconds zone seconds nanoseconds
  let found := tokens zone (text.length + 1) (if text.isEmpty then [48] else text)
  match found with
  | .symbol 64 :: rest =>
    match rest with
    | [.number n] | [.signed n] => some (n.value, 0)
    | [.decimal _ seconds nanoseconds] => some (seconds, nanoseconds)
    | _ => none
  | found =>
    let start : Reading := {
      year := ⟨now.year, 0, false⟩, month := now.month, day := now.day, hour := now.hour, minute := now.minute
      second := now.second, nanoseconds }
    (items (found.length + 1) start found).bind (timeOf zone now)

end Phrase

end CleanLaunch.Calendar
