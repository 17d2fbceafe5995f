import PatternBuild.Shell.Tool.Quantity

/-!
# Calendar

Moments are taken apart into dates and times, as the clocks of some zone show them, and written by
formats.
-/

/-!
## Calendar: moments as dates

A moment is a number of nanoseconds since the start of 1970.  `Moment.date` takes one apart and
`Date.moment` puts it together; a month or a day beyond its bounds counts on into the next ones.
`weekOf` counts weeks as the calendar of weeks does.
-/

namespace PatternBuild.Shell.Calendar

/-- a number of nanoseconds since the start of 1970 -/
abbrev Moment := Int

/-- a date with its time of day -/
structure Date where
  year : Int
  /-- from 1 to 12, and from 1 to 31 -/
  month : Nat
  day : Nat
  hour : Nat
  minute : Nat
  second : Nat
  nano : Nat
  deriving DecidableEq, Repr

/-! ### days -/

/-- the number of days from the start of 1970 to a date; years begin in March here, so that the day
that leap years add is the last one -/
def daysTo (year : Int) (month day : Nat) : Int :=
  let y := if month ≤ 2 then year - 1 else year
  let era := y.fdiv 400
  let yearOfEra := y - era * 400
  let m : Int := if month ≤ 2 then (month : Int) + 9 else (month : Int) - 3
  let dayOfYear := (153 * m + 2) / 5 + day - 1
  let dayOfEra := yearOfEra * 365 + yearOfEra / 4 - yearOfEra / 100 + dayOfYear
  era * 146097 + dayOfEra - 719468

/-- the year, month and day of a number of days since the start of 1970 -/
def dayOf (days : Int) : Int × Nat × Nat :=
  let z := days + 719468
  let era := z.fdiv 146097
  let dayOfEra := z - era * 146097
  let yearOfEra := (dayOfEra - dayOfEra / 1460 + dayOfEra / 36524 - dayOfEra / 146096) / 365
  let dayOfYear := dayOfEra - (365 * yearOfEra + yearOfEra / 4 - yearOfEra / 100)
  let m := (5 * dayOfYear + 2) / 153
  let day := dayOfYear - (153 * m + 2) / 5 + 1
  let month := if m < 10 then m + 3 else m - 9
  let year := yearOfEra + era * 400
  (if month ≤ 2 then year + 1 else year, month.toNat, day.toNat)

def oneSecond : Int := 1000000000
def oneMinute : Int := 60 * oneSecond
def oneHour : Int := 60 * oneMinute
def oneDay : Int := 24 * oneHour

/-- a moment as a date -/
def dateOf (t : Moment) : Date :=
  let days := t.fdiv oneDay
  let rest := (t - days * oneDay).toNat
  let (year, month, d) := dayOf days
  { year, month, day := d
    hour := rest / 3600000000000
    minute := rest / 60000000000 % 60
    second := rest / 1000000000 % 60
    nano := rest % 1000000000 }

/-- a date as a moment -/
def Date.moment (d : Date) : Moment :=
  let months : Int := d.year * 12 + d.month - 1
  let year := months.fdiv 12
  let month := (months - year * 12).toNat + 1
  daysTo year month 1 * oneDay + ((d.day : Int) - 1) * oneDay + d.hour * oneHour + d.minute * oneMinute +
    d.second * oneSecond + d.nano

def weekdays : List String :=
  ["Sunday", "Monday", "Tuesday", "Wednesday", "Thursday", "Friday", "Saturday"]

def months : List String :=
  ["January", "February", "March", "April", "May", "June", "July", "August", "September", "October",
    "November", "December"]

/-- the day of the week of a moment, counted from Sunday -/
def weekday (t : Moment) : Nat := ((t.fdiv oneDay + 4) % 7).toNat

/-- the day of the year, counted from 0 -/
def yearDay (d : Date) : Nat := (daysTo d.year d.month d.day - daysTo d.year 1 1).toNat

/-- the year and the number of the week that a date belongs to; weeks start on Monday, and the first
one holds the first Thursday -/
def weekOf (t : Moment) : Int × Nat :=
  let days := t.fdiv oneDay
  let fromMonday : Int := (days + 3) % 7
  let thursday := days - fromMonday + 3
  let (year, _, _) := dayOf thursday
  (year, ((thursday - daysTo year 1 1) / 7).toNat + 1)

end PatternBuild.Shell.Calendar

/-!
## Zones: what clocks show elsewhere

A zone says by how much its clocks differ from the time of reference, in winter and perhaps otherwise in
summer, and on which days of the year they are put forward and back.  `Zone.ofText` reads one;
`Zone.clockAt` tells which clock counts at a moment, and `Zone.moment?` which moment a clock shows.
-/

namespace PatternBuild.Shell.Calendar

/-- what a clock shows: seconds ahead of the time of reference, and the name of that -/
structure Clock where
  ahead : Int
  name : String
  deriving DecidableEq, Repr

/-- a day of every year -/
inductive YearDay where
  /-- a day of the week in a month, the first one being number 1 and the last one number 5 -/
  | weekday (month week day : Nat)
  /-- counted from 1, a day that leap years add not being counted -/
  | plain (n : Nat)
  /-- counted from 0 -/
  | counted (n : Nat)
  deriving DecidableEq, Repr

/-- when clocks are changed: the day, and the time in seconds -/
structure Change where
  day : YearDay
  time : Int
  deriving DecidableEq, Repr

structure Zone where
  usual : Clock
  /-- the clock in summer, and when summer begins and ends -/
  summer : Option (Clock × Change × Change)
  deriving DecidableEq, Repr

def Zone.reference (name : String) : Zone := ⟨⟨0, name⟩, none⟩

def Zone.utc : Zone := .reference "UTC"

/-! ### reading -/

/-- the name at the front of the text of a zone -/
def zoneName? (cs : List Char) : Option (String × List Char) :=
  match cs with
  | '<' :: cs =>
    let name := cs.takeWhile fun c => c.isAlphanum || c == '+' || c == '-'
    match cs.drop name.length with
    | '>' :: rest => if name.length < 3 then none else some (String.ofList name, rest)
    | _ => none
  | cs =>
    let name := cs.takeWhile Char.isAlpha
    if name.length < 3 then none else some (String.ofList name, cs.drop name.length)

/-- hours, minutes and seconds at the front of a text, as seconds -/
def clockTime? (most : Nat) (cs : List Char) : Option (Int × List Char) :=
  let (isNegative, cs) := match cs with
    | '-' :: cs => (true, cs)
    | '+' :: cs => (false, cs)
    | cs => (false, cs)
  let part (cs : List Char) : Option (Nat × List Char) :=
    let run := cs.takeWhile Char.isDigit
    (numeral? 10 run).map fun n => (n, cs.drop run.length)
  let next (cs : List Char) : Nat × List Char := match cs with
    | ':' :: rest => (part rest).getD (0, cs)
    | cs => (0, cs)
  (part cs).map fun (h, cs) =>
    let (m, cs) := next cs
    let (s, cs) := next cs
    let n : Int := min h most * 3600 + min m 59 * 60 + min s 59
    (if isNegative then -n else n, cs)

/-- the day and the time of a change -/
def change? (cs : List Char) : Option (Change × List Char) :=
  let number (cs : List Char) : Option (Nat × List Char) :=
    let run := cs.takeWhile Char.isDigit
    (numeral? 10 run).map fun n => (n, cs.drop run.length)
  let day : Option (YearDay × List Char) := match cs with
    | 'J' :: cs => (number cs).map fun (n, cs) => (.plain n, cs)
    | 'M' :: cs => do
      let (month, cs) ← number cs
      let (week, cs) ← number (cs.dropWhile (· == '.'))
      let (day, cs) ← number (cs.dropWhile (· == '.'))
      if month = 0 || 12 < month || week = 0 || 5 < week || 6 < day then none
      else some (.weekday month week day, cs)
    | cs => (number cs).map fun (n, cs) => (.counted n, cs)
  day.bind fun (day, cs) => match cs with
    | '/' :: cs => (clockTime? 167 cs).map fun (time, cs) => (⟨day, time⟩, cs)
    | cs => some (⟨day, 7200⟩, cs)

/-- summer from the second Sunday in March to the first one in November -/
def usualSummer : Change × Change := (⟨.weekday 3 2 0, 7200⟩, ⟨.weekday 11 1 0, 7200⟩)

/-- the zone that a text writes by its names, its differences and its changes -/
def writtenZone (cs : List Char) : Zone :=
  match zoneName? cs with
  | none => .reference ""
  | some (name, cs) =>
    match clockTime? 24 cs with
    | none => .reference name
    | some (behind, cs) =>
      let usual : Clock := ⟨-behind, name⟩
      match zoneName? cs with
      | none => ⟨usual, none⟩
      | some (summerName, cs) =>
        let (ahead, cs) := match clockTime? 24 cs with
          | some (behind, cs) => (-behind, cs)
          | none => (usual.ahead + 3600, cs)
        let changes : Option (Change × Change) := match cs with
          | ',' :: cs => do
            let (first, cs) ← change? cs
            match cs with
            | ',' :: cs => do
              let (last, _) ← change? cs
              some (first, last)
            | _ => none
          | _ => none
        let (first, last) := changes.getD usualSummer
        ⟨usual, some (⟨ahead, summerName⟩, first, last)⟩

/-- zones that are known by the names of places, as they have been written since 2007 -/
def placeZones : List (String × String) :=
  let eastern := "EST5EDT,M3.2.0,M11.1.0"
  let central := "CST6CDT,M3.2.0,M11.1.0"
  let mountain := "MST7MDT,M3.2.0,M11.1.0"
  let pacific := "PST8PDT,M3.2.0,M11.1.0"
  let british := "GMT0BST,M3.5.0/1,M10.5.0"
  let western := "WET0WEST,M3.5.0/1,M10.5.0"
  let middle := "CET-1CEST,M3.5.0,M10.5.0/3"
  let aegean := "EET-2EEST,M3.5.0/3,M10.5.0/4"
  [("America/New_York", eastern), ("America/Toronto", eastern), ("America/Detroit", eastern),
    ("US/Eastern", eastern), ("EST5EDT", eastern), ("America/Chicago", central), ("US/Central", central),
    ("CST6CDT", central), ("America/Denver", mountain), ("US/Mountain", mountain), ("MST7MDT", mountain),
    ("America/Los_Angeles", pacific), ("US/Pacific", pacific), ("PST8PDT", pacific),
    ("America/Phoenix", "MST7"), ("America/Anchorage", "AKST9AKDT,M3.2.0,M11.1.0"),
    ("America/Halifax", "AST4ADT,M3.2.0,M11.1.0"), ("America/St_Johns", "NST3:30NDT,M3.2.0,M11.1.0"),
    ("America/Sao_Paulo", "<-03>3"), ("America/Argentina/Buenos_Aires", "<-03>3"),
    ("America/Bogota", "<-05>5"), ("America/Mexico_City", "CST6"), ("Pacific/Honolulu", "HST10"),
    ("Europe/London", british), ("GB", british), ("Europe/Dublin", "GMT0IST,M3.5.0/1,M10.5.0"),
    ("Europe/Lisbon", western), ("WET", western), ("Europe/Paris", middle), ("Europe/Berlin", middle),
    ("Europe/Madrid", middle), ("Europe/Rome", middle), ("Europe/Amsterdam", middle),
    ("Europe/Brussels", middle), ("Europe/Vienna", middle), ("Europe/Zurich", middle),
    ("Europe/Prague", middle), ("Europe/Warsaw", middle), ("Europe/Stockholm", middle),
    ("Europe/Oslo", middle), ("Europe/Copenhagen", middle), ("Europe/Budapest", middle), ("CET", middle),
    ("MET", "MET-1MEST,M3.5.0,M10.5.0/3"), ("Europe/Athens", aegean), ("Europe/Helsinki", aegean),
    ("Europe/Kiev", aegean), ("Europe/Kyiv", aegean), ("Europe/Sofia", aegean),
    ("Europe/Bucharest", aegean), ("EET", aegean), ("Europe/Istanbul", "<+03>-3"),
    ("Europe/Moscow", "MSK-3"), ("Africa/Cairo", "EET-2EEST,M4.5.5/0,M10.5.4/24"),
    ("Africa/Lagos", "WAT-1"), ("Africa/Nairobi", "EAT-3"), ("Africa/Johannesburg", "SAST-2"),
    ("Asia/Tokyo", "JST-9"), ("Japan", "JST-9"), ("Asia/Seoul", "KST-9"), ("Asia/Shanghai", "CST-8"),
    ("Asia/Hong_Kong", "HKT-8"), ("Asia/Taipei", "CST-8"), ("Asia/Singapore", "<+08>-8"),
    ("Asia/Manila", "PST-8"), ("Asia/Bangkok", "<+07>-7"), ("Asia/Ho_Chi_Minh", "<+07>-7"),
    ("Asia/Jakarta", "WIB-7"), ("Asia/Dhaka", "<+06>-6"), ("Asia/Kolkata", "IST-5:30"),
    ("Asia/Calcutta", "IST-5:30"), ("Asia/Kathmandu", "<+0545>-5:45"), ("Asia/Karachi", "PKT-5"),
    ("Asia/Dubai", "<+04>-4"), ("Asia/Tehran", "<+0330>-3:30"), ("Asia/Kabul", "<+0430>-4:30"),
    ("Asia/Jerusalem", "IST-2IDT,M3.4.4/26,M10.5.0"), ("Australia/Sydney", "AEST-10AEDT,M10.1.0,M4.1.0/3"),
    ("Australia/Melbourne", "AEST-10AEDT,M10.1.0,M4.1.0/3"), ("Australia/Brisbane", "AEST-10"),
    ("Australia/Adelaide", "ACST-9:30ACDT,M10.1.0,M4.1.0/3"), ("Australia/Darwin", "ACST-9:30"),
    ("Australia/Perth", "AWST-8"), ("Pacific/Auckland", "NZST-12NZDT,M9.5.0,M4.1.0/3"),
    ("Pacific/Kiritimati", "<+14>-14"), ("EST", "EST5"), ("MST", "MST7"), ("HST", "HST10"),
    ("Etc/UTC", "UTC0"), ("Etc/UCT", "UTC0"), ("UCT", "UTC0"), ("Etc/GMT", "GMT0"), ("Etc/Universal", "UTC0"),
    ("Etc/Zulu", "UTC0"), ("Zulu", "UTC0"), ("Universal", "UTC0"), ("GMT", "GMT0"), ("GMT0", "GMT0"),
    ("Greenwich", "GMT0"), ("UTC", "UTC0")]

/-- zones whose names tell how far they are behind -/
def countedZone? (text : String) : Option Zone :=
  let start := "Etc/GMT".toList
  if !start.isPrefixOf text.toList then none
  else match text.toList.drop start.length with
    | sign :: cs =>
      let name (ahead : Bool) (n : Nat) : String :=
        (if ahead then "+" else "-") ++ (if n < 10 then "0" else "") ++ toString n
      (numeral? 10 cs).bind fun n =>
        if sign == '-' && n ≤ 14 then some ⟨⟨n * 3600, name true n⟩, none⟩
        else if sign == '+' && n ≤ 12 then some ⟨⟨-(n * 3600 : Int), name false n⟩, none⟩
        else none
    | [] => none

/-- the zone that a text means -/
def Zone.ofText (text : String) : Zone :=
  let text := if text.startsWith ":" then String.ofList (text.toList.drop 1) else text
  if text = "" then .reference "Universal"
  else match placeZones.lookup text, countedZone? text with
    | some written, _ => writtenZone written.toList
    | none, some zone => zone
    | none, none => writtenZone text.toList

/-- the zone of programs that see some text for it -/
def Zone.ofText? : Option String → Zone
  | some text => .ofText text
  | none => .utc

/-! ### changes -/

/-- the number of days from the start of 1970 to a day of a year -/
def YearDay.inYear (d : YearDay) (year : Int) : Int :=
  let start := daysTo year 1 1
  let isLeap := daysTo (year + 1) 1 1 - start = 366
  match d with
  | .plain n => start + n - 1 + if isLeap && 60 ≤ n then 1 else 0
  | .counted n => start + n
  | .weekday month week day =>
    let first := daysTo year month 1
    let next := if month = 12 then daysTo (year + 1) 1 1 else daysTo year (month + 1) 1
    let ahead : Int := ((day : Int) - (first + 4)) % 7
    let d := first + ahead + 7 * ((week : Int) - 1)
    if next ≤ d then d - 7 else d

/-- the moment of a change in a year, in seconds, before which a clock counts -/
def Change.inYear (c : Change) (year : Int) (before : Clock) : Int :=
  c.day.inYear year * 86400 + c.time - before.ahead

/-- the clock that counts at a moment, in seconds since 1970 -/
def Zone.clockAt (z : Zone) (t : Int) : Clock :=
  match z.summer with
  | none => z.usual
  | some (summer, first, last) =>
    let (year, _, _) := dayOf (t.fdiv 86400)
    let start := first.inYear year z.usual
    let ending := last.inYear year summer
    let isSummer := if start < ending then start ≤ t && t < ending else t < ending || start ≤ t
    if isSummer then summer else z.usual

/-- how far the clocks are ahead at a moment, in nanoseconds -/
def Zone.aheadAt (z : Zone) (t : Moment) : Int := (z.clockAt (t.fdiv oneSecond)).ahead * oneSecond

/-- the moment at which the clocks show a time, the first one if there are two; with `isSummer` the clock
is known -/
def Zone.moment? (z : Zone) (isSummer : Option Bool) (shown : Moment) : Option Moment :=
  let summerClock := z.summer.toList.map (·.1)
  let clocks := match isSummer with
    | none => summerClock ++ [z.usual]
    | some true => summerClock
    | some false => [z.usual]
  clocks.findSome? fun c =>
    let t := shown - c.ahead * oneSecond
    if z.clockAt (t.fdiv oneSecond) = c then some t else none

end PatternBuild.Shell.Calendar

namespace PatternBuild.Shell.Tool

/-- the zone of the current process -/
def currentZone : Activity Calendar.Zone := do
  return .ofText? ((← Activity.own).environment.lookup "TZ")

end PatternBuild.Shell.Tool

/-!
## Writing moments

A format of moments holds directives, each of which stands for a part of the date or the time.
`Calendar.formatIn` writes a moment as the clocks of a zone show it, and `Calendar.format` as those of
the time of reference do.
-/

namespace PatternBuild.Shell.Calendar

/-- how the number of a directive is filled up -/
inductive Fill where
  | usual
  | nothing
  | zeros
  | blanks
  /-- with zeros behind a sign -/
  | signed
  deriving DecidableEq, Repr

def fillWith (c : Char) (width : Nat) (text : String) : String :=
  String.ofList (List.replicate (width - text.length) c) ++ text

/-- a number with so many digits; only years may take a sign in front -/
def digits (fill : Fill) (usual : Char) (wanted width : Nat) (isYear : Bool) (n : Int) : String :=
  let text := toString n.natAbs
  let isLong := wanted < text.length || wanted < width
  let sign := if n < 0 then "-" else if fill == .signed && isYear && isLong && 2 < wanted then "+" else ""
  let room := max wanted width - sign.length
  match fill with
  | .nothing => sign ++ text
  | .blanks => fillWith ' ' (max wanted width) (sign ++ text)
  | .usual => if usual == ' ' then fillWith ' ' (max wanted width) (sign ++ text)
    else sign ++ fillWith usual room text
  | _ => sign ++ fillWith '0' room text

/-- the hour of a clock with twelve hours -/
def hour12 (h : Nat) : Nat := if h % 12 = 0 then 12 else h % 12

/-- how far clocks are ahead, the parts of it divided by as many colons as wanted -/
def aheadText (fill : Fill) (colons width : Nat) (ahead : Int) : String :=
  let n := ahead.natAbs
  let sign := if ahead < 0 then "-" else "+"
  let two (k : Nat) : String := fillWith '0' 2 (toString k)
  let (h, m, s) := (n / 3600, n / 60 % 60, n % 60)
  let tail := if colons = 0 then two m
    else if colons = 1 then ":" ++ two m
    else if colons = 2 then ":" ++ two m ++ ":" ++ two s
    else (if m = 0 && s = 0 then "" else ":" ++ two m) ++ (if s = 0 then "" else ":" ++ two s)
  let head := if 0 < h || 0 < colons then toString h ++ tail
    else toString m
  let usual := (if colons = 0 then 4 else 2 + tail.length)
  match fill with
  | .nothing => sign ++ head
  | .blanks => fillWith ' ' (max (usual + 1) width) (sign ++ head)
  | _ => sign ++ fillWith '0' (max usual (width - 1)) head

/-- letters that may follow an `E`, and those that may follow an `O` -/
def eraLetters : List Char := "cCxXyY".toList
def otherLetters : List Char := "deHIklmMqSuUVwWyGgjs".toList

/-- a moment by a format, of which at most `n` characters are read; with `isWide` the letters of the
program `date` are known -/
def formatUpTo (z : Zone) (isWide : Bool) (t : Moment) : Nat → List Char → List Char
  | 0, _ => []
  | _ + 1, [] => []
  | n + 1, '%' :: cs =>
    let clock := z.clockAt (t.fdiv oneSecond)
    let shown := t + clock.ahead * oneSecond
    let isFlag (c : Char) : Bool := "-_0^#".toList.contains c || (c == '+' && isWide)
    let flags := cs.takeWhile isFlag
    let rest := cs.drop flags.length
    let widthDigits := rest.takeWhile Char.isDigit
    let width := (numeral? 10 widthDigits).getD 0
    let rest := rest.drop widthDigits.length
    let (modifier, rest) := match rest with
      | 'E' :: more => (some 'E', more)
      | 'O' :: more => (some 'O', more)
      | rest => (none, rest)
    let colons := if isWide then (rest.takeWhile (· == ':')).length else 0
    let rest := rest.drop colons
    let fill : Fill := match flags.filter (fun c => "-_0+".toList.contains c) |>.getLast? with
      | some '-' => .nothing
      | some '_' => .blanks
      | some '0' => .zeros
      | some '+' => .signed
      | _ => .usual
    match rest with
    | [] => '%' :: cs
    | c :: more =>
      let d := dateOf shown
      let number (usual : Char) (w : Nat) (k : Int) : String := digits fill usual w width false k
      let year (w : Nat) (k : Int) : String := digits fill '0' w width true k
      let again (format : String) : String := String.ofList (formatUpTo z isWide t n format.toList)
      let nameOf (names : List String) (i : Nat) : String := (names[i]?).getD "?"
      let short (text : String) : String := String.ofList (text.toList.take 3)
      let wd := weekday shown
      let isAllowed : Bool := match modifier with
        | some 'E' => eraLetters.contains c
        | some _ => otherLetters.contains c
        | none => true
      let text? : Option String := if !isAllowed || (0 < colons && c != 'z') || 3 < colons then none
        else match c with
        | '%' => if cs.length = more.length + 1 || (!isWide && modifier.isNone) then some "%" else none
        | 'n' => some "\n"
        | 't' => some "\t"
        | 'Y' => some (year 4 d.year)
        | 'C' => some (number '0' 2 (d.year.fdiv 100))
        | 'y' => some (number '0' 2 (d.year % 100))
        | 'm' => some (number '0' 2 d.month)
        | 'd' => some (number '0' 2 d.day)
        | 'e' => some (number ' ' 2 d.day)
        | 'H' => some (number '0' 2 d.hour)
        | 'k' => some (number ' ' 2 d.hour)
        | 'I' => some (number '0' 2 (hour12 d.hour))
        | 'l' => some (number ' ' 2 (hour12 d.hour))
        | 'M' => some (number '0' 2 d.minute)
        | 'S' => some (number '0' 2 d.second)
        | 's' => some (number '0' 1 (t.fdiv oneSecond))
        | 'N' =>
          if !isWide then none
          else
            let all := fillWith '0' 9 (toString d.nano)
            let kept := if width = 0 then all else String.ofList (all.toList.take width)
            let low := (kept.toList.reverse.takeWhile (· == '0')).length
            some (if fill == .blanks then
                String.ofList (kept.toList.take (kept.length - low) ++ List.replicate low ' ')
              else kept ++ String.ofList (List.replicate (width - kept.length) '0'))
        | 'j' => some (number '0' 3 ((yearDay d : Int) + 1))
        | 'q' => if isWide then some (number '0' 1 (((d.month : Int) - 1) / 3 + 1)) else none
        | 'u' => some (number '0' 1 (if wd = 0 then 7 else wd))
        | 'w' => some (number '0' 1 wd)
        | 'U' => some (number '0' 2 (((yearDay d : Int) + 7 - wd) / 7))
        | 'W' => some (number '0' 2 (((yearDay d : Int) + 7 - ((wd + 6) % 7 : Nat)) / 7))
        | 'V' => some (number '0' 2 (weekOf shown).2)
        | 'G' => some (year 4 (weekOf shown).1)
        | 'g' => some (number '0' 2 ((weekOf shown).1 % 100))
        | 'a' => some (short (nameOf weekdays wd))
        | 'A' => some (nameOf weekdays wd)
        | 'b' => some (short (nameOf months (d.month - 1)))
        | 'h' => some (short (nameOf months (d.month - 1)))
        | 'B' => some (nameOf months (d.month - 1))
        | 'p' => some (if d.hour < 12 then "AM" else "PM")
        | 'P' => some (if d.hour < 12 then "am" else "pm")
        | 'Z' => some clock.name
        | 'z' => some (aheadText fill colons width clock.ahead)
        | 'F' =>
          let isLong := 9999 < d.year && isWide
          some ((if isWide && fill == .usual && 10 < width then
              digits .usual '0' (width - 6) 0 true d.year
            else if isLong then "+" ++ toString d.year else digits .usual '0' 4 0 true d.year) ++
            again "-%m-%d")
        | 'T' => some (again "%H:%M:%S")
        | 'R' => some (again "%H:%M")
        | 'D' => some (again "%m/%d/%y")
        | 'x' => some (again "%m/%d/%y")
        | 'X' => some (again "%H:%M:%S")
        | 'r' => some (again "%I:%M:%S %p")
        | 'c' => some (again "%a %b %e %H:%M:%S %Y")
        | _ => none
      match text?, c with
      | some text, _ =>
        let text := if flags.contains '^' && c != 'P' then text.map Char.toUpper
          else if flags.contains '#' then
            (if c == 'p' || c == 'Z' || c == 'P' then text.map Char.toLower else text.map Char.toUpper)
          else text
        let filler := if fill == .zeros || fill == .signed then '0' else ' '
        let text := if (fill == .nothing && isWide) || c == 'N' || c == 'z' then text
          else fillWith filler width text
        text.toList ++ formatUpTo z isWide t n more
      | none, '%' =>
        let text := String.ofList ('%' :: cs.take (cs.length - rest.length))
        (fillWith ' ' width text).toList ++ formatUpTo z isWide t n rest
      | none, _ =>
        let text := String.ofList ('%' :: cs.take (cs.length - more.length))
        (fillWith ' ' width text).toList ++ formatUpTo z isWide t n more
  | n + 1, c :: cs => c :: formatUpTo z isWide t n cs

/-- a moment by a format, as the clocks of a zone show it -/
def formatIn (z : Zone) (t : Moment) (text : String) : String :=
  String.ofList (formatUpTo z true t (text.length + 32) text.toList)

/-- a moment by a format -/
def format (t : Moment) (text : String) : String := formatIn .utc t text

/-- a moment by a format of the letters that all programs know -/
def plainFormatIn (z : Zone) (t : Moment) (text : List Char) : List Char :=
  formatUpTo z false t (text.length + 32) text

end PatternBuild.Shell.Calendar
