import PatternBuild.Shell.Tool.Calendar

/-!
# Reading moments

People write moments as dates, times of day, days of the week, zones and distances from now, in almost any
order.  `dateTokens?` takes such a text apart, `readItem` reads one of those items from the front of the
tokens, where an item takes in as much as it can, and `readMoment?` puts them together.
-/

namespace PatternBuild.Shell.Calendar

/-! ## tokens -/

/-- units of time -/
inductive TimeUnit where
  | year | month | day | hour | minute | second
  deriving DecidableEq, Repr

/-- the words and numbers of a written moment -/
inductive DateToken where
  /-- a whole number, its digits, and whether a sign stands in front of it -/
  | number (value : Int) (digits : Nat) (isSigned : Bool)
  /-- a number with a fraction, in nanoseconds -/
  | fraction (nanos : Int) (isSigned : Bool)
  | halfDay (isLate : Bool)
  /-- a month, from 1, and a day of the week, from Sunday -/
  | month (n : Nat)
  | weekday (n : Nat)
  /-- a zone by its name, how far it is ahead in seconds, and whether it is one of summer -/
  | zone (ahead : Int) (isSummer : Bool)
  /-- a clock of the zone of the user -/
  | localZone (isSummer : Bool)
  | summerTime
  /-- so many of a unit -/
  | unit (u : TimeUnit) (n : Int)
  | dayShift (days : Int)
  | ordinal (n : Int)
  | ago (sign : Int)
  /-- the letter between a date and a time, which is a zone as well -/
  | between
  | sign (c : Char)
  deriving DecidableEq, Repr

/-- zones by their names: hours or seconds ahead, and whether they are zones of summer -/
def zoneWords : List (String × Int × Bool) :=
  let h (n : Int) : Int := n * 3600
  [("wet", 0, false), ("west", 0, true), ("bst", 0, true), ("art", h (-3), false), ("brt", h (-3), false),
    ("brst", h (-3), true), ("nst", -12600, false), ("ndt", -12600, true), ("ast", h (-4), false),
    ("adt", h (-4), true), ("clt", h (-4), false), ("clst", h (-4), true), ("est", h (-5), false),
    ("edt", h (-5), true), ("cst", h (-6), false), ("cdt", h (-6), true), ("mst", h (-7), false),
    ("mdt", h (-7), true), ("pst", h (-8), false), ("pdt", h (-8), true), ("akst", h (-9), false),
    ("akdt", h (-9), true), ("hst", h (-10), false), ("hast", h (-10), false), ("hadt", h (-10), true),
    ("sst", h (-12), false), ("wat", h 1, false), ("cet", h 1, false), ("cest", h 1, true),
    ("met", h 1, false), ("mez", h 1, false), ("mest", h 1, true), ("mesz", h 1, true), ("eet", h 2, false),
    ("eest", h 2, true), ("cat", h 2, false), ("sast", h 2, false), ("eat", h 3, false), ("msk", h 3, false),
    ("msd", h 3, true), ("ist", 19800, false), ("sgt", h 8, false), ("kst", h 9, false), ("jst", h 9, false),
    ("gst", h 10, false), ("nzst", h 12, false), ("nzdt", h 12, true)]

/-- units by their names -/
def unitWords : List (String × DateToken) :=
  [("year", .unit .year 1), ("month", .unit .month 1), ("fortnight", .unit .day 14), ("week", .unit .day 7),
    ("day", .unit .day 1), ("hour", .unit .hour 1), ("minute", .unit .minute 1), ("min", .unit .minute 1),
    ("second", .unit .second 1), ("sec", .unit .second 1)]

/-- words for days and numbers -/
def relativeWords : List (String × DateToken) :=
  [("tomorrow", .dayShift 1), ("yesterday", .dayShift (-1)), ("today", .dayShift 0), ("now", .dayShift 0),
    ("last", .ordinal (-1)), ("this", .ordinal 0), ("next", .ordinal 1), ("first", .ordinal 1),
    ("third", .ordinal 3), ("fourth", .ordinal 4), ("fifth", .ordinal 5), ("sixth", .ordinal 6),
    ("seventh", .ordinal 7), ("eighth", .ordinal 8), ("ninth", .ordinal 9), ("tenth", .ordinal 10),
    ("eleventh", .ordinal 11), ("twelfth", .ordinal 12), ("ago", .ago (-1)), ("hence", .ago 1)]

/-- single letters that mean zones -/
def letterZone? (c : Char) : Option DateToken :=
  if c == 't' then some .between
  else if c == 'j' then some (.localZone false)
  else if c == 'z' then some (.zone 0 false)
  else if 'a' ≤ c && c ≤ 'i' then some (.zone ((c.toNat - 96 : Nat) * 3600) false)
  else if 'k' ≤ c && c ≤ 'm' then some (.zone ((c.toNat - 97 : Nat) * 3600) false)
  else if 'n' ≤ c && c ≤ 'y' then some (.zone (-((c.toNat - 109 : Nat) * 3600)) false)
  else none

/-- what a word in small letters means to somebody in a zone -/
def wordToken? (z : Zone) (word : String) : Option DateToken :=
  let isShort := word.length = 3 || (word.length = 4 && word.endsWith ".")
  let short (name : String) : String := String.ofList (name.toList.take 3)
  let matched (name : String) : Bool :=
    let name := name.map Char.toLower
    if isShort then short word = short name else word = name
  let zone? (word : String) : Option DateToken :=
    let own := if z.usual.name.map Char.toLower = word then some (DateToken.localZone false)
      else match z.summer with
        | some (c, _) => if c.name.map Char.toLower = word then some (.localZone true) else none
        | none => none
    if word = "gmt" || word = "ut" || word = "utc" then some (.zone 0 false)
    else match own with
      | some token => some token
      | none => (zoneWords.lookup word).map fun (ahead, isSummer) => .zone ahead isSummer
  let singular := if word.endsWith "s" then String.ofList word.toList.dropLast else word
  let plain := word.toList.filter (· ≠ '.')
  let dayNames := ["tues", "wednes", "thur", "thurs"]
  if word = "am" || word = "a.m." then some (.halfDay false)
  else if word = "pm" || word = "p.m." then some (.halfDay true)
  else match months.findIdx? matched, weekdays.findIdx? matched with
    | some k, _ => some (.month (k + 1))
    | none, some k => some (.weekday k)
    | none, none =>
      if word = "sept" then some (.month 9)
      else match dayNames.idxOf? word with
        | some k => some (.weekday (if k = 0 then 2 else if k = 1 then 3 else 4))
        | none =>
          match zone? word with
          | some token => some token
          | none =>
            if word = "dst" then some .summerTime
            else match (unitWords.lookup word).or (unitWords.lookup singular) with
              | some token => some token
              | none =>
                match relativeWords.lookup word, word.toList with
                | some token, _ => some token
                | none, [c] => letterZone? c
                | none, _ => if plain.length < word.length then zone? (String.ofList plain) else none

/-- what follows the bracket that closes those that are open -/
def afterBrackets : Nat → List Char → List Char
  | _, [] => []
  | open', '(' :: cs => afterBrackets (open' + 1) cs
  | open' + 1, ')' :: cs => if open' = 0 then cs else afterBrackets open' cs
  | open', _ :: cs => afterBrackets open' cs

def isBlankChar (c : Char) : Bool := c == ' ' || (9 ≤ c.toNat && c.toNat ≤ 13)

/-- the number at the front of a text that starts with a digit -/
def numberToken (isSigned isNegative : Bool) (cs : List Char) : DateToken × List Char :=
  let run := cs.takeWhile Char.isDigit
  let n : Int := (numeral? 10 run).getD 0
  let sign : Int := if isNegative then -1 else 1
  let rest := cs.drop run.length
  let whole : DateToken × List Char := (.number (sign * n) run.length isSigned, rest)
  match rest with
  | mark :: more =>
    let places := more.takeWhile Char.isDigit
    if (mark == '.' || mark == ',') && !places.isEmpty then
      let nine := places.take 9 ++ List.replicate (9 - places.length) '0'
      let nanos : Int := (numeral? 10 nine).getD 0
      -- what lies beyond nanoseconds is cut off toward the past
      let more' : Int := if isNegative && (places.drop 9).any (· ≠ '0') then 1 else 0
      (.fraction (sign * (n * oneSecond + nanos + more')) isSigned, more.drop places.length)
    else whole
  | [] => whole

/-- the tokens of a text of at most `n` characters; a word that means nothing is refused -/
def dateTokens? (z : Zone) : Nat → List Char → Option (List DateToken)
  | 0, _ => some []
  | _ + 1, [] => some []
  | n + 1, c :: cs =>
    if isBlankChar c then dateTokens? z n cs
    else if c.isDigit then
      let (token, rest) := numberToken false false (c :: cs)
      (dateTokens? z n rest).map (token :: ·)
    else if c == '-' || c == '+' then
      let rest := cs.dropWhile isBlankChar
      if (rest.head?.map Char.isDigit).getD false then
        let (token, rest) := numberToken true (c == '-') rest
        (dateTokens? z n rest).map (token :: ·)
      else dateTokens? z n rest
    else if c.isAlpha then
      let run := (c :: cs).takeWhile fun c => c.isAlpha || c == '.'
      let word := String.ofList ((run.take 19).map Char.toLower)
      (wordToken? z word).bind fun token =>
        (dateTokens? z n ((c :: cs).drop run.length)).map (token :: ·)
    else if c == '(' then dateTokens? z n (afterBrackets 1 cs)
    else (dateTokens? z n cs).map (.sign c :: ·)

/-! ## items -/

/-- what has been read of a moment -/
structure DateReading where
  /-- the year with the number of its digits, and the month and the day -/
  year : Int
  yearDigits : Nat
  month : Int
  day : Int
  hour : Int
  minute : Int
  /-- the second in nanoseconds -/
  second : Int
  halfDay : Option Bool
  zone : Int
  isSummer : Option Bool
  weekday : Nat
  weekdayOrdinal : Int
  dates : Nat
  times : Nat
  weekdays : Nat
  zones : Nat
  localZones : Nat
  summerTimes : Nat
  shifts : Nat
  yearsOn : Int
  monthsOn : Int
  daysOn : Int
  nanosOn : Int
  deriving Repr

namespace DateReading

/-- a date has been read -/
def dated (r : DateReading) (month day : Int) : DateReading :=
  { r with month, day, dates := r.dates + 1 }

/-- a date with its year has been read -/
def datedIn (r : DateReading) (year : Int) (digits : Nat) (month day : Int) : DateReading :=
  { r.dated month day with year, yearDigits := digits }

/-- a time of day has been read, its second in nanoseconds -/
def timed (r : DateReading) (hour minute second : Int) (halfDay : Option Bool) : DateReading :=
  { r with hour, minute, second, halfDay, times := r.times + 1 }

/-- a distance has been read -/
def shifted (r : DateReading) (u : TimeUnit) (n : Int) : DateReading :=
  let r := { r with shifts := r.shifts + 1 }
  match u with
  | .year => { r with yearsOn := r.yearsOn + n }
  | .month => { r with monthsOn := r.monthsOn + n }
  | .day => { r with daysOn := r.daysOn + n }
  | .hour => { r with nanosOn := r.nanosOn + n * oneHour }
  | .minute => { r with nanosOn := r.nanosOn + n * oneMinute }
  | .second => { r with nanosOn := r.nanosOn + n * oneSecond }

/-- a number alone is a year behind a date, else a date if it is long, and a time if it is short -/
def numbered (r : DateReading) (n : Int) (digits : Nat) : DateReading :=
  if 0 < r.dates && r.yearDigits = 0 && r.shifts = 0 && (0 < r.times || 2 < digits) then
    { r with year := n, yearDigits := digits }
  else if 4 < digits then r.datedIn (n / 10000) (digits - 4) (n / 100 % 100) (n % 100)
  else if digits ≤ 2 then r.timed n 0 0 none
  else r.timed (n / 100) (n % 100) 0 none

/-- a distance of a zone from the time of reference, in hours, or in hours and minutes -/
def zoned? (r : DateReading) (n : Int) (digits : Nat) (isNegative : Bool) (minutes : Option Int) :
    Option DateReading :=
  let total : Int := match minutes with
    | some m => n * 60 + if isNegative then -m else m
    | none => if digits ≤ 2 then n * 60 else Int.tdiv n 100 * 60 + Int.tmod n 100
  if total < -1440 || 1440 < total then none
  else some { r with zone := total * 60, zones := r.zones + 1 }

end DateReading

/-- the distance of a zone at the front of tokens -/
def readAhead (r : DateReading) : List DateToken → Option (DateReading × List DateToken)
  | .number n digits true :: .sign ':' :: .number m _ false :: rest =>
    (r.zoned? n digits (n < 0) (some m)).map fun r => (r, rest)
  | .number _ _ true :: .sign ':' :: _ => none
  | .number n digits true :: rest => (r.zoned? n digits (n < 0) none).map fun r => (r, rest)
  | rest => some (r, rest)

/-- the seconds at the front of tokens, in nanoseconds -/
def readSeconds? : List DateToken → Option (Int × List DateToken)
  | .number s _ false :: rest => some (s * oneSecond, rest)
  | .fraction s false :: rest => some (s, rest)
  | _ => none

/-- the minutes and seconds of a time of which the hour and a colon have been read -/
def readTime (r : DateReading) (hour : Int) (isPlain : Bool) :
    List DateToken → Option (DateReading × List DateToken)
  | .number m _ false :: .sign ':' :: rest =>
    (readSeconds? rest).bind fun (s, rest) => match rest, isPlain with
      | .halfDay isLate :: rest, false => some (r.timed hour m s (some isLate), rest)
      | rest, _ => readAhead (r.timed hour m s none) rest
  | .number m _ false :: .halfDay isLate :: rest =>
    if isPlain then none else some (r.timed hour m 0 (some isLate), rest)
  | .number m _ false :: rest => readAhead (r.timed hour m 0 none) rest
  | _ => none

/-- a time of day behind a date and the letter between them -/
def readPlainTime (r : DateReading) : List DateToken → Option (DateReading × List DateToken)
  | .number h _ false :: .sign ':' :: rest => readTime r h true rest
  | .number h _ false :: .number n digits true :: rest =>
    readAhead (r.timed h 0 0 none) (.number n digits true :: rest)
  | _ => none

/-- a distance with its unit, which may lie in the past -/
def readShift (r : DateReading) (u : TimeUnit) (n : Int) (rest : List DateToken) :
    DateReading × List DateToken :=
  match rest with
  | .ago sign :: rest => (r.shifted u (sign * n), rest)
  | rest => (r.shifted u n, rest)

/-- a zone by its name, and what may follow it -/
def readZone (r : DateReading) (ahead : Int) (isSummer : Bool) (rest : List DateToken) :
    Option (DateReading × List DateToken) :=
  let zoned (ahead : Int) : DateReading := { r with zone := ahead, zones := r.zones + 1 }
  if isSummer then some (zoned (ahead + 3600), rest)
  else match rest with
    | .number n _ true :: .unit u k :: rest => some ((zoned ahead).shifted u (n * k), rest)
    | .number n digits true :: rest =>
      (readAhead r (.number n digits true :: rest)).map fun (r, rest) =>
        ({ r with zone := r.zone + ahead }, rest)
    | .summerTime :: rest => some (zoned (ahead + 3600), rest)
    | rest => some (zoned ahead, rest)

/-- what a number without a sign starts -/
def readNumber (r : DateReading) (n : Int) (digits : Nat) (rest : List DateToken) :
    Option (DateReading × List DateToken) :=
  match rest with
  | .halfDay isLate :: rest => some (r.timed n 0 0 (some isLate), rest)
  | .sign ':' :: rest => readTime r n false rest
  | .sign '/' :: .number m _ false :: .sign '/' :: .number d dd false :: rest =>
    some (if 4 ≤ digits then r.datedIn n digits m d else r.datedIn d dd n m, rest)
  | .sign '/' :: .number _ _ false :: .sign '/' :: _ => none
  | .sign '/' :: .number m _ false :: rest => some (r.dated n m, rest)
  | .sign '/' :: _ => none
  | .month m :: .number y yd true :: rest => some (r.datedIn (-y) yd m n, rest)
  | .month m :: .number y yd false :: rest => some (r.datedIn y yd m n, rest)
  | .month m :: rest => some (r.dated m n, rest)
  | .weekday k :: rest =>
    some ({ r with weekday := k, weekdayOrdinal := n, weekdays := r.weekdays + 1 }, rest)
  | .unit u k :: rest => some (readShift r u (n * k) rest)
  | .number m _ true :: .number d _ true :: rest =>
    let r := r.datedIn n digits (-m) (-d)
    match rest with
    | .between :: rest => readPlainTime r rest
    | rest => some (r, rest)
  | .number k _ true :: .unit u j :: rest => some ((r.numbered n digits).shifted u (k * j), rest)
  | .number k kd true :: rest => readAhead (r.timed n 0 0 none) (.number k kd true :: rest)
  | rest => some (r.numbered n digits, rest)

/-- an item at the front of tokens, which are not empty -/
def readItem (r : DateReading) : List DateToken → Option (DateReading × List DateToken)
  | .number n digits false :: rest => readNumber r n digits rest
  | .number n _ true :: .unit u k :: rest => some (readShift r u (n * k) rest)
  | .fraction n _ :: .unit .second _ :: rest =>
    let r := { r with shifts := r.shifts + 1 }
    match rest with
    | .ago sign :: rest => some ({ r with nanosOn := r.nanosOn + sign * n }, rest)
    | rest => some ({ r with nanosOn := r.nanosOn + n }, rest)
  | .month m :: .number d _ true :: .number y yd true :: rest =>
    some (r.datedIn (-y) yd m (-d), rest)
  | .month m :: .number d _ false :: .sign ',' :: .number y yd false :: rest =>
    some (r.datedIn y yd m d, rest)
  | .month _ :: .number _ _ false :: .sign ',' :: _ => none
  | .month m :: .number d _ false :: rest => some (r.dated m d, rest)
  | .weekday k :: rest =>
    let r := { r with weekday := k, weekdayOrdinal := 0, weekdays := r.weekdays + 1 }
    match rest with
    | .sign ',' :: rest => some (r, rest)
    | rest => some (r, rest)
  | .ordinal n :: .weekday k :: rest =>
    some ({ r with weekday := k, weekdayOrdinal := n, weekdays := r.weekdays + 1 }, rest)
  | .ordinal n :: .unit u k :: rest => some (readShift r u (n * k) rest)
  | .unit u k :: rest => some (readShift r u k rest)
  | .dayShift n :: rest => some (r.shifted .day n, rest)
  | .zone ahead isSummer :: rest => readZone r ahead isSummer rest
  | .between :: .number n _ true :: .unit u k :: rest =>
    some (({ r with zone := -25200, zones := r.zones + 1 }.shifted u (n * k)), rest)
  | .between :: .number _ _ true :: _ => none
  | .between :: rest => some ({ r with zone := -25200, zones := r.zones + 1 }, rest)
  | .localZone isSummer :: rest =>
    let r := { r with isSummer := some isSummer, localZones := r.localZones + 1 }
    match rest with
    | .summerTime :: rest =>
      some ({ r with isSummer := some true, summerTimes := r.summerTimes + 1 }, rest)
    | rest => some (r, rest)
  | _ => none

/-- read at most `n` items -/
def readItems : Nat → DateReading → List DateToken → Option DateReading
  | _, r, [] => some r
  | 0, _, _ => none
  | n + 1, r, ts => (readItem r ts).bind fun (r, rest) => readItems n r rest

/-! ## moments -/

/-- the hour of the day, if the hour may be written so -/
def DateReading.hour? (r : DateReading) : Option Int :=
  match r.halfDay with
  | none => if 0 ≤ r.hour && r.hour < 24 then some r.hour else none
  | some isLate =>
    if r.hour < 1 || 12 < r.hour then none
    else some (r.hour % 12 + if isLate then 12 else 0)

/-- the year in full -/
def DateReading.fullYear (r : DateReading) : Int :=
  let y : Int := r.year.natAbs
  if r.yearDigits = 2 then (if y < 69 then y + 2000 else y + 1900) else y

/-- the start of a day whose month and day may lie beyond their bounds -/
def startOfDay (year month day : Int) : Moment :=
  let months := year * 12 + month - 1
  (daysTo (months.fdiv 12) ((months.fmod 12).toNat + 1) 1 + day - 1) * oneDay

/-- the moment that has been read, in a zone -/
def DateReading.moment? (r : DateReading) (z : Zone) : Option Moment := do
  let isDoubled := 1 < r.times || 1 < r.dates || 1 < r.weekdays || 1 < r.summerTimes ||
    1 < r.localZones + r.zones
  if isDoubled then none
  let hasTime := 0 < r.times || (0 < r.shifts && r.dates = 0 && r.weekdays = 0)
  let hour ← if hasTime then r.hour? else some 0
  let minute := if hasTime then r.minute else 0
  let nanos := if hasTime then r.second else 0
  let whole := nanos.fdiv oneSecond
  let year := r.fullYear
  let time := hour * oneHour + minute * oneMinute + nanos
  let start := startOfDay year r.month r.day
  -- a month, a day, a minute or a second out of its bounds is refused
  if r.month < 1 || 12 < r.month || minute < 0 || 59 < minute || 59 < whole then none
  let (y, m, d) := dayOf (start.fdiv oneDay)
  if y ≠ year || (m : Int) ≠ r.month || (d : Int) ≠ r.day then none
  -- the clocks count unless the zone is given
  let find (shown : Moment) : Option Moment :=
    if 0 < r.zones then some shown else z.moment? r.isSummer shown
  let first ← find (start + time)
  let start := if 0 < r.weekdays && r.dates = 0 then
      let today := Calendar.weekday start
      let weeks := r.weekdayOrdinal - if 0 < r.weekdayOrdinal && today ≠ r.weekday then 1 else 0
      start + (((r.weekday : Int) - today + 7) % 7 + weeks * 7) * oneDay
    else start
  let (year, month, day) := dayOf (start.fdiv oneDay)
  let shown := startOfDay (year + r.yearsOn) (month + r.monthsOn) (day + r.daysOn) + time
  let isMoved := (0 < r.weekdays && r.dates = 0) || r.yearsOn ≠ 0 || r.monthsOn ≠ 0 || r.daysOn ≠ 0
  -- a time that the clocks leave out is moved on
  let moved := if isMoved then (if 0 < r.zones then shown
      else (z.moment? none shown).getD (shown - z.usual.ahead * oneSecond)) else first
  return moved - (if 0 < r.zones then r.zone * oneSecond else 0) + r.nanosOn

/-- the moment that a text writes to somebody in a zone, seen from a moment -/
def readMomentIn? (z : Zone) (now : Moment) (text : String) : Option Moment := do
  let cs := text.toList
  let (z, cs) : Zone × List Char :=
    let start := "TZ=\"".toList
    let trimmed := cs.dropWhile isBlankChar
    if start.isPrefixOf trimmed then
      let inner := (trimmed.drop start.length).takeWhile (· ≠ '"')
      (.ofText (String.ofList inner), trimmed.drop (start.length + inner.length + 1))
    else (z, cs)
  let cs := if (cs.dropWhile isBlankChar).isEmpty then ['0'] else cs
  let ts ← dateTokens? z (cs.length + 1) cs
  match ts with
  | [.sign '@', .number n _ _] =>
    if n.natAbs < 9223372036854775808 then return n * oneSecond else none
  | [.sign '@', .fraction n _] => return n
  | ts =>
    let today := dateOf (now + z.aheadAt now)
    let r : DateReading := {
      year := today.year, yearDigits := 0, month := today.month, day := today.day, hour := today.hour
      minute := today.minute, second := today.second * oneSecond + today.nano, halfDay := none
      zone := 0, isSummer := none, weekday := 0, weekdayOrdinal := 0, dates := 0, times := 0
      weekdays := 0, zones := 0, localZones := 0, summerTimes := 0, shifts := 0, yearsOn := 0
      monthsOn := 0, daysOn := 0, nanosOn := 0 }
    (← readItems ts.length r ts).moment? z

/-- the moment that a text writes, seen from a moment -/
def readMoment? (now : Moment) (text : String) : Option Moment := readMomentIn? .utc now text

end PatternBuild.Shell.Calendar
