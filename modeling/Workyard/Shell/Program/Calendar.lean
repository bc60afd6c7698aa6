/-
**Times in words.**

A time is a number of microseconds since the beginning of the calendar. It is read from dates, times of
day and steps from one time to another, in any order, and written as a format asks for.

* `Moment.read`: the time that a text stands for;
* `Moment.written`: a time as a format asks for;
* `date`: the program.
-/

import Workyard.Shell.Program.Plain
import Workyard.Timestamp

namespace Workyard.Shell.Program

/-- The number of days from the beginning of the calendar to a day. -/
def daysOf (year : Int) (month day : Nat) : Int :=
  let year := if month ≤ 2 then year - 1 else year
  let era := year.fdiv 400
  let yearOfEra := (year.fmod 400).toNat
  let fromMarch := if 2 < month then month - 3 else month + 9
  let dayOfYear := (153 * fromMarch + 2) / 5 + day - 1
  let dayOfEra := yearOfEra * 365 + yearOfEra / 4 - yearOfEra / 100 + dayOfYear
  era * Date.daysPerEra + dayOfEra - Date.epochOffset

/-- The days of a week. -/
def weekdayNames : List String := ["Sunday", "Monday", "Tuesday", "Wednesday", "Thursday", "Friday", "Saturday"]

/-- The months of a year. -/
def monthNames : List String :=
  ["January", "February", "March", "April", "May", "June", "July", "August", "September", "October",
    "November", "December"]

/-- A time: seconds since the beginning of the calendar, and a billionth part of one. -/
structure Moment where
  seconds : Int
  part : Nat := 0
deriving DecidableEq, Repr

namespace Moment

/-- The time of a number of microseconds. -/
def ofMicroseconds (time : Nat) : Moment := ⟨time / 1000000, time % 1000000 * 1000⟩

/-- The microseconds of a time, none of those before the beginning of the calendar. -/
def microseconds (moment : Moment) : Nat := (moment.seconds * 1000000 + moment.part / 1000).toNat

/-- The day of a time, counted from the beginning of the calendar. -/
def days (moment : Moment) : Int := moment.seconds.fdiv 86400

/-- The seconds since midnight. -/
def ofDay (moment : Moment) : Nat := (moment.seconds.fmod 86400).toNat

/-- The date of a time. -/
def date (moment : Moment) : Date := .ofDays moment.days

/-- The day of the week, of which Sunday is the first. -/
def weekday (moment : Moment) : Nat := ((moment.days + 4).fmod 7).toNat

/-- The days of the year before a time. -/
def dayOfYear (moment : Moment) : Nat := (moment.days - daysOf moment.date.year 1 1).toNat

/-- The week and the year to which it belongs, for weeks that begin on Monday and of which the first has
the fourth of January. -/
def week (moment : Moment) : Int × Nat :=
  let monday := moment.days - ((moment.weekday + 6) % 7 : Nat)
  let thursday : Date := .ofDays (monday + 3)
  (thursday.year, ((monday + 3 - daysOf thursday.year 1 1) / 7).toNat + 1)

/-! ### Writing -/

/-- Digits in a width, filled from the left. -/
def filled (fill : Char) (width : Nat) (number : Int) : Octets :=
  let digits := decimal number.natAbs
  let blanks := List.replicate (width - digits.length - (if number < 0 then 1 else 0)) fill
  if number < 0 then (if fill = ' ' then blanks ++ '-' :: digits else '-' :: blanks ++ digits)
  else blanks ++ digits

/-- What a letter of a format stands for: a number with its usual fill and width, a text, or a format that
is shorter for being known. -/
inductive Field where
  | number (fill : Char) (width : Nat) (value : Int)
  | text (text : String)
  | format (format : String)

/-- What a letter of a format stands for. -/
def field (moment : Moment) (letter : Char) : Option Field :=
  let date := moment.date
  let hour := moment.ofDay / 3600
  let half := if hour % 12 = 0 then 12 else hour % 12
  let two (value : Nat) : Option Field := some (.number '0' 2 value)
  let blank (value : Nat) : Option Field := some (.number ' ' 2 value)
  let weekName := weekdayNames.getD moment.weekday ""
  let monthName := monthNames.getD (date.month - 1) ""
  let short (name : String) : String := String.ofList (name.toList.take 3)
  match letter with
  | 'a' => some (.text (short weekName))
  | 'A' => some (.text weekName)
  | 'b' | 'h' => some (.text (short monthName))
  | 'B' => some (.text monthName)
  | 'c' => some (.format "%a %b %e %H:%M:%S %Y")
  | 'C' => some (.number '0' 2 (date.year.fdiv 100))
  | 'd' => two date.day
  | 'D' | 'x' => some (.format "%m/%d/%y")
  | 'e' => blank date.day
  | 'F' => some (.format "%Y-%m-%d")
  | 'g' => some (.number '0' 2 (moment.week.1.fmod 100))
  | 'G' => some (.number '0' 4 moment.week.1)
  | 'H' => two hour
  | 'I' => two half
  | 'j' => some (.number '0' 3 (moment.dayOfYear + 1))
  | 'k' => blank hour
  | 'l' => blank half
  | 'm' => two date.month
  | 'M' => two (moment.ofDay / 60 % 60)
  | 'n' => some (.text "\n")
  | 'N' => some (.number '0' 9 moment.part)
  | 'p' => some (.text (if hour < 12 then "AM" else "PM"))
  | 'P' => some (.text (if hour < 12 then "am" else "pm"))
  | 'q' => some (.number '0' 1 ((date.month - 1) / 3 + 1 : Nat))
  | 'r' => some (.format "%I:%M:%S %p")
  | 'R' => some (.format "%H:%M")
  | 's' => some (.number '0' 1 moment.seconds)
  | 'S' => two (moment.ofDay % 60)
  | 't' => some (.text "\t")
  | 'T' | 'X' => some (.format "%H:%M:%S")
  | 'u' => some (.number '0' 1 (if moment.weekday = 0 then 7 else moment.weekday : Nat))
  | 'U' => two ((moment.dayOfYear + 7 - moment.weekday) / 7)
  | 'V' => two moment.week.2
  | 'w' => some (.number '0' 1 moment.weekday)
  | 'W' => two ((moment.dayOfYear + 7 - (moment.weekday + 6) % 7) / 7)
  | 'y' => some (.number '0' 2 (date.year.fmod 100))
  | 'Y' => some (.number '0' 4 date.year)
  | 'z' => some (.text "+0000")
  | 'Z' => some (.text "UTC")
  | '%' => some (.text "%")
  | _ => none

/-- A time as a format asks for. -/
def written (moment : Moment) : Nat → Octets → Octets
  | 0, _ => []
  | _, [] => []
  | fuel + 1, '%' :: rest =>
    let marks := rest.takeWhile fun c => "_-0^#+".toList.contains c
    let width := (rest.drop marks.length).takeWhile Char.isDigit
    let behind := (rest.drop marks.length).drop width.length
    let colons := (behind.takeWhile (· = ':')).length
    let wide := valueIn 10 width
    let fitted (fill : Char) (text : Octets) : Octets :=
      let text := if marks.contains '^' then text.map Char.toUpper else text
      List.replicate (wide - text.length) fill ++ text
    let plain : Octets := rest.take (rest.length - behind.length)
    match behind.drop colons with
    | [] => '%' :: plain ++ behind
    | letter :: more =>
      if letter = 'z' && 0 < colons then
        fitted '0' (octets (if colons = 1 then "+00:00" else if colons = 2 then "+00:00:00" else "+00")) ++
          written moment fuel more
      else if 0 < colons then '%' :: plain ++ List.replicate colons ':' ++ letter :: written moment fuel more
      else match moment.field letter with
        | none => '%' :: plain ++ letter :: written moment fuel more
        | some (.text text) => fitted ' ' (octets text) ++ written moment fuel more
        | some (.format format) => fitted ' ' (written moment fuel (octets format)) ++ written moment fuel more
        | some (.number fill least value) =>
          let fill := match marks.find? fun c => "_-0".toList.contains c with
            | some '_' => ' '
            | some '0' => '0'
            | _ => fill
          let digits := if letter = 'N' then
              (if marks.contains '-' then decimal value.natAbs
              else (filled '0' 9 value).take (if width = [] then 9 else wide))
            else filled fill (if marks.contains '-' then 0 else if width = [] then least else max wide 1) value
          digits ++ written moment fuel more
  | fuel + 1, c :: rest => c :: written moment fuel rest

/-! ### Reading -/

/-- What the words of a text have said so far. -/
structure Words where
  day : Option (Int × Nat × Nat) := none
  time : Option (Int × Nat) := none
  moment : Option Moment := none
  /-- The seconds by which the time of a place is ahead. -/
  ahead : Int := 0
  weekday : Option (Nat × Int) := none
  months : Int := 0
  days : Int := 0
  seconds : Int := 0

/-- The units of steps, with their months, days and seconds. -/
def units : List (String × Int × Int × Int) :=
  [("year", 12, 0, 0), ("month", 1, 0, 0), ("fortnight", 0, 14, 0), ("week", 0, 7, 0), ("day", 0, 1, 0),
    ("hour", 0, 0, 3600), ("minute", 0, 0, 60), ("min", 0, 0, 60), ("second", 0, 0, 1), ("sec", 0, 0, 1)]

/-- The unit that a word names. -/
def unit? (word : String) : Option (Int × Int × Int) :=
  (units.find? fun entry => entry.1 = word || entry.1 ++ "s" = word).map (·.2)

/-- The place of a name, or of its first three letters, among others. -/
def named? (names : List String) (word : String) : Option Nat :=
  let word := word.toLower
  names.findIdx? fun name =>
    name.toLower = word || (word.length = 3 || word.length = 4) && name.toLower.startsWith word

/-- The date of three numbers, if there is one. -/
def date? (year month day : Nat) : Option (Int × Nat × Nat) :=
  let date := Date.ofDays (daysOf year month day)
  if 1 ≤ month && month ≤ 12 && date = ⟨year, month, day⟩ then some (year, month, day) else none

/-- A year of two digits in its century. -/
def fullYear (digits : Octets) : Nat :=
  let year := valueIn 10 digits
  if digits.length = 2 then (if year < 69 then 2000 + year else 1900 + year) else year

/-- How far ahead of the others a place is by its time. -/
def zone? (word : Octets) : Option Int :=
  match word with
  | ['Z'] | ['z'] | ['U', 'T', 'C'] | ['u', 't', 'c'] | ['G', 'M', 'T'] => some 0
  | sign :: digits =>
    if sign = '+' || sign = '-' then
      let bare := digits.filter (· ≠ ':')
      let minutes := match bare.length with
        | 2 => some (valueIn 10 bare * 60)
        | 4 => some (valueIn 10 (bare.take 2) * 60 + valueIn 10 (bare.drop 2))
        | _ => none
      if isDigits bare then minutes.map fun minutes => (if sign = '-' then -1 else 1) * (minutes : Int) * 60 else none
    else none
  | [] => none

/-- The time of day of a text: its seconds, a part of one, and what stands behind it. -/
def time? (text : Octets) : Option ((Int × Nat) × Octets) :=
  let hour := text.takeWhile Char.isDigit
  match text.drop hour.length with
  | ':' :: rest =>
    let minute := rest.takeWhile Char.isDigit
    let (second, part, rest) := match rest.drop minute.length with
      | ':' :: rest =>
        let second := rest.takeWhile Char.isDigit
        match rest.drop second.length with
        | '.' :: rest =>
          let part := rest.takeWhile Char.isDigit
          (second, (part ++ List.replicate 9 '0').take 9, rest.drop part.length)
        | rest => (second, [], rest)
      | rest => (['0'], [], rest)
    let value := valueIn 10
    if hour = [] || minute = [] || second = [] || 23 < value hour || 59 < value minute || 60 < value second then none
    else some (((value hour * 3600 + value minute * 60 + value second : Nat), value part), rest)
  | _ => none

/-- A date in digits. -/
def digitsDate? (now : Moment) (word : Octets) : Option (Int × Nat × Nat) :=
  let value := valueIn 10
  match word.splitOn '-', word.splitOn '/' with
  | [year, month, day], _ =>
    if isDigits year && isDigits month && isDigits day then date? (fullYear year) (value month) (value day) else none
  | _, [one, two, three] =>
    if isDigits one && isDigits two && isDigits three then
      (if 2 < one.length then date? (value one) (value two) (value three)
      else date? (fullYear three) (value one) (value two))
    else none
  | _, [month, day] =>
    if isDigits month && isDigits day then date? now.date.year.toNat (value month) (value day) else none
  | _, _ =>
    if isDigits word && word.length = 8 then
      date? (value (word.take 4)) (value ((word.drop 4).take 2)) (value (word.drop 6))
    else none

/-- Reads words one after another. -/
def words (now : Moment) : Nat → List Octets → Words → Option Words
  | 0, _, _ => none
  | _, [], read => some read
  | fuel + 1, word :: rest, read =>
    let name := (spelled word).toLower
    let following := (rest.head?.map fun word => (spelled word).toLower).getD ""
    let step (count : Int) (unit : Int × Int × Int) (rest : List Octets) : Option Words :=
      let ago : Bool := (rest.head?.map fun word => (spelled word).toLower) = some "ago"
      let count := if ago then -count else count
      words now fuel (if ago then rest.drop 1 else rest) { read with
        months := read.months + count * unit.1
        days := read.days + count * unit.2.1, seconds := read.seconds + count * unit.2.2 }
    let timed (found : (Int × Nat)) (rest : List Octets) : Option Words :=
      let (time, rest) := match (rest.head?.map fun word => (spelled word).toLower) with
        | some "am" => ((if found.1 / 3600 = 12 then found.1 - 43200 else found.1), rest.drop 1)
        | some "pm" => ((if found.1 / 3600 = 12 then found.1 else found.1 + 43200), rest.drop 1)
        | _ => (found.1, rest)
      words now fuel rest { read with time := some (time, found.2) }
    let counted (sign : Int) (digits : Octets) (rest : List Octets) : Option Words :=
      let number := digits.takeWhile Char.isDigit
      let unit := digits.drop number.length
      let (unit, rest) := if unit = [] then (rest.headD [], rest.drop 1) else (unit, rest)
      if number = [] then none
      else (unit? (spelled unit).toLower).bind fun unit => step (sign * valueIn 10 number) unit rest
    match name with
    | "now" | "today" | "and" | "at" | "on" => words now fuel rest read
    | "yesterday" => words now fuel rest { read with days := read.days - 1 }
    | "tomorrow" => words now fuel rest { read with days := read.days + 1 }
    | "midnight" => words now fuel rest { read with time := some (0, 0) }
    | "noon" => words now fuel rest { read with time := some (43200, 0) }
    | "next" => match unit? following, named? weekdayNames following with
      | some unit, _ => step 1 unit (rest.drop 1)
      | none, some day => words now fuel (rest.drop 1) { read with weekday := some (day, 1) }
      | none, none => none
    | "last" => match unit? following, named? weekdayNames following with
      | some unit, _ => step (-1) unit (rest.drop 1)
      | none, some day => words now fuel (rest.drop 1) { read with weekday := some (day, -1) }
      | none, none => none
    | "this" => words now fuel (rest.drop 1) read
    | _ =>
      match word with
      | '@' :: digits =>
        let number := (Floating.front .extended digits).map (·.2)
        let negative : Bool := digits.head? = some '-'
        let bare := if negative then digits.drop 1 else digits
        let whole := bare.takeWhile Char.isDigit
        let part := (bare.drop (whole.length + 1)).takeWhile Char.isDigit
        if whole = [] || number ≠ some [] || bare.any (fun c => !c.isDigit && c ≠ '.') then none
        else
          let seconds : Int := if negative then -(valueIn 10 whole) else valueIn 10 whole
          let billionths := valueIn 10 ((part ++ List.replicate 9 '0').take 9)
          let moment : Moment := if negative && 0 < billionths then ⟨seconds - 1, Nat.pow 10 9 - billionths⟩
            else ⟨seconds, billionths⟩
          words now fuel rest { read with moment := some moment }
      | _ =>
        match digitsDate? now word with
        | some day => words now fuel rest { read with day := some day }
        | none =>
          let front := word.takeWhile (· ≠ 'T')
          match digitsDate? now front, time? (word.drop (front.length + 1)) with
          | some day, some (time, more) =>
            words now fuel (if more = [] then rest else more :: rest)
              { read with day := some day, time := some time }
          | _, _ =>
            match time? word with
            | some (time, []) => timed time rest
            | some (time, more) => timed time (more :: rest)
            | none =>
              match zone? word, (read.time.isSome : Bool) with
              | some ahead, true => words now fuel rest { read with ahead }
              | zone, _ =>
                match named? monthNames (spelled (word.filter (· ≠ ','))) with
                | some month =>
                  let day := (rest.headD []).filter (· ≠ ',')
                  let year := rest.getD 1 []
                  let hasYear : Bool := isDigits year && year.length = 4
                  if !isDigits day then none
                  else (date? (if hasYear then valueIn 10 year else now.date.year.toNat) (month + 1)
                      (valueIn 10 day)).bind fun day =>
                    words now fuel (rest.drop (if hasYear then 2 else 1)) { read with day := some day }
                | none =>
                  match named? weekdayNames (spelled (word.filter (· ≠ ','))) with
                  | some day => words now fuel rest { read with weekday := some (day, 0) }
                  | none =>
                    match word with
                    | '+' :: digits => counted 1 (if digits = [] then rest.headD [] else digits)
                        (if digits = [] then rest.drop 1 else rest)
                    | '-' :: digits => counted (-1) (if digits = [] then rest.headD [] else digits)
                        (if digits = [] then rest.drop 1 else rest)
                    | _ =>
                      match unit? name with
                      | some unit => step 1 unit rest
                      | none =>
                        let digits := word.takeWhile Char.isDigit
                        let behind := word.drop digits.length
                        let month := named? monthNames following
                        let value := valueIn 10 digits
                        if digits = [] then
                          (if zone.isSome then words now fuel rest read else none)
                        else if behind = [] && month.isSome then
                          let year := rest.getD 1 []
                          let hasYear : Bool := isDigits year && year.length = 4
                          (date? (if hasYear then valueIn 10 year else now.date.year.toNat)
                            (month.getD 0 + 1) value).bind fun day =>
                            words now fuel (rest.drop (if hasYear then 2 else 1)) { read with day := some day }
                        else if following = "am" || following = "pm" then timed ((value * 3600 : Nat), 0) rest
                        else if behind = [] && (unit? following).isNone then
                          match read.day with
                          | some (_, month, day) =>
                            if digits.length = 4 && read.time.isSome then
                              words now fuel rest { read with day := some ((value : Int), month, day) }
                            else if digits.length = 4 then
                              words now fuel rest { read with time := some ((value / 100 * 3600 + value % 100 * 60 : Nat), 0) }
                            else none
                          | none => if digits.length ≤ 2 && value < 24 then
                              words now fuel rest { read with time := some ((value * 3600 : Nat), 0) } else none
                        else if behind = octets "am" || behind = octets "pm" then
                          timed ((value * 3600 : Nat), 0) (behind :: rest)
                        else counted 1 word rest

/-- The time that a text stands for. -/
def read (now : Moment) (text : Octets) : Option Moment := do
  let given := (text.splitOnP isSpace).filter (· ≠ [])
  let said ← words now (2 * text.length + 2) given {}
  match said.moment with
  | some moment => some moment
  | none =>
    let fixed : Bool := said.day.isSome || said.weekday.isSome
    let today := now.date
    let (year, month, day) := said.day.getD (today.year, today.month, today.day)
    let count := year * 12 + (month - 1 : Nat) + said.months
    let base := daysOf (count.fdiv 12) ((count.fmod 12).toNat + 1) 1 + (day - 1 : Nat)
    let base := match said.weekday, said.day with
      | some (wanted, weeks), none =>
        let behind : Int := ((wanted : Int) - now.weekday).fmod 7
        base + behind + (if weeks = 1 && behind = 0 then 7 else if weeks = -1 then -7 else 0)
      | _, _ => base
    let (time, part) := said.time.getD (if fixed then (0, 0) else ((now.ofDay : Int), now.part))
    return ⟨(base + said.days) * 86400 + time + said.seconds - said.ahead, part⟩

end Moment

/-- The time that a text stands for, in microseconds. -/
def dateTime (now : Nat) (text : Octets) : Option Nat :=
  (Moment.read (.ofMicroseconds now) text).map Moment.microseconds

/-- The time that digits stand for: perhaps a year, then two digits each for the month, the day, the hour
and the minute, and perhaps the second behind a point. -/
def stampTime (now : Nat) (text : Octets) : Option Nat :=
  let digits := text.takeWhile Char.isDigit
  let second := match text.drop digits.length with
    | [] => some 0
    | '.' :: rest => if isDigits rest && rest.length = 2 then some (valueIn 10 rest) else none
    | _ => none
  let short := digits.drop (digits.length - 8)
  let front := digits.take (digits.length - 8)
  let year := match front.length with
    | 0 => some (Moment.ofMicroseconds now).date.year.toNat
    | 2 | 4 => some (Moment.fullYear front)
    | _ => none
  let part (index : Nat) : Nat := valueIn 10 ((short.drop (2 * index)).take 2)
  if short.length ≠ 8 || 23 < part 2 || 59 < part 3 then none
  else do
    let second ← second
    let (year, month, day) ← Moment.date? (← year) (part 0) (part 1)
    let moment : Moment := ⟨daysOf year month day * 86400 + (part 2 * 3600 + part 3 * 60 + second : Nat), 0⟩
    return moment.microseconds

/-- Puts out a time. -/
def date (call : Call) : Act Nat :=
  let known : List Choice := [("d", "date", .value), ("f", "file", .value), ("I", "iso-8601", .perhaps),
    ("R", "rfc-email", .nothing), ("", "rfc-3339", .value), ("r", "reference", .value), ("s", "set", .value),
    ("u", "utc", .nothing), ("u", "universal", .nothing), ("", "debug", .nothing)]
  withOptions known true 1 call fun options => do
    let now := (← tree).now
    let zone := octets "%:z"
    let format : Except Octets Octets := match options.last? "I", options.last? "rfc-3339", options.has "R" with
      | some kind, _, _ => match spelled kind with
        | "" | "date" => .ok (octets "%Y-%m-%d")
        | "hours" | "h" => .ok (octets "%Y-%m-%dT%H" ++ zone)
        | "minutes" | "m" => .ok (octets "%Y-%m-%dT%H:%M" ++ zone)
        | "seconds" | "s" => .ok (octets "%Y-%m-%dT%H:%M:%S" ++ zone)
        | "ns" | "n" => .ok (octets "%Y-%m-%dT%H:%M:%S,%N" ++ zone)
        | _ => .error kind
      | none, some kind, _ => match spelled kind with
        | "date" => .ok (octets "%Y-%m-%d")
        | "seconds" => .ok (octets "%Y-%m-%d %H:%M:%S" ++ zone)
        | "ns" => .ok (octets "%Y-%m-%d %H:%M:%S.%N" ++ zone)
        | _ => .error kind
      | none, none, true => .ok (octets "%a, %d %b %Y %H:%M:%S %z")
      | none, none, false => .ok (octets "%a %b %e %H:%M:%S %Z %Y")
    let wanted : Option (Except Octets Octets) := match options.rest with
      | [] => some format
      | [('+' :: format)] => some (.ok format)
      | _ => none
    match options.rest, wanted, format with
    | _ :: word :: _, _, _ => extra call word
    | [word], none, _ => scold call.name (octets "invalid date " ++ inQuotes word)
    | _, _, .error kind => misused call.name (octets "invalid argument " ++ inQuotes kind ++ octets " for '--iso-8601'")
    | _, wanted, .ok usual =>
      let format := match wanted with
        | some (.ok format) => format
        | _ => usual
      let give (moment : Moment) : Act Nat := do
        put (moment.written (4 * format.length + 64) format ++ ['\n'])
        return 0
      match options.last? "d", options.last? "r" with
      | some text, _ => match Moment.read (.ofMicroseconds now) text with
        | some moment => give moment
        | none => scold call.name (octets "invalid date " ++ inQuotes text)
      | none, some name => match (← tree).find (spelled name) with
        | .ok node => give (.ofMicroseconds node.time)
        | .error fault => scold call.name (asWord name ++ octets ": " ++ reason fault)
      | none, none => give (.ofMicroseconds now)

end Workyard.Shell.Program
