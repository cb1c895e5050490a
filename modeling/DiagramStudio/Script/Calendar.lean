import DiagramStudio.Naming.Timestamp
import DiagramStudio.Script.Tool

/-!
Dates: the seconds since the year 1970 as a date and a time of day, the same the other way round, dates in
a format, and the dates that words spell. There is one time zone, that of Greenwich.
-/

namespace DiagramStudio

namespace Timestamp

/-- The days from the first of January 1970 to a date; months may lie outside of the year, and days outside
    of the month. -/
def daysOf (year : Int) (month day : Int) : Int :=
  let months := year * 12 + month - 1
  let year := months / 12
  let month := (months % 12).toNat + 1
  -- The year begins in March, so that the day which some years have more comes last.
  let start := if month ≤ 2 then year - 1 else year
  let era := start / 400
  let yearOfEra := start % 400
  let monthFromMarch : Int := (month + 9) % 12
  let dayOfYear := (153 * monthFromMarch + 2) / 5 + day - 1
  era * 146097 + yearOfEra * 365 + yearOfEra / 4 - yearOfEra / 100 + dayOfYear - 719468

/-- The seconds from the beginning of 1970 to a time. -/
def toSeconds (t : Timestamp) : Int :=
  daysOf t.year t.month t.day * 86400 + t.hour * 3600 + t.minute * 60 + t.second

/-- The date that lies so many days behind the first of January 1970. -/
def ofDays (days : Int) : Timestamp :=
  let shifted := days + 719468
  let era := shifted / 146097
  let dayOfEra := shifted % 146097
  let yearOfEra := (dayOfEra - dayOfEra / 1460 + dayOfEra / 36524 - dayOfEra / 146096) / 365
  let dayOfYear := dayOfEra - (365 * yearOfEra + yearOfEra / 4 - yearOfEra / 100)
  let monthFromMarch := (5 * dayOfYear + 2) / 153
  let day := dayOfYear - (153 * monthFromMarch + 2) / 5 + 1
  let month := if monthFromMarch < 10 then monthFromMarch + 3 else monthFromMarch - 9
  let year := yearOfEra + era * 400 + (if month ≤ 2 then 1 else 0)
  ⟨year, month.toNat, day.toNat, 0, 0, 0⟩

/-- The time that lies so many seconds behind the beginning of 1970. -/
def ofSeconds (seconds : Int) : Timestamp :=
  let rest := (seconds % 86400).toNat
  { ofDays (seconds / 86400) with hour := rest / 3600, minute := rest / 60 % 60, second := rest % 60 }

/-- The day of the week; zero is Sunday. -/
def weekday (t : Timestamp) : Nat := ((daysOf t.year t.month t.day + 4) % 7).toNat

/-- The day of the year; the first is zero. -/
def dayOfYear (t : Timestamp) : Nat := (daysOf t.year t.month t.day - daysOf t.year 1 1).toNat

/-- The week of the year, and the year that it belongs to, if weeks begin on Monday and belong to the year
    that most of their days are in. -/
def isoWeek (t : Timestamp) : Int × Nat :=
  let sinceMonday : Int := (t.weekday + 6) % 7
  let thursday := ofDays (daysOf t.year t.month t.day - sinceMonday + 3)
  (thursday.year, thursday.dayOfYear / 7 + 1)

end Timestamp

namespace Script.Calendar

open Timestamp (padded)

def weekdayNames : List String :=
  ["Sunday", "Monday", "Tuesday", "Wednesday", "Thursday", "Friday", "Saturday"]

def monthNames : List String :=
  ["January", "February", "March", "April", "May", "June", "July", "August", "September", "October",
    "November", "December"]

/-- The nanoseconds of a second. -/
def second : Int := 1000000000

/-- How a number or a name is filled up. -/
structure Filling where
  /-- The sign that was given for it, if one was. -/
  sign : Option Char
  width : Option Nat

/-- A number in so many digits, filled up with zeros, blanks or nothing. -/
def filled (f : Filling) (usual : Char) (width : Nat) (n : Int) : List Char :=
  let pad := match f.sign with
    | some '-' => none
    | some '_' => some ' '
    | some '0' => some '0'
    | _ => some usual
  let digits := shown n.natAbs
  let width := f.width.getD width
  match pad with
  | none => if n < 0 then '-' :: digits else digits
  | some c =>
    let width := if n < 0 then width - 1 else width
    let body := List.replicate (width - digits.length) c ++ digits
    if n < 0 then '-' :: body else body

/-- A name in a width, in capitals if that is asked for. -/
def filledName (f : Filling) (name : List Char) : List Char :=
  let name := match f.sign with
    | some '^' | some '#' => name.map Char.toUpper
    | _ => name
  let pad := if f.sign = some '0' then '0' else ' '
  List.replicate (f.width.getD 0 - name.length) pad ++ name

/-- What a letter of a format stands for at a time in nanoseconds. Every unit of fuel pays for a letter that
    stands for others. -/
def field (now : Int) : Nat → Filling → Char → List Char
  | 0, _, _ => []
  | fuel + 1, f, letter =>
    let seconds := now / second
    let t := Timestamp.ofSeconds seconds
    let two (n : Int) : List Char := filled f '0' 2 n
    let all (letters : String) : List Char :=
      filledName f (letters.toList.flatMap fun c =>
        if c.isAlpha then field now fuel ⟨none, none⟩ c else [c])
    let hour12 := if t.hour % 12 = 0 then 12 else t.hour % 12
    let month := (monthNames.getD (t.month - 1) "").toList
    let day := (weekdayNames.getD t.weekday "").toList
    match letter with
    | '%' => ['%']
    | 'n' => ['\n']
    | 't' => ['\t']
    | 'a' => filledName f (day.take 3)
    | 'A' => filledName f day
    | 'b' | 'h' => filledName f (month.take 3)
    | 'B' => filledName f month
    | 'c' => all "a b e H:M:S Y"
    | 'C' => filled f '0' 2 (t.year / 100)
    | 'd' => two t.day
    | 'D' | 'x' => all "m/d/y"
    | 'e' => filled f ' ' 2 t.day
    | 'F' => all "Y-m-d"
    | 'g' => two (t.isoWeek.1 % 100)
    | 'G' => filled f '0' 4 t.isoWeek.1
    | 'H' => two t.hour
    | 'I' => two hour12
    | 'j' => filled f '0' 3 (t.dayOfYear + 1)
    | 'k' => filled f ' ' 2 t.hour
    | 'l' => filled f ' ' 2 hour12
    | 'm' => two t.month
    | 'M' => two t.minute
    | 'N' => padded 9 (now % second).toNat
    | 'p' => filledName (if f.sign = some '#' then { f with sign := none } else f)
        (let name := if t.hour < 12 then "AM" else "PM"
         if f.sign = some '#' then name.toList.map Char.toLower else name.toList)
    | 'P' => filledName f (if t.hour < 12 then "am" else "pm").toList
    | 'q' => filled f '0' 1 ((t.month - 1) / 3 + 1)
    | 'r' => all "I:M:S p"
    | 'R' => all "H:M"
    | 's' => filled f '0' 1 seconds
    | 'S' => two t.second
    | 'T' | 'X' => all "H:M:S"
    | 'u' => filled f '0' 1 (if t.weekday = 0 then 7 else t.weekday)
    | 'U' => two ((t.dayOfYear + 7 - t.weekday) / 7)
    | 'V' => two t.isoWeek.2
    | 'w' => filled f '0' 1 t.weekday
    | 'W' => two ((t.dayOfYear + 7 - (t.weekday + 6) % 7) / 7)
    | 'y' => two (t.year % 100)
    | 'Y' => filled f '0' 4 t.year
    | 'z' => "+0000".toList
    | 'Z' => filledName f "UTC".toList
    | other => ['%', other]

/-- A format filled in with a time in nanoseconds. Every unit of fuel pays for a character. -/
def format (now : Int) : Nat → List Char → List Char
  | 0, _ => []
  | _ + 1, [] => []
  | fuel + 1, '%' :: rest =>
    let signs := rest.takeWhile fun c => c == '-' || c == '_' || c == '0' || c == '^' || c == '#'
    let behind := rest.drop signs.length
    let digits := behind.takeWhile Char.isDigit
    let width := if digits.isEmpty then none else (String.ofList digits).toNat?
    let f : Filling := ⟨signs.getLast?, width⟩
    match behind.drop digits.length with
    | [] => '%' :: rest
    | ':' :: 'z' :: more => "+00:00".toList ++ format now fuel more
    | 'E' :: c :: more => field now 4 f c ++ format now fuel more
    | 'O' :: c :: more => field now 4 f c ++ format now fuel more
    | 'N' :: more =>
      let digits := padded 9 (now % second).toNat
      (match f.width with
        | some n => digits.take n
        | none => digits) ++ format now fuel more
    | c :: more => field now 4 f c ++ format now fuel more
  | fuel + 1, c :: rest => c :: format now fuel rest

/-! ## Words -/

/-- A part of a text that spells a date. -/
inductive Piece where
  | number (digits : List Char)
  | word (letters : List Char)
  | sign (c : Char)
deriving Repr, DecidableEq, Inhabited

/-- The parts of a text. Every unit of fuel pays for one. -/
def pieces : Nat → List Char → List Piece
  | 0, _ => []
  | _ + 1, [] => []
  | fuel + 1, c :: rest =>
    if c.isDigit then
      let digits := (c :: rest).takeWhile Char.isDigit
      .number digits :: pieces fuel ((c :: rest).drop digits.length)
    else if c.isAlpha then
      let letters := (c :: rest).takeWhile Char.isAlpha
      let behind := (c :: rest).drop letters.length
      .word (letters.map Char.toLower) :: pieces fuel (if behind.head? = some '.' then behind.tail else behind)
    else if c = ' ' ∨ c = '\t' ∨ c = ',' then pieces fuel rest
    else .sign c :: pieces fuel rest

/-- A date as far as it has been read: what replaces parts of the present time, and what is added. -/
structure Reading where
  year : Option Int
  month : Int
  day : Int
  hasDate : Bool
  /-- The time of day in nanoseconds. -/
  time : Option Int
  /-- What the place of the day adds to the time, in seconds. -/
  zone : Int
  weekday : Option (Nat × Int)
  months : Int
  days : Int
  /-- What is added, in nanoseconds. -/
  more : Int

def numberOf (digits : List Char) : Int := ((String.ofList digits).toNat?.getD 0 : Nat)

/-- The number of a name among names, which may be given by their first three letters. -/
def named? (names : List String) (word : List Char) : Option Nat :=
  names.findIdx? fun name =>
    let name := name.toList.map Char.toLower
    name == word || (word.length == 3 && name.take 3 == word) || (word == "sept".toList && name.take 4 == word)

/-- What a unit of time adds: months, days and nanoseconds. -/
def unit? (word : List Char) : Option (Int × Int × Int) :=
  let word := if word.length > 3 && word.getLast? = some 's' then word.dropLast else word
  entryFor? (String.ofList word)
    [("year", (12, 0, 0)), ("month", (1, 0, 0)), ("fortnight", (0, 14, 0)), ("week", (0, 7, 0)), ("day", (0, 1, 0)),
      ("hour", (0, 0, 3600)), ("minute", (0, 0, 60)), ("min", (0, 0, 60)), ("second", (0, 0, 1)), ("sec", (0, 0, 1))]

/-- The words that stand for numbers. -/
def ordinal? (word : List Char) : Option Int :=
  entryFor? (String.ofList word)
    [("last", -1), ("this", 0), ("next", 1), ("third", 3), ("fourth", 4), ("fifth", 5), ("sixth", 6),
      ("seventh", 7), ("eighth", 8), ("ninth", 9), ("tenth", 10), ("eleventh", 11), ("twelfth", 12)]

/-- So many of a unit, or as many before if the word behind them says so. -/
def shifted (r : Reading) (count : Int) (u : Int × Int × Int) (rest : List Piece) : Reading × List Piece :=
  let (count, rest) := match rest with
    | .word ['a', 'g', 'o'] :: more => (-count, more)
    | _ => (count, rest)
  ({ r with months := r.months + count * u.1, days := r.days + count * u.2.1
            more := r.more + count * u.2.2 * second }, rest)

/-- A time of day: hours, minutes, and what may follow them. -/
def clock? (hour minute : List Char) (rest : List Piece) : Option (Int × List Piece) :=
  let (seconds, rest) : Int × List Piece := match rest with
    | .sign ':' :: .number s :: .sign '.' :: .number fraction :: more =>
      (numberOf s * second + numberOf ((fraction ++ List.replicate 9 '0').take 9), more)
    | .sign ':' :: .number s :: more => (numberOf s * second, more)
    | _ => (0, rest)
  let h := numberOf hour
  let (h?, rest) : Option Int × List Piece := match rest with
    | .word ['a', 'm'] :: more => (if 1 ≤ h ∧ h ≤ 12 then some (h % 12) else none, more)
    | .word ['p', 'm'] :: more => (if 1 ≤ h ∧ h ≤ 12 then some (h % 12 + 12) else none, more)
    | _ => (if h < 24 then some h else none, rest)
  match h? with
  | some h =>
    if numberOf minute < 60 ∧ seconds ≤ 60 * second then
      some ((h * 3600 + numberOf minute * 60) * second + seconds, rest)
    else none
  | none => none

/-- How far a zone is off, and what follows it. -/
def zone (negative : Bool) (digits : List Char) (rest : List Piece) : Int × List Piece :=
  let (seconds, rest) : Int × List Piece :=
    if digits.length ≤ 2 then
      match rest with
      | .sign ':' :: .number m :: more => (numberOf digits * 3600 + numberOf m * 60, more)
      | _ => (numberOf digits * 3600, rest)
    else (numberOf digits / 100 * 3600 + numberOf digits % 100 * 60, rest)
  (if negative then -seconds else seconds, rest)

/-- A date in numbers. -/
def dated? (r : Reading) (year : Option Int) (month day : Int) : Option Reading :=
  if r.hasDate then none
  else if 1 ≤ month ∧ month ≤ 12 ∧ 1 ≤ day ∧ day ≤ Timestamp.monthLength (year.getD 2000) month.toNat then
    some { r with year := year <|> r.year, month, day, hasDate := true }
  else none

/-- A year that may be given by its last two digits. -/
def yearOf (digits : List Char) : Int :=
  let n := numberOf digits
  if digits.length ≤ 2 then (if n < 69 then n + 2000 else n + 1900) else n

/-- The parts of a text taken up one after another. Every unit of fuel pays for some. -/
def take? : Nat → Reading → List Piece → Option Reading
  | 0, _, _ => none
  | _ + 1, r, [] => some r
  | fuel + 1, r, ps =>
    match ps with
    | .number y :: .sign '-' :: .number m :: .sign '-' :: .number d :: rest =>
      let rest := match rest with
        | .word ['t'] :: more => more
        | _ => rest
      (dated? r (some (yearOf y)) (numberOf m) (numberOf d)).bind (take? fuel · rest)
    | .number m :: .sign '/' :: .number d :: .sign '/' :: .number y :: rest =>
      if 2 < m.length then (dated? r (some (numberOf m)) (numberOf d) (numberOf y)).bind (take? fuel · rest)
      else (dated? r (some (yearOf y)) (numberOf m) (numberOf d)).bind (take? fuel · rest)
    | .number m :: .sign '/' :: .number d :: rest =>
      (dated? r none (numberOf m) (numberOf d)).bind (take? fuel · rest)
    | .number h :: .sign ':' :: .number m :: rest =>
      if r.time.isSome then none
      else
        match clock? h m rest with
        | some (time, rest) =>
          let r := { r with time := some time }
          match rest with
          | .sign '+' :: .number z :: more =>
            let (off, more) := zone false z more
            take? fuel { r with zone := off } more
          | .sign '-' :: .number z :: more =>
            let (off, more) := zone true z more
            take? fuel { r with zone := off } more
          | _ => take? fuel r rest
        | none => none
    | .number d :: .sign '-' :: .word w :: .sign '-' :: .number y :: rest =>
      match named? monthNames w with
      | some m => (dated? r (some (yearOf y)) (m + 1) (numberOf d)).bind (take? fuel · rest)
      | none => none
    | .sign s :: .number n :: .word w :: rest =>
      match unit? w with
      | some u =>
        if s = '+' ∨ s = '-' then
          let (r, rest) := shifted r (if s = '-' then -numberOf n else numberOf n) u rest
          take? fuel r rest
        else none
      | none => none
    | .number n :: .word w :: rest =>
      match unit? w, named? monthNames w with
      | some u, _ =>
        let (r, rest) := shifted r (numberOf n) u rest
        take? fuel r rest
      | none, some m =>
        match rest with
        | .number y :: .sign ':' :: _ => (dated? r none (m + 1) (numberOf n)).bind (take? fuel · (.number y :: rest.tail))
        | .number y :: more => (dated? r (some (yearOf y)) (m + 1) (numberOf n)).bind (take? fuel · more)
        | _ => (dated? r none (m + 1) (numberOf n)).bind (take? fuel · rest)
      | none, none =>
        if (w = ['a', 'm'] ∨ w = ['p', 'm']) ∧ r.time.isNone then
          match clock? n ['0'] (.word w :: rest) with
          | some (time, rest) => take? fuel { r with time := some time } rest
          | none => none
        else none
    | .number digits :: rest =>
      if digits.length = 8 then
        (dated? r (some (numberOf (digits.take 4))) (numberOf ((digits.drop 4).take 2))
          (numberOf (digits.drop 6))).bind (take? fuel · rest)
      else if r.hasDate && r.time.isNone && digits.length ≤ 4 then
        let (h, m) := if digits.length ≤ 2 then (digits, ['0']) else (digits.dropLast.dropLast, digits.drop (digits.length - 2))
        match clock? h m [] with
        | some (time, _) => take? fuel { r with time := some time } rest
        | none => none
      else if r.time.isNone && digits.length ≤ 4 then
        let (h, m) := if digits.length ≤ 2 then (digits, ['0']) else (digits.dropLast.dropLast, digits.drop (digits.length - 2))
        match clock? h m [] with
        | some (time, _) => take? fuel { r with time := some time } rest
        | none => none
      else none
    | .word w :: rest =>
      match String.ofList w with
      | "now" => take? fuel r rest
      | "today" => take? fuel r rest
      | "yesterday" => take? fuel { r with days := r.days - 1 } rest
      | "tomorrow" => take? fuel { r with days := r.days + 1 } rest
      | "noon" => take? fuel { r with time := some (43200 * second) } rest
      | "midnight" => take? fuel { r with time := some 0 } rest
      | "z" | "utc" | "gmt" | "ut" => take? fuel r rest
      | _ =>
        match ordinal? w, rest with
        | some n, .word u :: more =>
          match unit? u, named? weekdayNames u with
          | some u, _ =>
            let (r, more) := shifted r n u more
            take? fuel r more
          | none, some day => take? fuel { r with weekday := some (day, n) } more
          | none, none => none
        | some _, _ => none
        | none, _ =>
          match named? monthNames w, named? weekdayNames w, unit? w with
          | some m, _, _ =>
            match rest with
            | .number d :: .number y :: .sign ':' :: more =>
              (dated? r none (m + 1) (numberOf d)).bind (take? fuel · (.number y :: .sign ':' :: more))
            | .number d :: .number y :: more =>
              (dated? r (some (yearOf y)) (m + 1) (numberOf d)).bind (take? fuel · more)
            | .number d :: more => (dated? r none (m + 1) (numberOf d)).bind (take? fuel · more)
            | _ => none
          | none, some day, _ => take? fuel { r with weekday := some (day, 0) } rest
          | none, none, some u =>
            let (r, rest) := shifted r 1 u rest
            take? fuel r rest
          | none, none, none => none
    | .sign _ :: _ => none
    | [] => some r

/-- The time in nanoseconds that a text spells at a time. -/
def read? (now : Int) (s : List Char) : Option Int :=
  let s := (s.dropWhile (· == ' '))
  match s with
  | '@' :: digits =>
    let (negative, digits) := match digits with
      | '-' :: more => (true, more)
      | '+' :: more => (false, more)
      | _ => (false, digits)
    let whole := digits.takeWhile Char.isDigit
    let fraction := match digits.drop whole.length with
      | '.' :: more => if !more.isEmpty && more.all Char.isDigit then some more else none
      | [] => some []
      | _ => none
    match fraction with
    | some fraction =>
      if whole.isEmpty then none
      else
        let n := numberOf whole * second + numberOf ((fraction ++ List.replicate 9 '0').take 9)
        some (if negative then -n else n)
    | none => none
  | _ =>
    let present := Timestamp.ofSeconds (now / second)
    match take? (s.length + 2) ⟨none, present.month, present.day, false, none, 0, none, 0, 0, 0⟩ (pieces (s.length + 1) s) with
    | none => none
    | some r =>
      let moved := r.months != 0 || r.days != 0 || r.more != 0
      let time := match r.time with
        | some time => time
        | none =>
          if r.hasDate || r.weekday.isSome || (s.isEmpty && !moved) then 0 else now % (86400 * second)
      let date := Timestamp.daysOf (r.year.getD present.year) (r.month + r.months) (r.day + r.days)
      let date := match r.weekday with
        | some (day, n) =>
          let ahead := ((day : Int) - (date + 4) % 7) % 7
          date + ahead + 7 * (if 0 < n ∧ ahead ≠ 0 then n - 1 else n)
        | none => date
      some (date * 86400 * second + time - r.zone * second + r.more)

end Script.Calendar

end DiagramStudio
