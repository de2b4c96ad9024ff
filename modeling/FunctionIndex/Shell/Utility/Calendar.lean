import FunctionIndex.Shell.Work

/-!
# Dates

A time is a number of billionths of a second since the start of 1970.  It is broken down into a
date of the Gregorian calendar and a time of day, read from the usual ways to write a date, and
written by a format.
-/

namespace FunctionIndex

namespace Shell

namespace Calendar

open Json (octet isDigit)

/-- Billionths in a second. -/
def billion : Int := 1000000000

/-- Seconds in a day. -/
def secondsPerDay : Int := 86400

/-- A date and a time of day. -/
structure Moment where
  year : Int
  month : Nat
  day : Nat
  hour : Nat := 0
  minute : Nat := 0
  second : Nat := 0
  /-- Billionths of a second. -/
  fraction : Nat := 0
  deriving DecidableEq, Repr

/-- Whether a year has a day more. -/
def isLeap (y : Int) : Bool := y % 4 == 0 && (y % 100 != 0 || y % 400 == 0)

/-- Number of days in a month. -/
def daysIn (y : Int) (m : Nat) : Nat :=
  match m with
  | 2 => if isLeap y then 29 else 28
  | 4 | 6 | 9 | 11 => 30
  | _ => 31

/-- The number of days from the start of 1970 to a date. -/
def dayNumber (y : Int) (m d : Nat) : Int :=
  let y := if m ≤ 2 then y - 1 else y
  let era := y.fdiv 400
  let ofEra := y - era * 400
  let shifted : Int := ((m : Nat) + 9 : Int) % 12
  let ofYear := (153 * shifted + 2) / 5 + (d : Nat) - 1
  era * 146097 + ofEra * 365 + ofEra / 4 - ofEra / 100 + ofYear - 719468

/-- The year, month and day of a number of days. -/
def dateOf (n : Int) : Int × Nat × Nat :=
  let z := n + 719468
  let era := z.fdiv 146097
  let ofEra := z - era * 146097
  let years := (ofEra - ofEra / 1460 + ofEra / 36524 - ofEra / 146096) / 365
  let ofYear := ofEra - (365 * years + years / 4 - years / 100)
  let shifted := (5 * ofYear + 2) / 153
  let d := ofYear - (153 * shifted + 2) / 5 + 1
  let m := if shifted < 10 then shifted + 3 else shifted - 9
  (years + era * 400 + (if m ≤ 2 then 1 else 0), m.toNat, d.toNat)

/-- The time of a moment. -/
def Moment.time (m : Moment) : Int :=
  let seconds := (m.hour * 3600 + m.minute * 60 + m.second : Nat)
  (dayNumber m.year m.month m.day * secondsPerDay + seconds) * billion + (m.fraction : Nat)

/-- The moment of a time. -/
def momentOf (t : Int) : Moment :=
  let seconds := t.fdiv billion
  let days := seconds.fdiv secondsPerDay
  let ofDay := (seconds - days * secondsPerDay).toNat
  let (year, month, day) := dateOf days
  { year, month, day, hour := ofDay / 3600, minute := ofDay / 60 % 60, second := ofDay % 60
    fraction := (t - seconds * billion).toNat }

/-- Whether a moment exists. -/
def Moment.isValid (m : Moment) : Bool :=
  1 ≤ m.month && m.month ≤ 12 && 1 ≤ m.day && m.day ≤ daysIn m.year m.month && m.hour < 24 &&
    m.minute < 60 && m.second ≤ 60

/-- The day of the week, zero for Sunday. -/
def Moment.weekday (m : Moment) : Nat := ((dayNumber m.year m.month m.day + 4) % 7).toNat

/-- The day of the year, from zero on. -/
def Moment.yearDay (m : Moment) : Nat :=
  (dayNumber m.year m.month m.day - dayNumber m.year 1 1).toNat

/-- The names of the months. -/
def monthNames : List String :=
  ["January", "February", "March", "April", "May", "June", "July", "August", "September",
    "October", "November", "December"]

/-- The names of the days of the week. -/
def dayNames : List String :=
  ["Sunday", "Monday", "Tuesday", "Wednesday", "Thursday", "Friday", "Saturday"]

/-! ### Reading -/

/-- The number that digits spell. -/
def numberOf (s : List Char) : Nat := s.foldl (fun n c => n * 10 + (c.toNat - 0x30)) 0

/-- The digits of a fraction as billionths. -/
def billionths (s : List Char) : Nat := numberOf ((s ++ List.replicate 9 '0').take 9)

/-- A time of day and what follows it. -/
def clock? (s : List Char) : Option ((Nat × Nat × Nat × Nat) × List Char) :=
  let h := s.takeWhile Char.isDigit
  match h, s.drop h.length with
  | [], _ => none
  | h, ':' :: r =>
    let m := r.takeWhile Char.isDigit
    if h.length > 2 || m.length > 2 || m.isEmpty then none
    else
      match r.drop m.length with
      | ':' :: r =>
        let sec := r.takeWhile Char.isDigit
        match r.drop sec.length with
        | '.' :: r =>
          let f := r.takeWhile Char.isDigit
          some ((numberOf h, numberOf m, numberOf sec, billionths f), r.drop f.length)
        | r => some ((numberOf h, numberOf m, numberOf sec, 0), r)
      | r => some ((numberOf h, numberOf m, 0, 0), r)
  | _, _ => none

/-- The seconds by which a zone is ahead. -/
def zone? (s : List Char) : Option Int :=
  match s with
  | [] => some 0
  | ['z'] | ['u', 't', 'c'] | ['g', 'm', 't'] => some 0
  | sign :: r =>
    let ds := r.filter (· != ':')
    if (sign != '+' && sign != '-') || ds.isEmpty || !ds.all Char.isDigit || ds.length > 4 then none
    else
      let n := numberOf ds
      let seconds : Int :=
        if ds.length ≤ 2 then (n * 3600 : Nat) else ((n / 100) * 3600 + n % 100 * 60 : Nat)
      some (if sign == '-' then -seconds else seconds)

/-- A date written with hyphens or slashes, or as eight digits. -/
def date? (s : List Char) : Option (Int × Nat × Nat) :=
  let parts (c : Char) : List (List Char) := s.splitOn c
  let numbers (ps : List (List Char)) : Option (List Nat) :=
    ps.mapM fun p => if p.isEmpty || !p.all Char.isDigit then none else some (numberOf p)
  match numbers (parts '-'), numbers (parts '/') with
  | some [y, m, d], _ => some ((y : Nat), m, d)
  | _, some [a, b, c] => if a > 31 then some ((a : Nat), b, c) else some ((c : Nat), a, b)
  | some [n], _ =>
    if s.length == 8 then some ((n / 10000 : Nat), n / 100 % 100, n % 100) else none
  | _, _ => none

/-- What the words of a date say. -/
structure Reading where
  date : Option (Int × Nat × Nat) := none
  clock : Option (Nat × Nat × Nat × Nat) := none
  zone : Int := 0
  /-- Months to be added. -/
  months : Int := 0
  /-- Seconds to be added. -/
  seconds : Int := 0
  weekday : Option Nat := none
  /-- The time given as a number. -/
  exact : Option Int := none
  /-- Whether the time of day is that of the clock. -/
  relative : Bool := false

/-- The number of a name in a list of names, which may be cut to three letters. -/
def nameIndex? (names : List String) (w : List Char) : Option Nat :=
  let short (s : String) : List Char := (s.toList.take 3).map Char.toLower
  if w.length < 3 then none
  else names.findIdx? fun n =>
    let full := n.toList.map Char.toLower
    w == full || w == short n

/-- Seconds in a unit of time, or its months. -/
def unit? (w : List Char) : Option (Int × Int) :=
  let w := if w.length > 3 && w.getLast? == some 's' then w.dropLast else w
  match String.ofList w with
  | "sec" | "second" => some (1, 0)
  | "min" | "minute" => some (60, 0)
  | "hour" => some (3600, 0)
  | "day" => some (86400, 0)
  | "week" => some (604800, 0)
  | "fortnight" => some (1209600, 0)
  | "month" => some (0, 1)
  | "year" => some (0, 12)
  | _ => none

/-- A number with a sign. -/
def signed? (w : List Char) : Option Int :=
  match w with
  | '+' :: r => if r.isEmpty || !r.all Char.isDigit then none else some (numberOf r : Nat)
  | '-' :: r => if r.isEmpty || !r.all Char.isDigit then none else some (-(numberOf r : Nat))
  | r => if r.isEmpty || !r.all Char.isDigit then none else some (numberOf r : Nat)

/-- A reading with an amount of a unit added. -/
def Reading.add (r : Reading) (n : Int) (u : Int × Int) : Reading :=
  { r with seconds := r.seconds + n * u.1, months := r.months + n * u.2, relative := true }

/-- Reads words. -/
def readWords : Nat → List (List Char) → Reading → Option Reading
  | 0, _, _ => none
  | _ + 1, [], r => some r
  | fuel + 1, w :: ws, r =>
    let go (ws : List (List Char)) (r : Reading) : Option Reading := readWords fuel ws r
    let amount (n : Int) (u : Int × Int) (ws : List (List Char)) : Option Reading :=
      match ws with
      | ['a', 'g', 'o'] :: ws => go ws (r.add (-n) u)
      | ws => go ws (r.add n u)
    match String.ofList w with
    | "now" | "today" => go ws { r with relative := true }
    | "yesterday" => go ws (r.add (-1) (86400, 0))
    | "tomorrow" => go ws (r.add 1 (86400, 0))
    | "midnight" => go ws { r with clock := some (0, 0, 0, 0) }
    | "noon" => go ws { r with clock := some (12, 0, 0, 0) }
    | "utc" | "gmt" | "z" => go ws r
    | "next" => match ws with
      | u :: ws => (unit? u).bind fun u => go ws (r.add 1 u)
      | [] => none
    | "last" => match ws with
      | u :: ws => (unit? u).bind fun u => go ws (r.add (-1) u)
      | [] => none
    | "am" | "pm" =>
      match r.clock with
      | some (h, m, s, f) =>
        if h = 0 || h > 12 then none
        else go ws { r with clock := some (h % 12 + (if w == ['p', 'm'] then 12 else 0), m, s, f) }
      | none => none
    | _ =>
      let joined := w.findIdx? (· == 't')
      match w with
      | '@' :: n =>
        let whole := n.takeWhile (· != '.')
        let f := (n.drop whole.length).drop 1
        (signed? whole).bind fun s =>
          go ws { r with exact := some (s * billion + (billionths f : Nat)) }
      | _ =>
        match clock? w with
        | some (t, rest) =>
          match String.ofList rest with
          | "am" | "pm" => go (rest :: ws) { r with clock := some t }
          | _ => (zone? rest).bind fun z => go ws { r with clock := some t, zone := z }
        | none =>
          match date? w with
          | some d => go ws { r with date := some d }
          | none =>
            match joined.bind fun i => (date? (w.take i)).map fun d => (d, w.drop (i + 1)) with
            | some (d, rest) => go (rest :: ws) { r with date := some d }
            | none =>
              match nameIndex? monthNames w, ws with
              | some m, d :: y :: rest =>
                let d := d.filter (· != ',')
                if !d.all Char.isDigit || d.isEmpty then none
                else if y.length == 4 && y.all Char.isDigit then
                  go rest { r with date := some ((numberOf y : Nat), m + 1, numberOf d) }
                else go (y :: rest) { r with date := some (-1, m + 1, numberOf d) }
              | some m, [d] =>
                if !d.all Char.isDigit || d.isEmpty then none
                else go [] { r with date := some (-1, m + 1, numberOf d) }
              | some _, [] => none
              | none, _ =>
                match nameIndex? dayNames w with
                | some i => go ws { r with weekday := some i }
                | none =>
                  match unit? w with
                  | some u => amount 1 u ws
                  | none =>
                    match signed? w, ws with
                    | some n, u :: rest =>
                      match unit? u with
                      | some u => amount n u rest
                      | none =>
                        match nameIndex? monthNames u, rest with
                        | some m, y :: rest =>
                          if y.length == 4 && y.all Char.isDigit then
                            go rest { r with date := some ((numberOf y : Nat), m + 1, n.toNat) }
                          else go (y :: rest) { r with date := some (-1, m + 1, n.toNat) }
                        | some m, [] => go [] { r with date := some (-1, m + 1, n.toNat) }
                        | none, _ =>
                          if w.head?.any fun c => c == '+' || c == '-' then
                            (zone? w).bind fun z => go ws { r with zone := z }
                          else none
                    | some _, [] =>
                      if w.head?.any fun c => c == '+' || c == '-' then
                        (zone? w).bind fun z => go [] { r with zone := z }
                      else none
                    | none, _ => none

/-- The words of a text, a number and the letters after it apart. -/
def wordsOf (text : Bytes) : List (List Char) :=
  let s := (asciiText text).toList.map Char.toLower
  (s.splitOnP fun c => c == ' ' || c == '\t' || c == '\n' || c == ',').filter fun w => !w.isEmpty

/-- The time that a reading gives. -/
def Reading.time? (r : Reading) (now : Int) : Option Int :=
  match r.exact with
  | some t => some t
  | none =>
    let today := momentOf now
    let (y, m, d) := match r.date with
      | some (-1, m, d) => (today.year, m, d)
      | some x => x
      | none => (today.year, today.month, today.day)
    let (hour, minute, second, fraction) := match r.clock with
      | some x => x
      | none =>
        if r.date.isSome || (r.weekday.isSome && !r.relative) then (0, 0, 0, 0)
        else (today.hour, today.minute, today.second, today.fraction)
    let start : Moment := { year := y, month := m, day := d, hour, minute, second, fraction }
    if !start.isValid then none
    else
      let months := y * 12 + ((m : Nat) - 1 : Int) + r.months
      let moved := { start with year := months.fdiv 12, month := (months % 12).toNat + 1 }
      let wait : Int := match r.weekday with
        | some w => (((w : Nat) - (moved.weekday : Nat) : Int) % 7) * secondsPerDay
        | none => 0
      some (moved.time + (r.seconds + wait - r.zone) * billion)

/-- The time that a text gives. -/
def parse? (now : Int) (text : Bytes) : Option Int :=
  let ws := wordsOf text
  if ws.isEmpty then
    let today := momentOf now
    some { today with hour := 0, minute := 0, second := 0, fraction := 0 : Moment }.time
  else (readWords (2 * text.length + 2) ws {}).bind fun r => r.time? now

/-- The time that digits give: month, day, hour and minute, a year before them if there is one, and
seconds after a point. -/
def parseDigits? (now : Int) (text : Bytes) : Option Int :=
  let s := (asciiText text).toList
  let body := s.takeWhile Char.isDigit
  let rest := s.drop body.length
  let second? : Option Nat := match rest with
    | [] => some 0
    | '.' :: r => if r.length == 2 && r.all Char.isDigit then some (numberOf r) else none
    | _ => none
  let year? : Option Int := match body.length with
    | 8 => some (momentOf now).year
    | 10 =>
      let y := numberOf (body.take 2)
      some (if y < 69 then (2000 + y : Nat) else (1900 + y : Nat))
    | 12 => some (numberOf (body.take 4) : Nat)
    | _ => none
  match second?, year? with
  | some second, some year =>
    let n := numberOf (body.drop (body.length - 8))
    let m : Moment :=
      { year, month := n / 1000000, day := n / 10000 % 100, hour := n / 100 % 100
        minute := n % 100, second }
    if m.isValid then some m.time else none
  | _, _ => none

/-! ### Writing -/

/-- A number filled up to a width. -/
def padded (fill : Char) (width : Nat) (n : Int) : List Char :=
  let ds := (toString n.natAbs).toList
  let sign := if n < 0 then ['-'] else []
  if fill == '0' then sign ++ List.replicate (width - ds.length - sign.length) '0' ++ ds
  else List.replicate (width - ds.length - sign.length) fill ++ sign ++ ds

/-- The year and the week of the year by the rule that a week belongs to the year of its
Thursday. -/
def Moment.week (m : Moment) : Int × Nat :=
  let n := dayNumber m.year m.month m.day
  let weekday := (n + 3) % 7
  let (y, _, _) := dateOf (n - weekday + 3)
  (y, ((n - weekday + 3 - dayNumber y 1 1) / 7).toNat + 1)

/-- How a field of a format is filled up and changed. -/
structure Field where
  fill : Option Char := none
  bare : Bool := false
  upper : Bool := false
  width : Nat := 0

/-- A number in a field that usually is so wide. -/
def Field.number (f : Field) (fill : Char) (width : Nat) (n : Int) : List Char :=
  if f.bare then (toString n).toList
  else padded (f.fill.getD fill) (max width f.width) n

/-- A text in a field. -/
def Field.text (f : Field) (s : String) : List Char :=
  let cs := if f.upper then s.toList.map Char.toUpper else s.toList
  List.replicate (f.width - cs.length) (f.fill.getD ' ') ++ cs

/-- A name cut to three letters. -/
def short (s : String) : String := String.ofList (s.toList.take 3)

/-- What a letter of a format stands for. -/
def letterText (m : Moment) (f : Field) (c : Char) : Option (List Char) :=
  let two := f.number '0' 2
  let hour12 := if m.hour % 12 == 0 then 12 else m.hour % 12
  let month := monthNames.getD (m.month - 1) ""
  let day := dayNames.getD m.weekday ""
  let digits (n : Nat) : List Char := padded '0' 2 (n : Nat)
  let time := digits m.hour ++ ':' :: digits m.minute ++ ':' :: digits m.second
  let plainDate := digits m.month ++ '/' :: digits m.day ++ '/' :: digits (m.year % 100).toNat
  let half := if m.hour < 12 then "AM" else "PM"
  match c with
  | 'Y' => some (f.number '0' 1 m.year)
  | 'C' => some (two (m.year / 100))
  | 'y' => some (two (m.year % 100))
  | 'm' => some (two (m.month : Nat))
  | 'd' => some (two (m.day : Nat))
  | 'e' => some (f.number ' ' 2 (m.day : Nat))
  | 'H' => some (two (m.hour : Nat))
  | 'k' => some (f.number ' ' 2 (m.hour : Nat))
  | 'I' => some (two (hour12 : Nat))
  | 'l' => some (f.number ' ' 2 (hour12 : Nat))
  | 'M' => some (two (m.minute : Nat))
  | 'S' => some (two (m.second : Nat))
  | 'N' =>
    let ds := padded '0' 9 (m.fraction : Nat)
    some (if f.width > 0 then ds.take f.width else ds)
  | 's' => some (f.number '0' 1 (m.time.fdiv billion))
  | 'j' => some (f.number '0' 3 (m.yearDay + 1 : Nat))
  | 'u' => some (f.number '0' 1 (if m.weekday = 0 then 7 else m.weekday : Nat))
  | 'w' => some (f.number '0' 1 (m.weekday : Nat))
  | 'U' => some (two ((m.yearDay + 7 - m.weekday) / 7 : Nat))
  | 'W' => some (two ((m.yearDay + 7 - (m.weekday + 6) % 7) / 7 : Nat))
  | 'V' => some (two (m.week.2 : Nat))
  | 'G' => some (f.number '0' 1 m.week.1)
  | 'g' => some (two (m.week.1 % 100))
  | 'q' => some (f.number '0' 1 ((m.month + 2) / 3 : Nat))
  | 'a' => some (f.text (short day))
  | 'A' => some (f.text day)
  | 'b' | 'h' => some (f.text (short month))
  | 'B' => some (f.text month)
  | 'p' => some (f.text half)
  | 'P' => some (f.text half.toLower)
  | 'Z' => some (f.text "UTC")
  | 'z' => some (f.text "+0000")
  | 'n' => some ['\n']
  | 't' => some ['\t']
  | '%' => some ['%']
  | 'F' => some (padded '0' 1 m.year ++ '-' :: digits m.month ++ '-' :: digits m.day)
  | 'T' | 'X' => some time
  | 'D' | 'x' => some plainDate
  | 'R' => some (digits m.hour ++ ':' :: digits m.minute)
  | 'r' => some (digits hour12 ++ (time.drop 2) ++ ' ' :: half.toList)
  | 'c' =>
    some ((short day).toList ++ ' ' :: (short month).toList ++ ' ' :: padded ' ' 2 (m.day : Nat) ++
      ' ' :: time ++ ' ' :: padded '0' 1 m.year)
  | _ => none

/-- Writes a moment by a format. -/
def render (m : Moment) : Nat → List Char → List Char
  | 0, s => s
  | _ + 1, [] => []
  | fuel + 1, '%' :: s =>
    let flags := s.takeWhile fun c => ['-', '_', '0', '^', '#'].contains c
    let rest := s.drop flags.length
    let ds := rest.takeWhile Char.isDigit
    let after := rest.drop ds.length
    let fill := if flags.contains '_' then some ' ' else if flags.contains '0' then some '0' else none
    let f : Field :=
      { fill, bare := flags.contains '-', upper := flags.contains '^', width := numberOf ds }
    match after with
    | ':' :: 'z' :: r => "+00:00".toList ++ render m fuel r
    | c :: r =>
      match letterText m f c with
      | some t => t ++ render m fuel r
      | none => '%' :: flags ++ ds ++ c :: render m fuel r
    | [] => '%' :: s
  | fuel + 1, c :: s => c :: render m fuel s

/-- Writes a time by a format. -/
def format (f : Bytes) (t : Int) : Bytes :=
  let chars := f.map fun b => Char.ofNat b.toNat
  (render (momentOf t) (f.length + 1) chars).map fun c => c.toNat.toUInt8

end Calendar

namespace Utility

open Json (octet isDigit)
open Work

/-- Writes the date, or one that is given, by a format. -/
def date (c : Call) : Reply :=
  let long := [("date", 'd'), ("utc", 'u'), ("universal", 'u'), ("uct", 'u'), ("reference", 'r'),
    ("rfc-email", 'R'), ("rfc-2822", 'R'), ("iso-8601", 'I'), ("rfc-3339", '3'), ("file", 'f')]
  withOptions c { flags := "uR", valued := "dr3f", optional := "I", long } 1 fun g => do
    let d ← disk
    let given := g.operands.find? fun a => a.head? == some (octet '+')
    match g.operands.filter fun a => a.head? != some (octet '+') with
    | x :: _ => die c s!"invalid date {Quote.plain x}" 1
    | [] => pure ()
    match g.operands.drop 1 with
    | x :: _ => misuse c s!"extra operand {Quote.plain x}" 1
    | [] => pure ()
    let time ← match g.value? 'd', g.value? 'r' with
      | some text, _ =>
        match Calendar.parse? d.now text with
        | some t => pure t
        | none => die c s!"invalid date {Quote.plain text}" 1
      | none, some p =>
        match d.stat ⟨p⟩ with
        | .ok e => pure e.attributes.stamp
        | .error e => die c s!"{Quote.needed p}: {wording e}" 1
      | none, none => pure d.now
    let iso (spec : String) : String :=
      match spec with
      | "hours" => "%Y-%m-%dT%H+00:00"
      | "minutes" => "%Y-%m-%dT%H:%M+00:00"
      | "seconds" => "%Y-%m-%dT%H:%M:%S+00:00"
      | "ns" => "%Y-%m-%dT%H:%M:%S,%N+00:00"
      | _ => "%Y-%m-%d"
    let format := match given with
      | some f => f.tail
      | none =>
        Utf8.encode (if g.has 'R' then "%a, %d %b %Y %H:%M:%S +0000"
          else match g.value? 'I', g.value? '3' with
            | some spec, _ => iso (asciiText spec)
            | none, some spec =>
              if asciiText spec == "date" then "%Y-%m-%d" else "%Y-%m-%d %H:%M:%S+00:00"
            | none, none => "%a %b %e %H:%M:%S %Z %Y")
    write (Calendar.format format time ++ [newline])

end Utility

end Shell

end FunctionIndex
