import SoapClasses.TomlValues

/-!
# Scalars of TOML

The words, numbers, dates and times that may stand as values. A word is given as a whole; it is either
one of these or no value at all.
-/

namespace SoapClasses.TomlScalars

/-- Digits in a base, with single underscores between some of them; the digits alone. -/
def digitRun? (isDigit : Char → Bool) : List Char → Option (List Char)
  | [] => none
  | [c] => if isDigit c then some [c] else none
  | c :: '_' :: rest => if isDigit c then (digitRun? isDigit rest).map (c :: ·) else none
  | c :: rest => if isDigit c then (digitRun? isDigit rest).map (c :: ·) else none

/-- The value of a digit in bases up to sixteen. -/
def digitValue (c : Char) : Nat :=
  if c.isDigit then c.toNat - 48 else c.toLower.toNat - 87

def numberOf (base : Nat) (digits : List Char) : Nat :=
  digits.foldl (fun n c => base * n + digitValue c) 0

/-- Whether a digit belongs to the base sixteen, eight or two. -/
def isHexDigit (c : Char) : Bool :=
  c.isDigit || ('a' ≤ c && c ≤ 'f') || ('A' ≤ c && c ≤ 'F')

/-- The sign in front, and whether it is a minus. -/
def signOf : List Char → Bool × List Char
  | '+' :: rest => (false, rest)
  | '-' :: rest => (true, rest)
  | word => (false, word)

def plainDigits? (word : List Char) : Option (List Char) :=
  match digitRun? Char.isDigit word with
  | some ('0' :: _ :: _) => none
  | digits => digits

/-- An integer, which fits if it has 128 bits. -/
def integerOf (negative : Bool) (n : Nat) : TomlValue :=
  .number (if negative then n ≤ Nat.pow 2 127 else n < Nat.pow 2 128)

/-- An integer in one of four bases; only a decimal one has a sign. -/
def integer? (word : List Char) : Option TomlValue :=
  match word with
  | '0' :: 'x' :: digits =>
    (digitRun? isHexDigit digits).map (fun ds => integerOf false (numberOf 16 ds))
  | '0' :: 'o' :: digits =>
    (digitRun? (fun c => '0' ≤ c && c ≤ '7') digits).map
      (fun ds => integerOf false (numberOf 8 ds))
  | '0' :: 'b' :: digits =>
    (digitRun? (fun c => c == '0' || c == '1') digits).map
      (fun ds => integerOf false (numberOf 2 ds))
  | word =>
    let (negative, digits) := signOf word
    (plainDigits? digits).map (fun ds => integerOf negative (numberOf 10 ds))

def isFiniteFloat (digits : List Char) (exponent : Int) : Bool :=
  let significant := digits.dropWhile (· == '0')
  let magnitude : Int := significant.length + exponent
  if significant.isEmpty || magnitude < 300 then true
  else if 310 < magnitude then false
  else !(Float.ofScientific (numberOf 10 significant) (exponent < 0) exponent.natAbs).isInf

/-- A number with a fraction, an exponent or both. -/
def float? (word : List Char) : Option TomlValue := do
  let (_, body) := signOf word
  let mantissa := body.takeWhile (fun c => c != 'e' && c != 'E')
  let exponentPart := body.drop mantissa.length
  let whole := mantissa.takeWhile (· != '.')
  let fractionPart := mantissa.drop whole.length
  let wholeDigits ← plainDigits? whole
  let fraction ← match fractionPart with
    | [] => some []
    | _ :: digits => digitRun? Char.isDigit digits
  let exponent ← match exponentPart with
    | [] => some 0
    | _ :: signed =>
      let (negative, digits) := signOf signed
      (digitRun? Char.isDigit digits).map (fun ds =>
        let n : Int := numberOf 10 ds
        if negative then -n else n)
  if fractionPart.isEmpty && exponentPart.isEmpty then none
  else return .number (isFiniteFloat (wholeDigits ++ fraction) (exponent - fraction.length))

def specialFloat? (word : List Char) : Option TomlValue :=
  let body := (signOf word).2
  if body == ['i', 'n', 'f'] || body == ['n', 'a', 'n'] then some (.number true) else none

/-- Two digits at the front, their value and the rest. -/
def twoDigits? : List Char → Option (Nat × List Char)
  | a :: b :: rest => if a.isDigit && b.isDigit then some (numberOf 10 [a, b], rest) else none
  | _ => none

/-- The days of a month in the calendar that is used today. -/
def daysOf (year month : Nat) : Nat :=
  if month == 2 then
    (if year % 4 == 0 && (year % 100 != 0 || year % 400 == 0) then 29 else 28)
  else if month == 4 || month == 6 || month == 9 || month == 11 then 30
  else 31

def afterDate? (word : List Char) : Option (List Char) := do
  let (century, word) ← twoDigits? word
  let (year, word) ← twoDigits? word
  match word with
  | '-' :: word =>
    let (month, word) ← twoDigits? word
    match word with
    | '-' :: word =>
      let (day, word) ← twoDigits? word
      if 1 ≤ month && month ≤ 12 && 1 ≤ day && day ≤ daysOf (100 * century + year) month then
        some word
      else none
    | _ => none
  | _ => none

/-- What follows the fraction of a second, if there is one. -/
def afterFraction? : List Char → Option (List Char)
  | '.' :: rest =>
    let digits := rest.takeWhile Char.isDigit
    if digits.isEmpty then none else some (rest.drop digits.length)
  | word => some word

/-- What follows a time of day; seconds may be left out. -/
def afterTime? (word : List Char) : Option (List Char) := do
  let (hour, word) ← twoDigits? word
  match word with
  | ':' :: word =>
    let (minute, word) ← twoDigits? word
    if 23 < hour || 59 < minute then none
    else
      match word with
      | ':' :: word =>
        let (second, word) ← twoDigits? word
        if 60 < second then none else afterFraction? word
      | word => some word
  | _ => none

/-- Whether the word is an offset from universal time, or nothing. -/
def isOffset (word : List Char) : Bool :=
  match word with
  | [] => true
  | ['Z'] => true
  | ['z'] => true
  | [sign, a, b, ':', c, d] =>
    (sign == '+' || sign == '-') && a.isDigit && b.isDigit && c.isDigit && d.isDigit
      && numberOf 10 [a, b] ≤ 23 && numberOf 10 [c, d] ≤ 59
  | _ => false

/-- Whether the word is a date, a time, or both. -/
def isDateTime (word : List Char) : Bool :=
  match afterDate? word with
  | some [] => true
  | some (mark :: rest) =>
    (mark == 'T' || mark == 't' || mark == ' ')
      && (match afterTime? rest with
        | some offset => isOffset offset
        | none => false)
  | none => afterTime? word == some []

def moment? (word : List Char) : Option TomlValue :=
  if isDateTime word then some .moment else none

def scalar? (word : List Char) : Option TomlValue :=
  if word == "true".toList then some (.flag true)
  else if word == "false".toList then some (.flag false)
  else integer? word <|> float? word <|> specialFloat? word <|> moment? word

end SoapClasses.TomlScalars
