import Highlighter.Toml.Value
import Highlighter.Toml.Text

/-!
# Numbers, dates and truth values

Scalars without quotes are recognised as whole words.  Integers must fit 64 bits with sign,
fractions must not be rounded up to infinity in double precision, and dates must exist in the
calendar.
-/

namespace Highlighter.Toml

/-- Digits of some base with single underscores between them. -/
def isDigitRun (isDigit : Char → Bool) : List Char → Bool
  | [] => false
  | [c] => isDigit c
  | c :: '_' :: rest => isDigit c && isDigitRun isDigit rest
  | c :: rest => isDigit c && isDigitRun isDigit rest

/-- Digits of a decimal number without needless zeros in front. -/
def isDecimalRun (digits : List Char) : Bool :=
  isDigitRun Char.isDigit digits && (digits.length == 1 || digits.head? != some '0')

/-- A word without its sign, and whether that was a minus. -/
def splitSign : List Char → Bool × List Char
  | '-' :: rest => (true, rest)
  | '+' :: rest => (false, rest)
  | rest => (false, rest)

/-- The number that digits write in a base; underscores count for nothing. -/
def digitsValue (base : Nat) (digits : List Char) : Nat :=
  (digits.filterMap hexDigit?).foldl (fun value digit => base * value + digit) 0

/-- Whether a word is an integer of 64 bits. -/
def isInteger (word : List Char) : Bool :=
  match word with
  | '0' :: 'x' :: digits =>
    isDigitRun (fun c => (hexDigit? c).isSome) digits && digitsValue 16 digits < Nat.pow 2 63
  | '0' :: 'o' :: digits =>
    isDigitRun (fun c => '0' ≤ c && c ≤ '7') digits && digitsValue 8 digits < Nat.pow 2 63
  | '0' :: 'b' :: digits =>
    isDigitRun (fun c => c == '0' || c == '1') digits && digitsValue 2 digits < Nat.pow 2 63
  | _ =>
    let (negative, digits) := splitSign word
    isDecimalRun digits
      && digitsValue 10 digits < (if negative then Nat.pow 2 63 + 1 else Nat.pow 2 63)

/-- Whether `digits` times ten to the power `exponent` rounds to a finite double: it lies below the
midpoint between the largest one and the next power of two. -/
def isFiniteDouble (digits : Nat) (exponent : Int) : Bool :=
  let size : Int := (Nat.toDigits 10 digits).length + exponent
  if digits = 0 ∨ size < 300 then true
  else if size > 310 then false
  else if 0 ≤ exponent then digits * Nat.pow 10 exponent.toNat < Nat.pow 2 1024 - Nat.pow 2 970
  else digits < (Nat.pow 2 1024 - Nat.pow 2 970) * Nat.pow 10 (-exponent).toNat

/-- Whether a word is a fraction, or one of the words for infinity and for no number.  A negative
one may be of any size. -/
def isFraction (word : List Char) : Bool :=
  let (negative, word) := splitSign word
  if word = ['i', 'n', 'f'] ∨ word = ['n', 'a', 'n'] then true
  else
    let isMark (c : Char) := c == 'e' || c == 'E'
    let mantissa := word.takeWhile fun c => !isMark c
    let power := word.dropWhile fun c => !isMark c
    let whole := mantissa.takeWhile (· ≠ '.')
    let places := mantissa.dropWhile (· ≠ '.')
    let (lowered, exponent) := splitSign (power.drop 1)
    let exponentValue : Int := digitsValue 10 exponent
    isDecimalRun whole
      && (places.isEmpty || isDigitRun Char.isDigit (places.drop 1))
      && (power.isEmpty || isDigitRun Char.isDigit exponent)
      && !(places.isEmpty && power.isEmpty)
      && (negative || isFiniteDouble (digitsValue 10 (whole ++ places))
          ((if lowered then -exponentValue else exponentValue)
            - (places.filter Char.isDigit).length))

/-- The number that all of these digits write. -/
def number? (digits : List Char) : Option Nat :=
  if digits.all Char.isDigit then some (digitsValue 10 digits) else none

/-- The days of a month of the Gregorian calendar. -/
def daysIn (year month : Nat) : Nat :=
  if month = 2 then
    if year % 4 = 0 ∧ (year % 100 ≠ 0 ∨ year % 400 = 0) then 29 else 28
  else if month = 4 ∨ month = 6 ∨ month = 9 ∨ month = 11 then 30
  else 31

/-- Whether a word is a date. -/
def isDate : List Char → Bool
  | [y, y', y'', y''', '-', m, m', '-', d, d'] =>
    match number? [y, y', y'', y'''], number? [m, m'], number? [d, d'] with
    | some year, some month, some day =>
      1 ≤ month && month ≤ 12 && 1 ≤ day && day ≤ daysIn year month
    | _, _, _ => false
  | _ => false

/-- Whether two words are an hour and a minute. -/
def isHourAndMinute (h h' m m' : Char) : Bool :=
  match number? [h, h'], number? [m, m'] with
  | some hour, some minute => hour ≤ 23 && minute ≤ 59
  | _, _ => false

/-- What is left of a word behind a time of day. -/
def skipTime? : List Char → Option (List Char)
  | h :: h' :: ':' :: m :: m' :: ':' :: s :: s' :: rest => do
    let second ← number? [s, s']
    if isHourAndMinute h h' m m' && second ≤ 60 then
      match rest with
      | '.' :: fraction =>
        if (fraction.head?.any Char.isDigit) then some (fraction.dropWhile Char.isDigit) else none
      | rest => some rest
    else none
  | _ => none

/-- Whether a word is a distance from universal time, or nothing. -/
def isOffset : List Char → Bool
  | [] => true
  | ['Z'] | ['z'] => true
  | [sign, h, h', ':', m, m'] => (sign == '+' || sign == '-') && isHourAndMinute h h' m m'
  | _ => false

/-- Whether a word is a time of day, which may be followed by an offset. -/
def isTime (offsetAllowed : Bool) (word : List Char) : Bool :=
  match skipTime? word with
  | some rest => if offsetAllowed then isOffset rest else rest.isEmpty
  | none => false

/-- Whether a word is a date, a time, or a date and a time with a `T` between them. -/
def isMoment (word : List Char) : Bool :=
  isDate word || isTime false word
    || (isDate (word.take 10) && (word[10]? == some 'T' || word[10]? == some 't')
      && isTime true (word.drop 11))

/-- Whether a character ends a scalar without quotes. -/
def endsWord (c : Char) : Bool :=
  isBlank c || c == '\n' || c == '\r' || c == '#' || c == ',' || c == ']' || c == '}'

/-- A scalar without quotes.  A date may be followed by a single space and a time. -/
def readScalar : Reader Value := fun text =>
  let word := text.takeWhile fun c => !endsWord c
  let rest := text.dropWhile fun c => !endsWord c
  if word = ['t', 'r', 'u', 'e'] then some (.boolean true, rest)
  else if word = ['f', 'a', 'l', 's', 'e'] then some (.boolean false, rest)
  else if isInteger word || isFraction word then some (.number (String.ofList word), rest)
  else if isMoment word then
    match rest with
    | ' ' :: behind =>
      let time := behind.takeWhile fun c => !endsWord c
      if isDate word && isTime true time then
        some (.moment (String.ofList (word ++ ' ' :: time)), behind.dropWhile fun c => !endsWord c)
      else some (.moment (String.ofList word), rest)
    | _ => some (.moment (String.ofList word), rest)
  else none

end Highlighter.Toml
