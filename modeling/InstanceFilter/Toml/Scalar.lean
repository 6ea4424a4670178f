/-
Values without quotes: truth values, whole numbers in four bases, floats, dates and times.
-/
import InstanceFilter.Toml.Text
import InstanceFilter.Toml.Value

namespace InstanceFilter.Toml

/-! ## Numbers -/

/-- The value of a digit in a base. -/
def digitIn? (base : Nat) (c : Char) : Option Nat :=
  (hexValue? c).filter (· < base)

/-- Digits of a base, with single low lines between them. -/
def digits? (base : Nat) : List Char → Option (List Nat)
  | [] => none
  | [c] => (digitIn? base c).map ([·])
  | c :: '_' :: rest => do return (← digitIn? base c) :: (← digits? base rest)
  | c :: rest => do return (← digitIn? base c) :: (← digits? base rest)

def numberIn? (base : Nat) (text : List Char) : Option Nat :=
  (digits? base text).map fun digits => digits.foldl (fun n d => base * n + d) 0

/-- Digits in base ten without a zero before others. -/
def plainNumber? (text : List Char) : Option Nat :=
  match text with
  | '0' :: _ :: _ => none
  | _ => numberIn? 10 text

/-- A text without its sign, and whether the sign is a minus. -/
def splitSign : List Char → Bool × List Char
  | '-' :: rest => (true, rest)
  | '+' :: rest => (false, rest)
  | text => (false, text)

/-- Whole numbers of 128 bits; only base ten takes a sign. -/
def integer? (text : List Char) : Option Int := do
  let n : Int ← match text with
    | '0' :: 'x' :: digits => (numberIn? 16 digits).map Int.ofNat
    | '0' :: 'o' :: digits => (numberIn? 8 digits).map Int.ofNat
    | '0' :: 'b' :: digits => (numberIn? 2 digits).map Int.ofNat
    | _ =>
      let (negative, digits) := splitSign text
      (plainNumber? digits).map fun n => if negative then -(n : Int) else n
  if -0x80000000000000000000000000000000 ≤ n ∧
      n < 0x100000000000000000000000000000000 then some n else none

/-- A float: a fraction, an exponent or both after a whole number, or one of the special ones. -/
def isFloat (text : List Char) : Bool :=
  let body := (splitSign text).2
  if body = "inf".toList ∨ body = "nan".toList then true
  else
    let mantissa := body.takeWhile fun c => c != 'e' && c != 'E'
    let exponentOk := match body.drop mantissa.length with
      | [] => true
      | _ :: digits => (numberIn? 10 (splitSign digits).2).isSome
    let whole := mantissa.takeWhile (· != '.')
    let fractionOk := match mantissa.drop whole.length with
      | [] => mantissa.length < body.length
      | _ :: digits => (numberIn? 10 digits).isSome
    (plainNumber? whole).isSome && fractionOk && exponentOk

/-! ## Dates and times -/

/-- A number of exactly so many digits at the start of a text. -/
def fixedNumber? (count : Nat) (text : List Char) : Option (Nat × List Char) :=
  let digits := text.take count
  if digits.length = count && digits.all Char.isDigit then
    some (digits.foldl (fun n d => 10 * n + (d.toNat - '0'.toNat)) 0, text.drop count)
  else none

def daysIn (year month : Nat) : Nat :=
  if month = 2 then
    if year % 4 = 0 ∧ (year % 100 ≠ 0 ∨ year % 400 = 0) then 29 else 28
  else if month ∈ [4, 6, 9, 11] then 30
  else 31

/-- The text after a date. -/
def date? (text : List Char) : Option (List Char) := do
  let (year, rest) ← fixedNumber? 4 text
  let '-' :: rest := rest | none
  let (month, rest) ← fixedNumber? 2 rest
  let '-' :: rest := rest | none
  let (day, rest) ← fixedNumber? 2 rest
  if 1 ≤ month ∧ month ≤ 12 ∧ 1 ≤ day ∧ day ≤ daysIn year month then some rest else none

/-- The text after the seconds and their fraction; both may be left out. -/
def seconds? : List Char → Option (List Char)
  | ':' :: rest => do
    let (second, rest) ← fixedNumber? 2 rest
    if second > 60 then none
    else match rest with
      | '.' :: rest =>
        if (rest.takeWhile Char.isDigit).isEmpty then none else some (rest.dropWhile Char.isDigit)
      | rest => some rest
  | text => some text

/-- The text after a time of day. -/
def time? (text : List Char) : Option (List Char) := do
  let (hour, rest) ← fixedNumber? 2 text
  let ':' :: rest := rest | none
  let (minute, rest) ← fixedNumber? 2 rest
  if hour > 23 ∨ minute > 59 then none else seconds? rest

/-- Whether a text is an offset from UTC, or nothing. -/
def isOffset : List Char → Bool
  | [] | ['z'] | ['Z'] => true
  | [sign, h, h', ':', m, m'] =>
    (sign == '+' || sign == '-') &&
      match fixedNumber? 2 [h, h'], fixedNumber? 2 [m, m'] with
      | some (hours, _), some (minutes, _) => hours ≤ 24 && minutes ≤ 59
      | _, _ => false
  | _ => false

def isDateTime (text : List Char) : Bool :=
  match date? text with
  | some [] => true
  | some (c :: rest) =>
    (c == 'T' || c == 't' || c == ' ') && (time? rest).any isOffset
  | none => time? text == some []

/-! ## Reading -/

def endsScalar (c : Char) : Bool :=
  isSpace c || ['\n', '\r', ',', ']', '\x7d', '#', '='].contains c

/-- A value without quotes. A date may have its time after a single space. -/
def readScalar (text : List Char) : Option (Value × List Char) :=
  let word := text.takeWhile (!endsScalar ·)
  let rest := text.dropWhile (!endsScalar ·)
  if word = "true".toList then some (.boolean true, rest)
  else if word = "false".toList then some (.boolean false, rest)
  else match integer? word with
    | some n => some (.integer n, rest)
    | none =>
      if isFloat word then some (.float, rest)
      else
        let time := (rest.drop 1).takeWhile (!endsScalar ·)
        if date? word == some [] && rest.head? == some ' ' && time.any Char.isDigit then
          if isDateTime (word ++ ' ' :: time) then
            some (.dateTime, (rest.drop 1).dropWhile (!endsScalar ·))
          else none
        else if isDateTime word then some (.dateTime, rest)
        else none

end InstanceFilter.Toml
