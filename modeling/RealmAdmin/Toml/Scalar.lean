/-
RealmAdmin.Toml.Scalar — numbers, dates and the two truth values.

The digits of a number may be parted by single underscores. An integer has
64 bits, and no zeros before it in base ten; after `0x`, `0o` or `0b` it is
written in another base, without a sign. A number with a fraction or an
exponent keeps its written form, and is refused when it is too great for a
double. Dates and times keep their written form too.
-/
import RealmAdmin.Calendar
import RealmAdmin.Text.Numeral
import RealmAdmin.Toml.Quoted
import RealmAdmin.Value

namespace RealmAdmin.Toml

/-- What was read off a text, given the text and its rest. -/
def consumed (cs rest : List Char) : String := String.ofList (cs.take (cs.length - rest.length))

/-- The text after the given characters, where it starts with them. -/
def skip? : List Char → List Char → Option (List Char)
  | [], cs => some cs
  | _ :: _, [] => none
  | w :: word, c :: cs => if w = c then skip? word cs else none

/-! ## Runs of digits -/

/-- Digits, each perhaps after an underscore, without the underscores. -/
def moreDigits (isDigit : Char → Bool) : List Char → List Char × List Char
  | '_' :: c :: rest =>
    if isDigit c then (c :: (moreDigits isDigit rest).1, (moreDigits isDigit rest).2)
    else ([], '_' :: c :: rest)
  | c :: rest =>
    if isDigit c then (c :: (moreDigits isDigit rest).1, (moreDigits isDigit rest).2)
    else ([], c :: rest)
  | [] => ([], [])

/-- One digit, and the digits after it. -/
def someDigits (isDigit : Char → Bool) : Reader (List Char)
  | c :: rest =>
    if isDigit c then
      some (c :: (moreDigits isDigit rest).1, (moreDigits isDigit rest).2)
    else none
  | [] => none

/-- The digits of a number in base ten: a zero alone, or digits that start
with another one. -/
def wholeDigits : Reader (List Char)
  | '0' :: rest => some (['0'], rest)
  | cs => someDigits Text.isDigit cs

/-- A sign, if there is one: whether it is a minus, and the rest. -/
def sign : List Char → Bool × List Char
  | '+' :: rest => (false, rest)
  | '-' :: rest => (true, rest)
  | cs => (false, cs)

/-! ## Integers -/

/-- An integer that fits a signed word of 64 bits. -/
def integer? (negative : Bool) (magnitude : Nat) : Option Value :=
  if magnitude < Nat.pow 2 63 then some (.integer (if negative then -magnitude else magnitude))
  else if negative && magnitude = Nat.pow 2 63 then some (.integer (-magnitude))
  else none

/-- An integer in another base than ten, after the mark of the base. -/
def basedInteger (base : Nat) : Reader Value := fun cs => do
  let isDigit c := (hexValue? c).any (· < base)
  let (digits, rest) ← someDigits isDigit cs
  return (← integer? false (Text.ofDigits base (digits.filterMap hexValue?)), rest)

/-! ## Numbers with a fraction or an exponent -/

/-- A fraction after the point, or nothing. -/
def fraction (cs : List Char) : List Char × List Char :=
  match cs with
  | '.' :: rest => (someDigits Text.isDigit rest).getD ([], cs)
  | _ => ([], cs)

/-- An exponent after its letter, with its sign. -/
def exponent? (cs : List Char) : Option (Int × List Char) :=
  match cs with
  | c :: rest =>
    if c = 'e' ∨ c = 'E' then do
      let (negative, rest) := sign rest
      let (digits, rest) ← someDigits Text.isDigit rest
      let n := Text.ofDigits 10 (digits.map Text.digitValue)
      return (if negative then -n else n, rest)
    else none
  | [] => none

/-- The least whole number that no double is near. -/
def doubleBound : Nat := Nat.pow 2 1024 - Nat.pow 2 970

/-- Whether digits, scaled by a power of ten, stay below the bound. The
number of digits decides it wherever the scale is large. -/
def isFinite (digits : List Char) (scale : Int) : Bool :=
  let digits := digits.dropWhile (· == '0')
  let magnitude := Text.ofDigits 10 (digits.map Text.digitValue)
  if digits.isEmpty || digits.length + scale ≤ 308 then true
  else if 310 < digits.length + scale then false
  else if 0 ≤ scale then magnitude * Nat.pow 10 scale.toNat < doubleBound
  else magnitude < doubleBound * Nat.pow 10 (-scale).toNat

/-- A number in base ten. A number below zero is never too great. -/
def decimal : Reader Value := fun cs => do
  let (negative, unsigned) := sign cs
  let (whole, afterWhole) ← wholeDigits unsigned
  let (part, afterPart) := fraction afterWhole
  match exponent? afterPart with
  | some (exponent, rest) =>
    if negative || isFinite (whole ++ part) (exponent - part.length) then
      return (.real (consumed cs rest), rest)
    else none
  | none =>
    if part.isEmpty then
      return (← integer? negative (Text.ofDigits 10 (whole.map Text.digitValue)), afterWhole)
    else if negative || isFinite (whole ++ part) (-part.length) then
      return (.real (consumed cs afterPart), afterPart)
    else none

/-- A number that is infinite, or is none. -/
def specialNumber : Reader Value := fun cs =>
  let unsigned := (sign cs).2
  match (skip? ['i', 'n', 'f'] unsigned).or (skip? ['n', 'a', 'n'] unsigned) with
  | some rest => some (.real (consumed cs rest), rest)
  | none => none

/-- A number in any of its forms. -/
def number : Reader Value
  | '0' :: 'x' :: rest => basedInteger 16 rest
  | '0' :: 'o' :: rest => basedInteger 8 rest
  | '0' :: 'b' :: rest => basedInteger 2 rest
  | cs => (specialNumber cs).or (decimal cs)

/-! ## Dates and times -/

/-- A number of two digits within bounds. -/
def twoDigits (low high : Nat) : Reader Nat
  | a :: b :: rest =>
    let n := Text.ofDigits 10 [Text.digitValue a, Text.digitValue b]
    if Text.isDigit a && Text.isDigit b && low ≤ n && n ≤ high then some (n, rest) else none
  | _ => none

/-- The text after a date. -/
def skipDate? : List Char → Option (List Char)
  | a :: b :: c :: d :: rest => do
    let year ← Text.readNatural [a, b, c, d]
    let (month, rest) ← twoDigits 1 12 (← skip? ['-'] rest)
    let (_, rest) ← twoDigits 1 (Calendar.monthLength year month) (← skip? ['-'] rest)
    return rest
  | _ => none

/-- The text after a time of day. -/
def skipTime? (cs : List Char) : Option (List Char) := do
  let (_, rest) ← twoDigits 0 23 cs
  let (_, rest) ← twoDigits 0 59 (← skip? [':'] rest)
  let (_, rest) ← twoDigits 0 60 (← skip? [':'] rest)
  match rest with
  | '.' :: c :: more => if Text.isDigit c then return more.dropWhile Text.isDigit else return rest
  | _ => return rest

/-- The text after an offset from universal time. -/
def skipOffset? : List Char → Option (List Char)
  | c :: rest =>
    if c = 'Z' ∨ c = 'z' then some rest
    else if c = '+' ∨ c = '-' then do
      let (_, rest) ← twoDigits 0 23 rest
      let (_, rest) ← twoDigits 0 59 (← skip? [':'] rest)
      return rest
    else none
  | [] => none

/-- The text after what follows a date: a time, perhaps with an offset, or
nothing. -/
def skipClock : List Char → List Char
  | c :: rest =>
    if c = 'T' ∨ c = 't' ∨ c = ' ' then
      match skipTime? rest with
      | some afterTime => (skipOffset? afterTime).getD afterTime
      | none => c :: rest
    else c :: rest
  | [] => []

/-- A date, a time, or both: a table whose one member is the written form. -/
def dateTime : Reader Value := fun cs =>
  match ((skipDate? cs).map skipClock).or (skipTime? cs) with
  | some rest => some (.table [("date", .text (consumed cs rest))], rest)
  | none => none

/-! ## Scalars -/

/-- A truth value. -/
def boolean : Reader Value := fun cs =>
  match skip? ['t', 'r', 'u', 'e'] cs, skip? ['f', 'a', 'l', 's', 'e'] cs with
  | some rest, _ => some (.boolean true, rest)
  | none, some rest => some (.boolean false, rest)
  | none, none => none

/-- A value that holds no others. -/
def scalar : Reader Value := fun cs =>
  match quotedText cs with
  | some (text, rest) => some (.text (String.ofList text), rest)
  | none => (boolean cs).or ((dateTime cs).or (number cs))

end RealmAdmin.Toml
