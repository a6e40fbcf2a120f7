/-!
# Decimal numerals

Numbers in effect texts and card records are runs of ASCII digits, some of them signed. A numeral
may have any number of leading zeros; nothing else (no blanks, separators or digits of other
scripts) is part of one. A value outside the range of the type that is asked for is not read at
all: nothing wraps or saturates.

* `natural?` reads the digits, `integer?` an optional sign before them.
* `int64?` and `uint32?` read numerals of the two widths that cards and instructions hold.
-/

namespace CardEffects.Numeral

/-- The number that a run of ASCII digits denotes; `none` for an empty run, and for one that holds
any other character. -/
def natural? (digits : List Char) : Option Nat :=
  if !digits.isEmpty && digits.all Char.isDigit then
    some (Nat.ofDigitChars 10 digits 0)
  else
    none

/-- The number that a word denotes when it is an optional sign and a run of ASCII digits. -/
def integer? (word : String) : Option Int :=
  match word.toList with
  | '+' :: digits => (natural? digits).map Int.ofNat
  | '-' :: digits => (natural? digits).map fun n => -Int.ofNat n
  | digits => (natural? digits).map Int.ofNat

/-- Whether a word has the shape of an integer, of whatever size. -/
def isInteger (word : String) : Bool :=
  (integer? word).isSome

/-- The signed 64-bit integer that equals `n`, if there is one. -/
def toInt64? (n : Int) : Option Int64 :=
  if Int64.minValue.toInt ≤ n ∧ n ≤ Int64.maxValue.toInt then some (Int64.ofInt n) else none

/-- The signed 64-bit integer that a word denotes. -/
def int64? (word : String) : Option Int64 :=
  (integer? word).bind toInt64?

/-- The unsigned 32-bit integer that equals `n`, if there is one. -/
def toUInt32? (n : Int) : Option UInt32 :=
  if 0 ≤ n ∧ n < UInt32.size then some (UInt32.ofNat n.toNat) else none

/-- The unsigned 8-bit integer that equals `n`, if there is one. -/
def toUInt8? (n : Int) : Option UInt8 :=
  if 0 ≤ n ∧ n < UInt8.size then some (UInt8.ofNat n.toNat) else none

/-- The unsigned 32-bit integer that a word denotes. A plus sign may stand before the digits, a
minus sign may not, not even before zero. -/
def uint32? (word : String) : Option UInt32 :=
  match word.toList with
  | '+' :: digits => (natural? digits).bind fun n => toUInt32? n
  | digits => (natural? digits).bind fun n => toUInt32? n

end CardEffects.Numeral
