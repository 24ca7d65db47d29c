/-!
# Numerals in texts

Hexadecimal numerals of a least width, and the reading of decimal and hexadecimal numerals.
-/

namespace Ipsec.Text

/-- The hexadecimal numeral of `n`, in small letters, with zeros in front up to `width` digits. -/
def hex (width n : Nat) : String :=
  let digits := Nat.toDigits 16 n
  String.ofList (List.replicate (width - digits.length) '0' ++ digits)

/-- The value of a hexadecimal digit of either case. -/
def hexDigit? (c : Char) : Option Nat :=
  if '0' ≤ c ∧ c ≤ '9' then some (c.toNat - '0'.toNat)
  else if 'a' ≤ c ∧ c ≤ 'f' then some (c.toNat - 'a'.toNat + 10)
  else if 'A' ≤ c ∧ c ≤ 'F' then some (c.toNat - 'A'.toNat + 10)
  else none

/-- The value of a decimal digit. -/
def digit? (c : Char) : Option Nat :=
  if '0' ≤ c ∧ c ≤ '9' then some (c.toNat - '0'.toNat) else none

/-- The value of digits in a base, the first digit first. -/
def value (base : Nat) (digits : List Nat) : Nat :=
  digits.foldl (fun n d => n * base + d) 0

/-- The value of a decimal numeral, if it is at most `limit`. Zeros in front do not matter. -/
def decimal? (limit : Nat) (text : List Char) : Option Nat := do
  if text.isEmpty then none
  let n := value 10 (← text.mapM digit?)
  if n ≤ limit then some n else none

/-- The value of a hexadecimal numeral of one to four digits. -/
def hexWord? (text : List Char) : Option Nat := do
  if text.isEmpty ∨ 4 < text.length then none
  pure (value 16 (← text.mapM hexDigit?))

/-- The pieces of a text between occurrences of `separator`. -/
def pieces (separator : Char) : List Char → List (List Char)
  | [] => [[]]
  | c :: rest =>
    if c = separator then [] :: pieces separator rest
    else match pieces separator rest with
      | [] => [[c]]
      | piece :: more => (c :: piece) :: more

end Ipsec.Text
