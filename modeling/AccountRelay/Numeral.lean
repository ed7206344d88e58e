import AccountRelay.Power

/-! # Numerals

Natural numbers in positional notation. `Numeral.render` writes the digits of a number in a base up
to sixteen, most significant first and without leading zeros; `Numeral.value` is the number a list
of digit values denotes. `Numeral.value_digitsOf` says that the two agree.
-/

namespace AccountRelay.Numeral

/-- The digit of a number below sixteen, in lower case. -/
def digit (value : Nat) : Char :=
  if value < 10 then Char.ofNat (48 + value) else Char.ofNat (87 + value)

/-- The value of a decimal digit. -/
def decimalDigit? (c : Char) : Option Nat :=
  if '0' ≤ c ∧ c ≤ '9' then some (c.toNat - 48) else none

/-- The value of a hexadecimal digit of either case. -/
def hexDigit? (c : Char) : Option Nat :=
  if '0' ≤ c ∧ c ≤ '9' then some (c.toNat - 48)
  else if 'a' ≤ c ∧ c ≤ 'f' then some (c.toNat - 87)
  else if 'A' ≤ c ∧ c ≤ 'F' then some (c.toNat - 55)
  else none

/-- The digit values of a number, most significant first; zero has one digit. -/
def digitsOf (base number : Nat) : List Nat :=
  if _short : base ≤ 1 ∨ number < base then [number]
  else digitsOf base (number / base) ++ [number % base]
termination_by number
decreasing_by exact Nat.div_lt_self (by omega) (by omega)

/-- The number that a list of digit values denotes. -/
def value (base : Nat) (digits : List Nat) : Nat :=
  digits.foldl (fun number digit => number * base + digit) 0

/-- A number written in a base up to sixteen. -/
def render (base number : Nat) : List Char :=
  (digitsOf base number).map digit

/-- A number in base ten. -/
def decimal (number : Nat) : String :=
  String.ofList (render 10 number)

/-- An integer in base ten, with a sign when it is negative. -/
def integer (number : Int) : String :=
  if number < 0 then "-" ++ decimal number.natAbs else decimal number.natAbs

/-- A number in base sixteen, in lower case. -/
def hexadecimal (number : Nat) : String :=
  String.ofList (render 16 number)

/-- Each of the sixteen digits is read back. -/
theorem hexDigit?_digit : ∀ value < 16, hexDigit? (digit value) = some value := by decide

/-- Each of the ten decimal digits is read back. -/
theorem decimalDigit?_digit : ∀ value < 10, decimalDigit? (digit value) = some value := by decide

/-- One digit more makes the others worth the base times as much. -/
@[simp] theorem value_concat (base : Nat) (digits : List Nat) (last : Nat) :
    value base (digits ++ [last]) = value base digits * base + last := by
  simp [value]

/-- The digits of a number denote it. -/
theorem value_digitsOf (base number : Nat) : value base (digitsOf base number) = number := by
  fun_induction digitsOf base number with
  | case1 => simp [value]
  | case2 number long ih => rw [value_concat, ih, Nat.mul_comm, Nat.div_add_mod]

/-- Every digit is below the base. -/
theorem digitsOf_lt {base : Nat} (large : 1 < base) (number : Nat) :
    ∀ digit ∈ digitsOf base number, digit < base := by
  fun_induction digitsOf base number with
  | case1 number short => intro digit member; simp at member; omega
  | case2 number long ih =>
    intro digit member
    rcases List.mem_append.mp member with high | low
    · exact ih digit high
    · rw [List.mem_singleton.mp low]
      exact Nat.mod_lt _ (by omega)

end AccountRelay.Numeral
