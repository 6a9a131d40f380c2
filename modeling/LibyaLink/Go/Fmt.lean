import LibyaLink.Go.Strings

/-! `fmt.Sscanf(s, "%d", &v)` into an `int` on a 64-bit platform, and the decimal text that
`%d` prints, which the scanner reads back. -/

namespace LibyaLink.Go

/-- `decimalDigits` of `fmt`'s scanner. -/
def decimalDigits : List Char := ['0', '1', '2', '3', '4', '5', '6', '7', '8', '9']

/-- The space `ss.SkipSpace` consumes before an operand. `Sscanf` does not count a newline
as space, so meeting one is an error. -/
def skipSpace : List Char → Option (List Char)
  | [] => some []
  | c :: rest => if c = '\n' then none else if isSpace c then skipSpace rest else some (c :: rest)

/-- `s.accept(sign)`: one leading `+` or `-` is taken, and whether it was a minus. -/
def acceptSign : List Char → Bool × List Char
  | '-' :: rest => (true, rest)
  | '+' :: rest => (false, rest)
  | input => (false, input)

/-- The value `strconv.ParseInt` gives a run of decimal digits, read left to right. -/
def digitsValue (digits : List Char) : Nat :=
  digits.foldl (fun value c => 10 * value + (c.toNat - '0'.toNat)) 0

/-- `ss.scanInt` for verb d and a 64-bit `int`: an optional sign, then at least one digit;
`strconv.ParseInt` rejects a value outside the int64 range. -/
def scanInt (input : List Char) : Option Int :=
  let (negative, rest) := acceptSign input
  let digits := rest.takeWhile decimalDigits.contains
  let value : Int := if negative then -(digitsValue digits : Int) else digitsValue digits
  if digits = [] then none
  else if -2 ^ 63 ≤ value ∧ value < 2 ^ 63 then some value else none

/-- `fmt.Sscanf(s, "%d", &v)`: `some` the stored value, `none` when scanning fails and `v`
keeps what it held. Text after the number is left unread, which is not an error. -/
def sscanfInt (s : String) : Option Int :=
  (skipSpace s.data).bind scanInt

theorem digitsValue_append_digit (digits : List Char) (c : Char) :
    digitsValue (digits ++ [c]) = 10 * digitsValue digits + (c.toNat - '0'.toNat) := by
  simp [digitsValue, List.foldl_append]

private theorem digitChar_decimal :
    ∀ k < 10, Nat.digitChar k ∈ decimalDigits ∧ (Nat.digitChar k).toNat - '0'.toNat = k := by
  decide

/-- A digit is neither space, a newline nor a sign. -/
theorem decimalDigits_plain :
    ∀ c ∈ decimalDigits, isSpace c = false ∧ c ≠ '\n' ∧ c ≠ '-' ∧ c ≠ '+' := by
  decide

theorem toDigitsCore_append (fuel n : Nat) (suffix : List Char) :
    Nat.toDigitsCore 10 fuel n suffix = Nat.toDigitsCore 10 fuel n [] ++ suffix := by
  induction fuel generalizing n suffix with
  | zero => rfl
  | succ fuel ih =>
    simp only [Nat.toDigitsCore]
    split
    · rfl
    · rw [ih _ (_ :: suffix), ih _ [_]]
      simp

/-- With enough fuel the digits core writes decimal digits whose value is `n`. -/
theorem toDigitsCore_decimal (fuel n : Nat) (enough : n < fuel) :
    (∀ c ∈ Nat.toDigitsCore 10 fuel n [], c ∈ decimalDigits) ∧
      digitsValue (Nat.toDigitsCore 10 fuel n []) = n := by
  induction fuel generalizing n with
  | zero => omega
  | succ fuel ih =>
    have last := digitChar_decimal (n % 10) (Nat.mod_lt _ (by omega))
    simp only [Nat.toDigitsCore]
    split
    · rename_i small
      simp only [List.mem_singleton, forall_eq, last.1, true_and]
      simp only [digitsValue, List.foldl_cons, List.foldl_nil, last.2]
      omega
    · rename_i large
      obtain ⟨digits, value⟩ := ih (n / 10) (by omega)
      rw [toDigitsCore_append, digitsValue_append_digit, value, last.2]
      refine ⟨fun c member => ?_, Nat.div_add_mod n 10⟩
      rcases List.mem_append.mp member with front | back
      · exact digits c front
      · simpa [List.mem_singleton.mp back] using last.1

/-- The text `%d` prints for a natural number: nonempty, all decimal digits, of value `n`. -/
theorem toString_decimal (n : Nat) :
    (toString n).data ≠ [] ∧ (∀ c ∈ (toString n).data, c ∈ decimalDigits) ∧
      digitsValue (toString n).data = n := by
  obtain ⟨digits, value⟩ := toDigitsCore_decimal (n + 1) n (by omega)
  refine ⟨?_, digits, value⟩
  show Nat.toDigitsCore 10 (n + 1) n [] ≠ []
  simp only [Nat.toDigitsCore]
  split
  · simp
  · rw [toDigitsCore_append]; simp

/-- The digits core writes no leading zero for a positive value. -/
theorem toDigitsCore_head (fuel n : Nat) (suffix : List Char) (enough : n < fuel)
    (positive : 0 < n) : ∃ c rest, Nat.toDigitsCore 10 fuel n suffix = c :: rest ∧ c ≠ '0' := by
  induction fuel generalizing n suffix with
  | zero => omega
  | succ fuel ih =>
    simp only [Nat.toDigitsCore]
    split
    · have single : n < 10 := by omega
      have nonzero : ∀ k < 10, 0 < k → Nat.digitChar k ≠ '0' := by decide
      exact ⟨_, _, rfl, by rw [Nat.mod_eq_of_lt single]; exact nonzero n single positive⟩
    · exact ih (n / 10) _ (by omega) (by omega)

theorem toString_nat_head (n : Nat) (positive : 0 < n) :
    ∃ c rest, (toString n).data = c :: rest ∧ c ≠ '0' :=
  toDigitsCore_head (n + 1) n [] (by omega) positive

/-- The text `%d` prints for an `int`: a minus sign for a negative value, then the decimal
digits of its magnitude. -/
theorem toString_int_data (n : Int) :
    (toString n).data = (if n < 0 then ['-'] else []) ++ (toString n.natAbs).data := by
  cases n with
  | ofNat m => rfl
  | negSucc m => simp only [Int.negSucc_lt_zero, if_true]; rfl

theorem toString_int_chars (n : Int) :
    ∀ c ∈ (toString n).data, c = '-' ∨ c ∈ decimalDigits := by
  rw [toString_int_data]
  intro c member
  rcases List.mem_append.mp member with sign | digits
  · split_ifs at sign <;> simp_all
  · exact .inr ((toString_decimal _).2.1 c digits)

theorem toString_int_ne_nil (n : Int) : (toString n).data ≠ [] := by
  simp [toString_int_data, (toString_decimal _).1]

/-- `Sscanf` with `%d` reads a run of decimal digits as its value when it fits in an int64. -/
theorem sscanfInt_digits (digits : List Char) (decimal : ∀ c ∈ digits, c ∈ decimalDigits)
    (nonempty : digits ≠ []) (fits : digitsValue digits < 2 ^ 63) :
    sscanfInt ⟨digits⟩ = some (digitsValue digits : Int) := by
  cases digits with
  | nil => contradiction
  | cons first rest =>
    have head := decimal first (List.mem_cons_self _ _)
    obtain ⟨plain, line, minus, plus⟩ := decimalDigits_plain first head
    have skip : skipSpace (first :: rest) = some (first :: rest) := by
      simp [skipSpace, plain, line]
    have unsigned : acceptSign (first :: rest) = (false, first :: rest) := by
      simp [acceptSign, minus, plus]
    have whole : (first :: rest).takeWhile decimalDigits.contains = first :: rest :=
      List.takeWhile_eq_self_iff.mpr (fun c member => by simpa using decimal c member)
    have range : -2 ^ 63 ≤ (digitsValue (first :: rest) : Int) ∧
        (digitsValue (first :: rest) : Int) < 2 ^ 63 := ⟨by omega, by exact_mod_cast fits⟩
    simp only [sscanfInt, skip, Option.some_bind, scanInt, unsigned, whole, range,
      Bool.false_eq_true, if_false, if_true, List.cons_ne_nil, and_self]

/-- `Sscanf` with `%d` reads back the decimal text of every value in the int64 range. -/
theorem sscanfInt_toString (n : Nat) (fits : n < 2 ^ 63) : sscanfInt (toString n) = some (n : Int) := by
  obtain ⟨nonempty, decimal, value⟩ := toString_decimal n
  have := sscanfInt_digits (toString n).data decimal nonempty (by rwa [value])
  rwa [value] at this

end LibyaLink.Go
