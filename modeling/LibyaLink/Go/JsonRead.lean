import LibyaLink.Go.JsonLayout

/-! Reading JSON text as RFC 8259 defines it, the client's side of the format: not code of
this repository, but what the output of `MarshalIndent` is checked against. Numbers are read
as integers only. -/

namespace LibyaLink.Go

def skipWhitespace (text : List Char) : List Char := text.dropWhile isJsonSpace

/-- A hex digit of a `\u` escape, in either case. -/
def hexValue (c : Char) : Option Nat :=
  if '0' ≤ c ∧ c ≤ '9' then some (c.toNat - '0'.toNat)
  else if 'a' ≤ c ∧ c ≤ 'f' then some (c.toNat - 'a'.toNat + 10)
  else if 'A' ≤ c ∧ c ≤ 'F' then some (c.toNat - 'A'.toNat + 10)
  else none

def readHex4 : List Char → Option (Nat × List Char)
  | a :: b :: c :: d :: rest => do
    let a ← hexValue a
    let b ← hexValue b
    let c ← hexValue c
    let d ← hexValue d
    pure (((a * 16 + b) * 16 + c) * 16 + d, rest)
  | _ => none

/-- The rune of a lone `\u` escape: half a surrogate pair alone becomes U+FFFD. -/
def escapedRune (n : Nat) : Char :=
  if 0xD800 ≤ n ∧ n < 0xE000 then '\uFFFD' else Char.ofNat n

/-- The text after `\u`. A high surrogate followed by a `\u` low surrogate is one rune; a
high surrogate without one becomes U+FFFD, as `unquote` does. -/
def readUnicode (text : List Char) : Option (Char × List Char) :=
  (readHex4 text).bind fun (n, rest) =>
    if 0xD800 ≤ n ∧ n < 0xDC00 then
      match rest with
      | '\\' :: 'u' :: more =>
        match readHex4 more with
        | some (m, after) =>
          if 0xDC00 ≤ m ∧ m < 0xE000 then
            some (Char.ofNat (0x10000 + (n - 0xD800) * 0x400 + (m - 0xDC00)), after)
          else some ('\uFFFD', rest)
        | none => some ('\uFFFD', rest)
      | _ => some ('\uFFFD', rest)
    else some (escapedRune n, rest)

/-- The text after a backslash in a string: the rune the escape stands for, and what
follows it. -/
def readEscape : List Char → Option (Char × List Char)
  | [] => none
  | e :: rest =>
    if e = '"' ∨ e = '\\' ∨ e = '/' then some (e, rest)
    else if e = 'b' then some ('\x08', rest)
    else if e = 'f' then some ('\x0c', rest)
    else if e = 'n' then some ('\n', rest)
    else if e = 'r' then some ('\r', rest)
    else if e = 't' then some ('\t', rest)
    else if e = 'u' then readUnicode rest
    else none

def prependRune (c : Char) : Option (List Char × List Char) → Option (List Char × List Char) :=
  Option.map fun (cs, rest) => (c :: cs, rest)

/-- The body of a string after its opening quote, one rune per unit of fuel: the runes, and
the text after the closing quote. -/
def readStringFuel : Nat → List Char → Option (List Char × List Char)
  | 0, _ => none
  | _ + 1, [] => none
  | fuel + 1, c :: rest =>
    if c = '"' then some ([], rest)
    else if c = '\\' then
      (readEscape rest).bind fun (r, rest) => prependRune r (readStringFuel fuel rest)
    else if c.toNat < 0x20 then none
    else prependRune c (readStringFuel fuel rest)

def readString (text : List Char) : Option (List Char × List Char) :=
  readStringFuel text.length text

/-- `-`, then digits with no leading zero. -/
def readNumber (text : List Char) : Option (Int × List Char) :=
  let negative := text.head? = some '-'
  let text := if negative then text.drop 1 else text
  let digits := text.takeWhile decimalDigits.contains
  if digits = [] ∨ (digits.head? = some '0' ∧ digits.length ≠ 1) then none
  else
    let value : Int := digitsValue digits
    some (if negative then -value else value, text.drop digits.length)

def readLiteral (word : List Char) (v : JSON) (text : List Char) : Option (JSON × List Char) :=
  if text.take word.length = word then some (v, text.drop word.length) else none

/-- A key and its colon, with whitespace around them: the key, and the text after the colon. -/
def readKey (text : List Char) : Option (String × List Char) :=
  match skipWhitespace text with
  | c :: rest =>
    if c = '"' then
      (readString rest).bind fun (k, rest) =>
        match skipWhitespace rest with
        | c :: rest => if c = ':' then some (⟨k⟩, rest) else none
        | [] => none
    else none
  | [] => none

mutual
/-- One value after optional whitespace, with `fuel` bounding the elements and fields read:
the value, and the text after it. -/
def readValue : Nat → List Char → Option (JSON × List Char)
  | 0, _ => none
  | fuel + 1, text =>
    match skipWhitespace text with
    | [] => none
    | c :: rest =>
      if c = 'n' then readLiteral "null".data .null (c :: rest)
      else if c = 't' then readLiteral "true".data (.bool true) (c :: rest)
      else if c = 'f' then readLiteral "false".data (.bool false) (c :: rest)
      else if c = '"' then (readString rest).map fun (s, rest) => (.string ⟨s⟩, rest)
      else if c = '[' then
        if (skipWhitespace rest).head? = some ']' then some (.array [], (skipWhitespace rest).tail)
        else
          (readValue fuel rest).bind fun (x, rest) =>
            (readItems fuel rest).map fun (xs, rest) => (.array (x :: xs), rest)
      else if c = '{' then
        if (skipWhitespace rest).head? = some '}' then some (.object [], (skipWhitespace rest).tail)
        else
          (readKey rest).bind fun (k, rest) =>
            (readValue fuel rest).bind fun (v, rest) =>
              (readFields fuel rest).map fun (fs, rest) => (.object ((k, v) :: fs), rest)
      else (readNumber (c :: rest)).map fun (n, rest) => (.number n, rest)

/-- The elements of an array after its first: `, value` until `]`. -/
def readItems : Nat → List Char → Option (List JSON × List Char)
  | 0, _ => none
  | fuel + 1, text =>
    match skipWhitespace text with
    | [] => none
    | c :: rest =>
      if c = ']' then some ([], rest)
      else if c = ',' then
        (readValue fuel rest).bind fun (x, rest) =>
          (readItems fuel rest).map fun (xs, rest) => (x :: xs, rest)
      else none

/-- The fields of an object after its first: `, "key": value` until `}`. -/
def readFields : Nat → List Char → Option (List (String × JSON) × List Char)
  | 0, _ => none
  | fuel + 1, text =>
    match skipWhitespace text with
    | [] => none
    | c :: rest =>
      if c = '}' then some ([], rest)
      else if c = ',' then
        (readKey rest).bind fun (k, rest) =>
          (readValue fuel rest).bind fun (v, rest) =>
            (readFields fuel rest).map fun (fs, rest) => ((k, v) :: fs, rest)
      else none
end

/-- A text holding exactly one JSON value, with whitespace around it. -/
def JSON.read (text : String) : Option JSON :=
  (readValue (text.length + 1) text.data).bind fun (v, rest) =>
    if skipWhitespace rest = [] then some v else none

theorem hexValue_hexDigit : ∀ k < 16, hexValue (hexDigit k) = some k := by decide

/-- The four hex digits of a `\u00XX` escape read back as the byte they encode. -/
theorem readHex4_byte {n : Nat} (small : n < 0x100) (rest : List Char) :
    readHex4 ('0' :: '0' :: hexDigit (n / 16) :: hexDigit (n % 16) :: rest) = some (n, rest) := by
  simp [readHex4, hexValue_hexDigit _ (by omega : n / 16 < 16),
    hexValue_hexDigit _ (Nat.mod_lt n (by omega : 16 > 0)), show hexValue '0' = some 0 from rfl]
  omega

theorem readHex4_separator {n : Nat} (separator : n = 0x2028 ∨ n = 0x2029) (rest : List Char) :
    readHex4 ('2' :: '0' :: '2' :: hexDigit (n % 16) :: rest) = some (n, rest) := by
  rcases separator with rfl | rfl <;> rfl

/-- A `\u` escape of a rune below the surrogates reads as that rune, whatever follows. -/
theorem readUnicode_of_lt {text rest : List Char} {n : Nat}
    (hex : readHex4 text = some (n, rest)) (low : n < 0xD800) :
    readUnicode text = some (Char.ofNat n, rest) := by
  have single : escapedRune n = Char.ofNat n := by simp [escapedRune]; omega
  simp [readUnicode, hex, single, show ¬(0xD800 ≤ n ∧ n < 0xDC00) by omega]

theorem readEscape_u (text : List Char) : readEscape ('u' :: text) = readUnicode text := by
  simp [readEscape]

theorem readStringFuel_plain {c : Char} (quote : c ≠ '"') (backslash : c ≠ '\\')
    (control : 0x20 ≤ c.toNat) (fuel : Nat) (rest : List Char) :
    readStringFuel (fuel + 1) (c :: rest) = prependRune c (readStringFuel fuel rest) := by
  simp [readStringFuel, quote, backslash]
  omega

theorem readStringFuel_escape {text rest : List Char} {r : Char}
    (escape : readEscape text = some (r, rest)) (fuel : Nat) :
    readStringFuel (fuel + 1) ('\\' :: text) = prependRune r (readStringFuel fuel rest) := by
  simp [readStringFuel, escape]

/-- Each rune `appendString` escapes reads back as that rune. -/
theorem readStringFuel_escapeRune (c : Char) (fuel : Nat) (more : List Char) :
    readStringFuel (fuel + 1) (escapeRune c ++ more) = prependRune c (readStringFuel fuel more) := by
  unfold escapeRune
  split_ifs with ascii safe separator
  · simp only [htmlSafe, Bool.and_eq_true, bne_iff_ne, decide_eq_true_eq] at safe
    exact readStringFuel_plain safe.1.1.1.1.2 safe.1.1.1.2 safe.1.1.1.1.1.1 fuel more
  · unfold escapeByte
    split <;> simp only [List.cons_append, List.nil_append]
    on_goal 8 =>
      refine readStringFuel_escape ?_ fuel
      rw [readEscape_u, readUnicode_of_lt (readHex4_byte (by omega) more) (by omega),
        Char.ofNat_toNat]
    all_goals exact readStringFuel_escape (by simp [readEscape]) fuel
  · have code : c.toNat = 0x2028 ∨ c.toNat = 0x2029 := by
      rcases separator with same | same <;> simp [same]
    simp only [List.cons_append, List.nil_append]
    refine readStringFuel_escape ?_ fuel
    rw [readEscape_u, readUnicode_of_lt (readHex4_separator code more) (by omega),
      Char.ofNat_toNat]
  · exact readStringFuel_plain (fun same => ascii (by simp [same]))
      (fun same => ascii (by simp [same])) (by omega) fuel more

theorem escapeRune_ne_nil (c : Char) : escapeRune c ≠ [] := by
  unfold escapeRune escapeByte
  split_ifs <;> try split
  all_goals simp

theorem length_le_escaped (s : List Char) : s.length ≤ (s.flatMap escapeRune).length := by
  induction s with
  | nil => simp
  | cons c s ih =>
    have := List.length_pos.mpr (escapeRune_ne_nil c)
    simp only [List.flatMap_cons, List.length_append, List.length_cons]
    omega

theorem readStringFuel_escaped (s rest : List Char) (fuel : Nat) (enough : s.length < fuel) :
    readStringFuel fuel (s.flatMap escapeRune ++ '"' :: rest) = some (s, rest) := by
  induction s generalizing fuel with
  | nil =>
    obtain ⟨fuel, rfl⟩ : ∃ f, fuel = f + 1 := ⟨fuel - 1, by simp at enough; omega⟩
    simp [readStringFuel]
  | cons c s ih =>
    obtain ⟨fuel, rfl⟩ : ∃ f, fuel = f + 1 := ⟨fuel - 1, by simp at enough; omega⟩
    rw [List.flatMap_cons, List.append_assoc, readStringFuel_escapeRune,
      ih fuel (by simpa using enough)]
    rfl

/-- The body `appendString` writes after the opening quote reads back as the string. -/
theorem readString_appendString (s : String) (rest : List Char) :
    readString (s.data.flatMap escapeRune ++ '"' :: rest) = some (s.data, rest) := by
  apply readStringFuel_escaped
  have := length_le_escaped s.data
  simp only [List.length_append, List.length_cons]
  omega

/-- What follows a value does not start with a digit, which a number would take as its own. -/
def NoDigitHead (rest : List Char) : Prop := ∀ c ∈ rest.head?, c ∉ decimalDigits

theorem takeWhile_digits {digits rest : List Char} (decimal : ∀ c ∈ digits, c ∈ decimalDigits)
    (stop : NoDigitHead rest) : (digits ++ rest).takeWhile decimalDigits.contains = digits := by
  induction digits with
  | nil =>
    cases rest with
    | nil => rfl
    | cons c rest => simp [List.takeWhile_cons, stop c rfl]
  | cons c digits ih =>
    simp [List.takeWhile_cons, decimal c (by simp), ih fun x member => decimal x (by simp [member])]

/-- The decimal text `strconv` writes for an integer reads back as that integer. -/
theorem readNumber_toString (n : Int) {rest : List Char} (stop : NoDigitHead rest) :
    readNumber ((toString n).data ++ rest) = some (n, rest) := by
  obtain ⟨nonempty, decimal, value⟩ := toString_decimal n.natAbs
  have taken := takeWhile_digits decimal stop
  have leading : ¬((toString n.natAbs).data.head? = some '0' ∧
      (toString n.natAbs).data.length ≠ 1) := by
    rintro ⟨zero, long⟩
    rcases Nat.eq_zero_or_pos n.natAbs with none | positive
    · rw [none] at long; exact long rfl
    · obtain ⟨c, tail, text, nonzero⟩ := toString_nat_head _ positive
      rw [text] at zero; exact nonzero (Option.some.inj zero)
  obtain ⟨first, tail, text⟩ := List.exists_cons_of_ne_nil nonempty
  have unsigned := (decimalDigits_plain first (decimal first (by simp [text]))).2.2.1
  rw [toString_int_data]
  generalize (toString n.natAbs).data = digits at nonempty decimal value taken leading text ⊢
  by_cases negative : n < 0
  · simp [readNumber, negative, taken, nonempty, leading, value, abs_of_neg negative]
  · have unsignedHead : ¬digits.head? = some '-' := by simp [text, unsigned]
    simp [readNumber, negative, unsignedHead, taken, nonempty, leading, value,
      abs_of_nonneg (not_lt.mp negative)]

theorem skipWhitespace_cons {c : Char} (solid : isJsonSpace c = false) (rest : List Char) :
    skipWhitespace (c :: rest) = c :: rest := by
  simp [skipWhitespace, List.dropWhile_cons, solid]

theorem skipWhitespace_blank_append {ws : List Char} (blank : ∀ c ∈ ws, isJsonSpace c = true)
    (rest : List Char) : skipWhitespace (ws ++ rest) = skipWhitespace rest := by
  induction ws with
  | nil => rfl
  | cons c ws ih =>
    simp [skipWhitespace, List.dropWhile_cons, blank c (by simp)] at ih ⊢
    exact ih fun x member => blank x (by simp [member])

theorem newline_blank {margin indent : List Char}
    (blank : ∀ c ∈ margin ++ indent, isJsonSpace c = true) (depth : Nat) :
    ∀ c ∈ newline margin indent depth, isJsonSpace c = true := by
  intro c member
  simp only [newline, List.mem_cons, List.mem_append, List.mem_flatten, List.mem_replicate] at member
  rcases member with (rfl | inMargin) | ⟨_, ⟨-, rfl⟩, inIndent⟩
  · rfl
  · exact blank c (List.mem_append_left _ inMargin)
  · exact blank c (List.mem_append_right _ inIndent)

theorem layout_head (margin indent : List Char) (depth : Nat) (v : JSON) :
    ∃ c rest, v.layout margin indent depth = c :: rest ∧ isJsonSpace c = false ∧ c ≠ '}' ∧
      c ≠ ']' := by
  match v with
  | .array [] => exact ⟨_, _, rfl, rfl, by decide, by decide⟩
  | .array (_ :: _) => exact ⟨_, _, rfl, rfl, by decide, by decide⟩
  | .object [] => exact ⟨_, _, rfl, rfl, by decide, by decide⟩
  | .object (_ :: _) => exact ⟨_, _, rfl, rfl, by decide, by decide⟩
  | .null => exact encode_head .null
  | .bool b => exact encode_head (.bool b)
  | .number n => exact encode_head (.number n)
  | .string s => exact encode_head (.string s)


theorem readValue_blank {ws : List Char} (blank : ∀ c ∈ ws, isJsonSpace c = true) (fuel : Nat)
    (text : List Char) : readValue fuel (ws ++ text) = readValue fuel text := by
  cases fuel with
  | zero => simp [readValue]
  | succ fuel => simp only [readValue, skipWhitespace_blank_append blank]

theorem readKey_appendString {ws : List Char} (blank : ∀ c ∈ ws, isJsonSpace c = true)
    (k : String) (rest : List Char) :
    readKey (ws ++ (appendString k ++ ':' :: rest)) = some (k, rest) := by
  simp only [readKey, appendString, List.append_assoc, List.cons_append, List.singleton_append,
    skipWhitespace_blank_append blank, skipWhitespace_cons (show isJsonSpace '"' = false from rfl),
    if_true, readString_appendString, Option.some_bind, List.nil_append,
    skipWhitespace_cons (show isJsonSpace ':' = false from rfl)]

mutual
/-- The fuel that reading a value takes: one per value, element and field. -/
def JSON.size : JSON → Nat
  | .array [] => 1
  | .array (x :: xs) => 1 + x.size + sizeItems xs
  | .object [] => 1
  | .object ((_, v) :: fs) => 1 + v.size + sizeFields fs
  | _ => 1

def sizeItems : List JSON → Nat
  | [] => 1
  | x :: xs => 1 + x.size + sizeItems xs

def sizeFields : List (String × JSON) → Nat
  | [] => 1
  | (_, v) :: fs => 1 + v.size + sizeFields fs
end

theorem JSON.size_pos (v : JSON) : 0 < v.size := by
  match v with
  | .array [] | .array (_ :: _) | .object [] | .object (_ :: _) | .null | .bool _ | .number _
  | .string _ => simp [JSON.size]; try omega

theorem sizeItems_pos (xs : List JSON) : 0 < sizeItems xs := by
  cases xs <;> simp [sizeItems]

theorem sizeFields_pos (fs : List (String × JSON)) : 0 < sizeFields fs := by
  cases fs <;> simp [sizeFields]

theorem blank_not_digit {c : Char} (blank : isJsonSpace c = true) : c ∉ decimalDigits := by
  have digits : ∀ c ∈ decimalDigits, isJsonSpace c = false := by decide
  exact fun digit => by simp [digits c digit] at blank

theorem readValue_number_head {c : Char} (numeric : c = '-' ∨ c ∈ decimalDigits) (fuel : Nat)
    (rest : List Char) :
    readValue (fuel + 1) (c :: rest) =
      (readNumber (c :: rest)).map fun (n, rest) => (.number n, rest) := by
  have other : ∀ c ∈ '-' :: decimalDigits, isJsonSpace c = false ∧ c ≠ 'n' ∧ c ≠ 't' ∧
      c ≠ 'f' ∧ c ≠ '"' ∧ c ≠ '[' ∧ c ≠ '{' := by decide
  obtain ⟨solid, n, t, f, q, a, o⟩ := other c (List.mem_cons.mpr numeric)
  simp [readValue, skipWhitespace_cons solid, n, t, f, q, a, o]

theorem readValue_array {rest : List Char} (nonempty : (skipWhitespace rest).head? ≠ some ']')
    (fuel : Nat) :
    readValue (fuel + 1) ('[' :: rest) =
      (readValue fuel rest).bind fun (x, rest) =>
        (readItems fuel rest).map fun (xs, rest) => (.array (x :: xs), rest) := by
  simp [readValue, skipWhitespace_cons (show isJsonSpace '[' = false from rfl), nonempty]

theorem readValue_object {rest : List Char} (nonempty : (skipWhitespace rest).head? ≠ some '}')
    (fuel : Nat) :
    readValue (fuel + 1) ('{' :: rest) =
      (readKey rest).bind fun (k, rest) =>
        (readValue fuel rest).bind fun (v, rest) =>
          (readFields fuel rest).map fun (fs, rest) => (.object ((k, v) :: fs), rest) := by
  simp [readValue, skipWhitespace_cons (show isJsonSpace '{' = false from rfl), nonempty]

theorem readItems_comma (fuel : Nat) (rest : List Char) :
    readItems (fuel + 1) (',' :: rest) =
      (readValue fuel rest).bind fun (x, rest) =>
        (readItems fuel rest).map fun (xs, rest) => (x :: xs, rest) := by
  simp [readItems, skipWhitespace_cons (show isJsonSpace ',' = false from rfl)]

theorem readFields_comma (fuel : Nat) (rest : List Char) :
    readFields (fuel + 1) (',' :: rest) =
      (readKey rest).bind fun (k, rest) =>
        (readValue fuel rest).bind fun (v, rest) =>
          (readFields fuel rest).map fun (fs, rest) => ((k, v) :: fs, rest) := by
  simp [readFields, skipWhitespace_cons (show isJsonSpace ',' = false from rfl)]

section
variable {margin indent : List Char}

theorem noDigitHead_items (xs : List JSON) (depth : Nat) {ws : List Char}
    (blank : ∀ c ∈ ws, isJsonSpace c = true) (closing : Char) (closingNotDigit : closing ∉ decimalDigits) (rest : List Char) :
    NoDigitHead (layoutItems margin indent depth xs ++ (ws ++ closing :: rest)) := by
  intro c first
  cases xs with
  | cons x xs => simp [layoutItems] at first; subst first; decide
  | nil =>
    cases ws with
    | nil => simp [layoutItems] at first; subst first; exact closingNotDigit
    | cons w ws => simp [layoutItems] at first; subst first; exact blank_not_digit (blank _ (by simp))

theorem noDigitHead_fields (fs : List (String × JSON)) (depth : Nat) {ws : List Char}
    (blank : ∀ c ∈ ws, isJsonSpace c = true) (rest : List Char) :
    NoDigitHead (layoutFields margin indent depth fs ++ (ws ++ '}' :: rest)) := by
  intro c first
  cases fs with
  | cons f fs => simp [layoutFields] at first; subst first; decide
  | nil =>
    cases ws with
    | nil => simp [layoutFields] at first; subst first; decide
    | cons w ws => simp [layoutFields] at first; subst first; exact blank_not_digit (blank _ (by simp))

mutual
/-- The layout of every value reads back as the value, with whatever follows it left
unread; the fuel its size asks for is enough. -/
theorem readValue_layout (blank : ∀ c ∈ margin ++ indent, isJsonSpace c = true) :
    ∀ (v : JSON) (fuel depth : Nat) (rest : List Char), v.size ≤ fuel → NoDigitHead rest →
      readValue fuel (v.layout margin indent depth ++ rest) = some (v, rest)
  | v, 0, _, _, enough, _ => absurd enough (by have := v.size_pos; omega)
  | .null, fuel + 1, _, rest, _, _ => rfl
  | .bool true, fuel + 1, _, rest, _, _ => rfl
  | .bool false, fuel + 1, _, rest, _, _ => rfl
  | .number n, fuel + 1, _, rest, _, stop => by
    obtain ⟨c, more, text⟩ := List.exists_cons_of_ne_nil (toString_int_ne_nil n)
    have numeric := toString_int_chars n c (by simp [text])
    show readValue (fuel + 1) ((toString n).data ++ rest) = _
    rw [text, List.cons_append, readValue_number_head numeric, ← List.cons_append, ← text,
      readNumber_toString n stop]
    rfl
  | .string s, fuel + 1, _, rest, _, _ => by
    show readValue (fuel + 1) (appendString s ++ rest) = _
    simp [appendString, readValue, skipWhitespace_cons (show isJsonSpace '"' = false from rfl),
      readString_appendString]
  | .array [], fuel + 1, _, rest, _, _ => by
    simp [JSON.layout, readValue, skipWhitespace_cons (show isJsonSpace '[' = false from rfl),
      skipWhitespace_cons (show isJsonSpace ']' = false from rfl)]
  | .array (x :: xs), fuel + 1, depth, rest, enough, _ => by
    simp only [JSON.size] at enough
    obtain ⟨c, more, head, solid, -, bracket⟩ := layout_head margin indent (depth + 1) x
    simp only [JSON.layout, List.cons_append, List.append_assoc, List.nil_append]
    rw [readValue_array (by rw [skipWhitespace_blank_append (newline_blank blank _), head,
        List.cons_append, skipWhitespace_cons solid]; simp [bracket]),
      readValue_blank (newline_blank blank _),
      readValue_layout blank x fuel (depth + 1) _ (by omega)
        (noDigitHead_items xs _ (newline_blank blank depth) ']' (by decide) rest),
      Option.some_bind]
    dsimp only
    rw [readItems_layout blank xs fuel (depth + 1) _ rest (by omega) (newline_blank blank depth)]
    rfl
  | .object [], fuel + 1, _, rest, _, _ => by
    simp [JSON.layout, readValue, skipWhitespace_cons (show isJsonSpace '{' = false from rfl),
      skipWhitespace_cons (show isJsonSpace '}' = false from rfl)]
  | .object ((k, v) :: fs), fuel + 1, depth, rest, enough, _ => by
    simp only [JSON.size] at enough
    simp only [JSON.layout, List.cons_append, List.append_assoc, List.nil_append]
    rw [readValue_object (by
        rw [skipWhitespace_blank_append (newline_blank blank _)]
        simp [appendString, skipWhitespace_cons (show isJsonSpace '"' = false from rfl)]),
      readKey_appendString (newline_blank blank _), Option.some_bind]
    dsimp only
    rw [← List.singleton_append, readValue_blank (by decide),
      readValue_layout blank v fuel (depth + 1) _ (by omega)
        (noDigitHead_fields fs _ (newline_blank blank depth) rest),
      Option.some_bind]
    dsimp only
    rw [readFields_layout blank fs fuel (depth + 1) _ rest (by omega) (newline_blank blank depth)]
    rfl

theorem readItems_layout (blank : ∀ c ∈ margin ++ indent, isJsonSpace c = true) :
    ∀ (xs : List JSON) (fuel depth : Nat) (ws rest : List Char), sizeItems xs ≤ fuel →
      (∀ c ∈ ws, isJsonSpace c = true) →
      readItems fuel (layoutItems margin indent depth xs ++ (ws ++ ']' :: rest)) = some (xs, rest)
  | xs, 0, _, _, _, enough, _ => absurd enough (by have := sizeItems_pos xs; omega)
  | [], fuel + 1, _, ws, rest, _, wsBlank => by
    simp [layoutItems, readItems, skipWhitespace_blank_append wsBlank,
      skipWhitespace_cons (show isJsonSpace ']' = false from rfl)]
  | x :: xs, fuel + 1, depth, ws, rest, enough, wsBlank => by
    simp only [sizeItems] at enough
    simp only [layoutItems, List.cons_append, List.append_assoc, List.nil_append]
    rw [readItems_comma, readValue_blank (newline_blank blank _),
      readValue_layout blank x fuel depth _ (by omega)
        (noDigitHead_items xs _ wsBlank ']' (by decide) rest),
      Option.some_bind]
    dsimp only
    rw [readItems_layout blank xs fuel depth ws rest (by omega) wsBlank]
    rfl

theorem readFields_layout (blank : ∀ c ∈ margin ++ indent, isJsonSpace c = true) :
    ∀ (fs : List (String × JSON)) (fuel depth : Nat) (ws rest : List Char), sizeFields fs ≤ fuel →
      (∀ c ∈ ws, isJsonSpace c = true) →
      readFields fuel (layoutFields margin indent depth fs ++ (ws ++ '}' :: rest)) = some (fs, rest)
  | fs, 0, _, _, _, enough, _ => absurd enough (by have := sizeFields_pos fs; omega)
  | [], fuel + 1, _, ws, rest, _, wsBlank => by
    simp [layoutFields, readFields, skipWhitespace_blank_append wsBlank,
      skipWhitespace_cons (show isJsonSpace '}' = false from rfl)]
  | (k, v) :: fs, fuel + 1, depth, ws, rest, enough, wsBlank => by
    simp only [sizeFields] at enough
    simp only [layoutFields, List.cons_append, List.append_assoc, List.nil_append]
    rw [readFields_comma, readKey_appendString (newline_blank blank _), Option.some_bind]
    dsimp only
    rw [← List.singleton_append, readValue_blank (by decide),
      readValue_layout blank v fuel depth _ (by omega) (noDigitHead_fields fs _ wsBlank rest),
      Option.some_bind]
    dsimp only
    rw [readFields_layout blank fs fuel depth ws rest (by omega) wsBlank]
    rfl
end

end


mutual
theorem JSON.size_le_length (margin indent : List Char) :
    ∀ (v : JSON) (depth : Nat), v.size ≤ (v.layout margin indent depth).length
  | .null, _ => by simp [JSON.size, JSON.layout, JSON.encode]
  | .bool b, _ => by cases b <;> simp [JSON.size, JSON.layout, JSON.encode]
  | .number n, _ => by
    have := List.length_pos.mpr (toString_int_ne_nil n)
    simp only [JSON.size, JSON.layout, JSON.encode]
    omega
  | .string s, _ => by simp [JSON.size, JSON.layout, JSON.encode, appendString]
  | .array [], _ => by simp [JSON.size, JSON.layout]
  | .array (x :: xs), depth => by
    have := JSON.size_le_length margin indent x (depth + 1)
    have := sizeItems_le_length margin indent xs (depth + 1)
    simp only [JSON.size, JSON.layout, List.length_cons, List.length_append, newline]
    omega
  | .object [], _ => by simp [JSON.size, JSON.layout]
  | .object ((k, v) :: fs), depth => by
    have := JSON.size_le_length margin indent v (depth + 1)
    have := sizeFields_le_length margin indent fs (depth + 1)
    simp only [JSON.size, JSON.layout, List.length_cons, List.length_append, newline]
    omega

theorem sizeItems_le_length (margin indent : List Char) :
    ∀ (xs : List JSON) (depth : Nat), sizeItems xs ≤ (layoutItems margin indent depth xs).length + 1
  | [], _ => by simp [sizeItems, layoutItems]
  | x :: xs, depth => by
    have := JSON.size_le_length margin indent x depth
    have := sizeItems_le_length margin indent xs depth
    simp only [sizeItems, layoutItems, List.length_cons, List.length_append, newline]
    omega

theorem sizeFields_le_length (margin indent : List Char) :
    ∀ (fs : List (String × JSON)) (depth : Nat),
      sizeFields fs ≤ (layoutFields margin indent depth fs).length + 1
  | [], _ => by simp [sizeFields, layoutFields]
  | (k, v) :: fs, depth => by
    have := JSON.size_le_length margin indent v depth
    have := sizeFields_le_length margin indent fs depth
    simp only [sizeFields, layoutFields, List.length_cons, List.length_append, newline]
    omega
end

/-- The layout of a value, with a margin and an indent of whitespace, reads back as the
value. -/
theorem JSON.read_layout (v : JSON) {margin indent : List Char}
    (blank : ∀ c ∈ margin ++ indent, isJsonSpace c = true) :
    JSON.read ⟨v.layout margin indent 0⟩ = some v := by
  have enough := JSON.size_le_length margin indent v 0
  simp only [JSON.read, String.length]
  rw [← List.append_nil (v.layout _ _ 0), readValue_layout blank v _ 0 [] (by simp; omega)
    (by simp [NoDigitHead])]
  simp [skipWhitespace]

/-- Whatever value `MarshalIndent` writes with a margin and an indent of whitespace reads back
as that value: the text is well-formed JSON, and it loses nothing. -/
theorem JSON.read_marshalIndent (v : JSON) (margin indent : String)
    (blank : ∀ c ∈ margin.data ++ indent.data, isJsonSpace c = true) :
    JSON.read (marshalIndent v margin indent) = some v := by
  rw [marshalIndent_eq]
  exact JSON.read_layout v blank

theorem JSON.read_marshalIndent_escapes :
    (∀ c ∈ ("" : String).data ++ ("  " : String).data, isJsonSpace c = true) ∧
      JSON.read (marshalIndent (.object [("auth", .string "p\"<\\\n\u2028")]) "" "  ") =
        some (.object [("auth", .string "p\"<\\\n\u2028")]) :=
  ⟨by decide, JSON.read_marshalIndent _ "" "  " (by decide)⟩

end LibyaLink.Go
