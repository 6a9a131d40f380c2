import LibyaLink.Go.Json

/-! The layout `MarshalIndent` gives a value, read off its structure, and that
`appendIndent`, run byte by byte over what `Marshal` wrote, produces exactly this layout. -/

namespace LibyaLink.Go

/-- What `appendNewline` appends. -/
def newline (margin indent : List Char) (depth : Nat) : List Char :=
  '\n' :: margin ++ (List.replicate depth indent).flatten

theorem appendNewline_eq (dst margin indent : List Char) (depth : Nat) :
    appendNewline dst margin indent depth = dst ++ newline margin indent depth := by
  simp [appendNewline, newline]

mutual
def JSON.layout (margin indent : List Char) (depth : Nat) : JSON → List Char
  | .array [] => ['[', ']']
  | .array (x :: xs) =>
    '[' :: newline margin indent (depth + 1) ++ x.layout margin indent (depth + 1) ++
      layoutItems margin indent (depth + 1) xs ++ newline margin indent depth ++ [']']
  | .object [] => ['{', '}']
  | .object ((k, v) :: fs) =>
    '{' :: newline margin indent (depth + 1) ++ appendString k ++ ':' :: ' ' ::
      v.layout margin indent (depth + 1) ++ layoutFields margin indent (depth + 1) fs ++
      newline margin indent depth ++ ['}']
  | v => v.encode

def layoutItems (margin indent : List Char) (depth : Nat) : List JSON → List Char
  | [] => []
  | x :: xs =>
    ',' :: newline margin indent depth ++ x.layout margin indent depth ++
      layoutItems margin indent depth xs

def layoutFields (margin indent : List Char) (depth : Nat) : List (String × JSON) → List Char
  | [] => []
  | (k, v) :: fs =>
    ',' :: newline margin indent depth ++ appendString k ++ ':' :: ' ' ::
      v.layout margin indent depth ++ layoutFields margin indent depth fs
end

/-- The bytes outside strings that `appendIndent` copies as they are. -/
def PlainByte (c : Char) : Prop :=
  isJsonSpace c = false ∧ c ∉ ['{', '[', ',', ':', '}', ']', '"']

instance : DecidablePred PlainByte := fun _ =>
  inferInstanceAs (Decidable (_ ∧ _))

theorem hexDigit_mem (n : Nat) : hexDigit n ∈ hex := by
  unfold hexDigit
  rw [List.getD_eq_getElem?_getD]
  cases found : hex[n]? with
  | none => decide
  | some c => exact List.getElem?_mem found

/-- No byte of an escape past its backslash closes the string or starts another escape. -/
theorem hexDigit_inString (n : Nat) : hexDigit n ≠ '"' ∧ hexDigit n ≠ '\\' := by
  have digits : ∀ c ∈ hex, c ≠ '"' ∧ c ≠ '\\' := by decide
  exact digits _ (hexDigit_mem n)

/-- What `appendString` writes for a rune is either bytes that stay inside the string, or a
backslash, one escaped byte, and bytes that stay inside the string. -/
theorem escapeRune_shape (c : Char) :
    (∀ x ∈ escapeRune c, x ≠ '"' ∧ x ≠ '\\') ∨
      ∃ x tail, escapeRune c = '\\' :: x :: tail ∧ ∀ y ∈ tail, y ≠ '"' ∧ y ≠ '\\' := by
  unfold escapeRune
  split_ifs with ascii safe separator
  · simp only [htmlSafe, Bool.and_eq_true, bne_iff_ne] at safe
    exact .inl (by simp_all)
  · unfold escapeByte
    refine .inr ?_
    split
    on_goal 8 => exact ⟨'u', _, rfl, by simp [hexDigit_inString]⟩
    all_goals exact ⟨_, [], rfl, by simp⟩
  · exact .inr ⟨'u', _, rfl, by simp [hexDigit_inString]⟩
  · refine .inl fun x member => ?_
    simp only [List.mem_singleton] at member
    subst member
    exact ⟨fun quote => ascii (by simp [quote]), fun backslash => ascii (by simp [backslash])⟩

/-- The text `%d` prints for an `int` is copied byte for byte outside strings. -/
theorem toString_int_plain (n : Int) : ∀ c ∈ (toString n).data, PlainByte c := by
  have plain : ∀ c ∈ '-' :: decimalDigits, PlainByte c := by decide
  exact fun c member => plain c (List.mem_cons.mpr (toString_int_chars n c member))

theorem encode_head (v : JSON) :
    ∃ c rest, v.encode = c :: rest ∧ isJsonSpace c = false ∧ c ≠ '}' ∧ c ≠ ']' := by
  match v with
  | .null => exact ⟨_, _, rfl, rfl, by decide, by decide⟩
  | .bool true => exact ⟨_, _, rfl, rfl, by decide, by decide⟩
  | .bool false => exact ⟨_, _, rfl, rfl, by decide, by decide⟩
  | .number n =>
    obtain ⟨c, rest, text⟩ := List.exists_cons_of_ne_nil (toString_int_ne_nil n)
    have plain := toString_int_plain n c (by simp [text])
    refine ⟨c, rest, text, plain.1, fun closing => plain.2 ?_, fun closing => plain.2 ?_⟩ <;>
      simp [closing]
  | .string s => exact ⟨_, _, rfl, rfl, by decide, by decide⟩
  | .array [] => exact ⟨_, _, rfl, rfl, by decide, by decide⟩
  | .array (_ :: _) => exact ⟨_, _, rfl, rfl, by decide, by decide⟩
  | .object [] => exact ⟨_, _, rfl, rfl, by decide, by decide⟩
  | .object (_ :: _) => exact ⟨_, _, rfl, rfl, by decide, by decide⟩

section
variable (margin indent : List Char)

theorem indentStep_plain {c : Char} (plain : PlainByte c) (dst : List Char) (depth : Nat) :
    indentStep margin indent ⟨dst, false, depth, .value⟩ c = ⟨dst ++ [c], false, depth, .value⟩ := by
  obtain ⟨blank, other⟩ := plain
  simp only [List.mem_cons, List.mem_singleton, not_or, List.not_mem_nil, not_false_eq_true,
    and_true] at other
  unfold indentStep
  split <;> simp_all

theorem indentStep_inString {c : Char} (quote : c ≠ '"') (backslash : c ≠ '\\') (dst : List Char)
    (depth : Nat) :
    indentStep margin indent ⟨dst, false, depth, .inString⟩ c =
      ⟨dst ++ [c], false, depth, .inString⟩ := by
  simp [indentStep, quote, backslash]

theorem indentStep_backslash (dst : List Char) (depth : Nat) :
    indentStep margin indent ⟨dst, false, depth, .inString⟩ '\\' =
      ⟨dst ++ ['\\'], false, depth, .inStringEsc⟩ := by
  simp [indentStep]

theorem indentStep_escaped (c : Char) (dst : List Char) (depth : Nat) :
    indentStep margin indent ⟨dst, false, depth, .inStringEsc⟩ c =
      ⟨dst ++ [c], false, depth, .inString⟩ := by
  simp [indentStep]

theorem indentStep_openString (dst : List Char) (depth : Nat) :
    indentStep margin indent ⟨dst, false, depth, .value⟩ '"' =
      ⟨dst ++ ['"'], false, depth, .inString⟩ := rfl

theorem indentStep_closeString (dst : List Char) (depth : Nat) :
    indentStep margin indent ⟨dst, false, depth, .inString⟩ '"' =
      ⟨dst ++ ['"'], false, depth, .value⟩ := rfl

theorem indentStep_open {c : Char} (opening : c = '{' ∨ c = '[') (dst : List Char)
    (depth : Nat) :
    indentStep margin indent ⟨dst, false, depth, .value⟩ c = ⟨dst ++ [c], true, depth, .value⟩ := by
  rcases opening with rfl | rfl <;> rfl

/-- `{}` and `[]`: a closing byte right after the opening one drops the pending newline. -/
theorem indentStep_closeEmpty {c : Char} (closing : c = '}' ∨ c = ']') (dst : List Char)
    (depth : Nat) :
    indentStep margin indent ⟨dst, true, depth, .value⟩ c = ⟨dst ++ [c], false, depth, .value⟩ := by
  rcases closing with rfl | rfl <;> rfl

theorem indentStep_close {c : Char} (closing : c = '}' ∨ c = ']') (dst : List Char)
    (depth : Nat) :
    indentStep margin indent ⟨dst, false, depth + 1, .value⟩ c =
      ⟨dst ++ newline margin indent depth ++ [c], false, depth, .value⟩ := by
  rcases closing with rfl | rfl <;> simp [indentStep, appendNewline_eq, isJsonSpace]

theorem indentStep_comma (dst : List Char) (depth : Nat) :
    indentStep margin indent ⟨dst, false, depth, .value⟩ ',' =
      ⟨dst ++ [','] ++ newline margin indent depth, false, depth, .value⟩ := by
  simp [indentStep, appendNewline_eq, isJsonSpace]

theorem indentStep_colon (dst : List Char) (depth : Nat) :
    indentStep margin indent ⟨dst, false, depth, .value⟩ ':' =
      ⟨dst ++ [':', ' '], false, depth, .value⟩ := rfl

/-- A byte ends the delayed newline of `{` or `[` unless it closes the object or array. -/
theorem indentStep_needIndent {c : Char} (blank : isJsonSpace c = false)
    (closing : c ≠ '}' ∧ c ≠ ']') (dst : List Char) (depth : Nat) :
    indentStep margin indent ⟨dst, true, depth, .value⟩ c =
      indentStep margin indent
        ⟨dst ++ newline margin indent (depth + 1), false, depth + 1, .value⟩ c := by
  simp [indentStep, blank, closing, appendNewline_eq]

theorem foldl_plain {cs : List Char} (plain : ∀ c ∈ cs, PlainByte c) (dst : List Char)
    (depth : Nat) :
    cs.foldl (indentStep margin indent) ⟨dst, false, depth, .value⟩ =
      ⟨dst ++ cs, false, depth, .value⟩ := by
  induction cs generalizing dst with
  | nil => simp
  | cons c rest ih =>
    rw [List.foldl_cons, indentStep_plain margin indent (plain c (by simp)),
      ih (fun x member => plain x (by simp [member]))]
    simp

theorem foldl_inString {cs : List Char} (plain : ∀ c ∈ cs, c ≠ '"' ∧ c ≠ '\\')
    (dst : List Char) (depth : Nat) :
    cs.foldl (indentStep margin indent) ⟨dst, false, depth, .inString⟩ =
      ⟨dst ++ cs, false, depth, .inString⟩ := by
  induction cs generalizing dst with
  | nil => simp
  | cons c rest ih =>
    have first := plain c (by simp)
    rw [List.foldl_cons, indentStep_inString margin indent first.1 first.2,
      ih (fun x member => plain x (by simp [member]))]
    simp

theorem foldl_escapeRune (c : Char) (dst : List Char) (depth : Nat) :
    (escapeRune c).foldl (indentStep margin indent) ⟨dst, false, depth, .inString⟩ =
      ⟨dst ++ escapeRune c, false, depth, .inString⟩ := by
  rcases escapeRune_shape c with plain | ⟨x, tail, shape, plain⟩
  · exact foldl_inString margin indent plain dst depth
  · rw [shape, List.foldl_cons, List.foldl_cons, indentStep_backslash, indentStep_escaped,
      foldl_inString margin indent plain]
    simp

/-- A string `appendString` wrote is copied as it is, and the loop leaves it outside any
string. -/
theorem foldl_appendString (s : String) (dst : List Char) (depth : Nat) :
    (appendString s).foldl (indentStep margin indent) ⟨dst, false, depth, .value⟩ =
      ⟨dst ++ appendString s, false, depth, .value⟩ := by
  have body : ∀ (cs : List Char) (dst : List Char),
      (cs.flatMap escapeRune).foldl (indentStep margin indent) ⟨dst, false, depth, .inString⟩ =
        ⟨dst ++ cs.flatMap escapeRune, false, depth, .inString⟩ := by
    intro cs
    induction cs with
    | nil => simp
    | cons c rest ih =>
      intro dst
      rw [List.flatMap_cons, List.foldl_append, foldl_escapeRune, ih]
      simp
  simp only [appendString, List.foldl_cons, List.foldl_append, List.foldl_nil]
  rw [indentStep_openString, body, indentStep_closeString]
  simp

/-- Once `{` or `[` has delayed its newline, a value that follows gets it. -/
theorem foldl_needIndent {c : Char} {rest : List Char} (blank : isJsonSpace c = false)
    (closing : c ≠ '}' ∧ c ≠ ']') (dst : List Char) (depth : Nat) :
    (c :: rest).foldl (indentStep margin indent) ⟨dst, true, depth, .value⟩ =
      (c :: rest).foldl (indentStep margin indent)
        ⟨dst ++ newline margin indent (depth + 1), false, depth + 1, .value⟩ := by
  rw [List.foldl_cons, List.foldl_cons, indentStep_needIndent margin indent blank closing]

theorem foldl_encode_needIndent (v : JSON) (dst : List Char) (depth : Nat) :
    v.encode.foldl (indentStep margin indent) ⟨dst, true, depth, .value⟩ =
      v.encode.foldl (indentStep margin indent)
        ⟨dst ++ newline margin indent (depth + 1), false, depth + 1, .value⟩ := by
  obtain ⟨c, rest, head, blank, closing⟩ := encode_head v
  rw [head, foldl_needIndent margin indent blank ⟨closing.1, closing.2⟩]

theorem foldl_appendString_needIndent (s : String) (dst : List Char) (depth : Nat) :
    (appendString s).foldl (indentStep margin indent) ⟨dst, true, depth, .value⟩ =
      (appendString s).foldl (indentStep margin indent)
        ⟨dst ++ newline margin indent (depth + 1), false, depth + 1, .value⟩ :=
  foldl_needIndent margin indent (c := '"') rfl ⟨by decide, by decide⟩ dst depth

mutual
/-- Over the bytes `Marshal` wrote for a value, `appendIndent`'s loop appends the value's
layout and ends outside strings, at the same depth, with no newline pending. -/
theorem foldl_encode : ∀ (v : JSON) (dst : List Char) (depth : Nat),
    v.encode.foldl (indentStep margin indent) ⟨dst, false, depth, .value⟩ =
      ⟨dst ++ v.layout margin indent depth, false, depth, .value⟩
  | .null, dst, depth => foldl_plain margin indent (by decide) dst depth
  | .bool true, dst, depth => foldl_plain margin indent (by decide) dst depth
  | .bool false, dst, depth => foldl_plain margin indent (by decide) dst depth
  | .number n, dst, depth => foldl_plain margin indent (toString_int_plain n) dst depth
  | .string s, dst, depth => foldl_appendString margin indent s dst depth
  | .array [], dst, depth => by
    simp only [JSON.encode, JSON.layout, List.foldl_cons, List.foldl_nil]
    rw [indentStep_open margin indent (.inr rfl), indentStep_closeEmpty margin indent (.inr rfl)]
    simp
  | .array (x :: xs), dst, depth => by
    simp only [JSON.encode, JSON.layout, List.foldl_cons, List.foldl_append, List.foldl_nil]
    rw [indentStep_open margin indent (.inr rfl), foldl_encode_needIndent, foldl_encode x,
      foldl_encodeItems xs, indentStep_close margin indent (.inr rfl)]
    simp
  | .object [], dst, depth => by
    simp only [JSON.encode, JSON.layout, List.foldl_cons, List.foldl_nil]
    rw [indentStep_open margin indent (.inl rfl), indentStep_closeEmpty margin indent (.inl rfl)]
    simp
  | .object ((k, v) :: fs), dst, depth => by
    simp only [JSON.encode, JSON.layout, List.foldl_cons, List.foldl_append, List.foldl_nil]
    rw [indentStep_open margin indent (.inl rfl), foldl_appendString_needIndent,
      foldl_appendString, indentStep_colon, foldl_encode v, foldl_encodeFields fs,
      indentStep_close margin indent (.inl rfl)]
    simp

theorem foldl_encodeItems : ∀ (xs : List JSON) (dst : List Char) (depth : Nat),
    (encodeItems xs).foldl (indentStep margin indent) ⟨dst, false, depth, .value⟩ =
      ⟨dst ++ layoutItems margin indent depth xs, false, depth, .value⟩
  | [], dst, depth => by simp [encodeItems, layoutItems]
  | x :: xs, dst, depth => by
    simp only [encodeItems, layoutItems, List.foldl_cons, List.foldl_append]
    rw [indentStep_comma, foldl_encode x, foldl_encodeItems xs]
    simp

theorem foldl_encodeFields : ∀ (fs : List (String × JSON)) (dst : List Char) (depth : Nat),
    (encodeFields fs).foldl (indentStep margin indent) ⟨dst, false, depth, .value⟩ =
      ⟨dst ++ layoutFields margin indent depth fs, false, depth, .value⟩
  | [], dst, depth => by simp [encodeFields, layoutFields]
  | (k, v) :: fs, dst, depth => by
    simp only [encodeFields, layoutFields, List.foldl_cons, List.foldl_append]
    rw [indentStep_comma, foldl_appendString, indentStep_colon, foldl_encode v,
      foldl_encodeFields fs]
    simp
end

end

/-- `appendIndent` over the bytes `Marshal` wrote for a value appends the value's layout. -/
theorem appendIndent_encode (dst margin indent : List Char) (v : JSON) :
    appendIndent dst v.encode margin indent = dst ++ v.layout margin indent 0 := by
  simp [appendIndent, foldl_encode]

theorem marshalIndent_eq (v : JSON) (margin indent : String) :
    marshalIndent v margin indent = ⟨v.layout margin.data indent.data 0⟩ := by
  simp [marshalIndent, appendIndent, foldl_encode]

end LibyaLink.Go
