import Mathlib

/-! The few functions of Go's `strings` and `unicode` packages that the doctor and the
client generator call, on the runes of a string. -/

namespace LibyaLink.Go

/-- `unicode.IsSpace`: the Latin-1 spaces, and above U+00FF the White_Space runes.
`fmt`'s scanner uses the same set. -/
def isSpace (c : Char) : Bool :=
  if c.toNat ≤ 0xff then
    [0x09, 0x0a, 0x0b, 0x0c, 0x0d, 0x20, 0x85, 0xa0].contains c.toNat
  else
    c.toNat == 0x1680 || (0x2000 ≤ c.toNat && c.toNat ≤ 0x200a) || c.toNat == 0x2028 ||
      c.toNat == 0x2029 || c.toNat == 0x202f || c.toNat == 0x205f || c.toNat == 0x3000

/-- `strings.TrimSpace`: leading and trailing `unicode.IsSpace` runes removed. The source's
ASCII fast path computes the same string. -/
def trimSpace (s : String) : String :=
  ⟨((s.data.dropWhile isSpace).reverse.dropWhile isSpace).reverse⟩

/-- `strings.Contains`. -/
def stringsContains (s substr : String) : Bool :=
  decide (substr.data <:+: s.data)

/-- `strings.ToLower`: A-Z to a-z for an all-ASCII string, else rune by rune through
`unicode.ToLower`, whose case table is a parameter. -/
def stringsToLower (unicodeToLower : Char → Char) (s : String) : String :=
  if s.data.all (·.toNat < 0x80) then ⟨s.data.map Char.toLower⟩ else ⟨s.data.map unicodeToLower⟩

/-- The lines of a text as `getline` and `bufio.Scanner` read them: split at each newline,
with no empty line after a final newline. -/
def splitLines (text : List Char) : List (List Char) :=
  text.foldr (fun c lines =>
    if c = '\n' then [] :: lines
    else match lines with
      | [] => [[c]]
      | line :: rest => (c :: line) :: rest) []

theorem splitLines_line {line : List Char} (single : '\n' ∉ line) (rest : List Char) :
    splitLines (line ++ '\n' :: rest) = line :: splitLines rest := by
  induction line with
  | nil => simp [splitLines]
  | cons c line ih =>
    obtain ⟨head, tail⟩ : c ≠ '\n' ∧ '\n' ∉ line := by simpa [eq_comm] using single
    have step := ih tail
    simp only [splitLines, List.cons_append, List.foldr_cons] at step ⊢
    rw [step, if_neg head]

/-- `s!` applies `toString` to each piece, which leaves a string as it is. -/
@[simp] theorem toString_string (s : String) : toString s = s := rfl

/-- Text that starts and ends with a non-space rune keeps its body when a trailing run of
spaces is trimmed, as `checkUDPBuffers` trims the newline off a sysctl file. -/
theorem trimSpace_append_spaces (body spaces : List Char)
    (first : ∀ c ∈ body.head?, isSpace c = false) (last : ∀ c ∈ body.getLast?, isSpace c = false)
    (blank : ∀ c ∈ spaces, isSpace c = true) : trimSpace ⟨body ++ spaces⟩ = ⟨body⟩ := by
  have trailing : ∀ rest : List Char,
      (spaces.reverse ++ rest).dropWhile isSpace = rest.dropWhile isSpace :=
    fun _ => List.dropWhile_append_of_pos (fun c member => blank c (List.mem_reverse.mp member))
  cases body with
  | nil => simp [trimSpace, List.dropWhile_eq_nil_iff.mpr blank]
  | cons head tail =>
    have back : (head :: tail).reverse.dropWhile isSpace = (head :: tail).reverse := by
      cases reversed : (head :: tail).reverse with
      | nil => rfl
      | cons final rest =>
        have edge := last final (by simp [List.getLast?_eq_head?_reverse, reversed])
        exact List.dropWhile_cons_of_neg (by simpa using edge)
    have front : (head :: tail ++ spaces).dropWhile isSpace = head :: tail ++ spaces :=
      List.dropWhile_cons_of_neg (by simpa using first head rfl)
    simp only [trimSpace, front, ← List.cons_append, List.reverse_append, trailing, back,
      List.reverse_reverse]

end LibyaLink.Go
