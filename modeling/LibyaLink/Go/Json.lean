import LibyaLink.Go.Fmt

/-! `encoding/json` as `gen-client` uses it: `MarshalIndent(v, "", "  ")` marshals a value
to compact JSON, writing strings with `escapeHTML` set, and then re-indents those bytes with
`appendIndent`, a loop over the bytes driven by the JSON scanner. -/

namespace LibyaLink.Go

/-- A JSON value: what `Marshal` makes of a Go value. Objects keep their keys in the order
`Marshal` writes them. -/
inductive JSON where
  | null
  | bool (b : Bool)
  | number (n : Int)
  | string (s : String)
  | array (items : List JSON)
  | object (fields : List (String × JSON))
deriving Repr

def JSON.isNull : JSON → Bool
  | .null => true
  | _ => false

@[simp] theorem JSON.isNull_object (fields : List (String × JSON)) :
    (JSON.object fields).isNull = false := rfl

/-- `hex` of `encode.go`. -/
def hex : List Char := "0123456789abcdef".data

def hexDigit (n : Nat) : Char := hex.getD n '0'

/-- `htmlSafeSet`: the ASCII bytes `appendString` copies as they are when `escapeHTML` is
set. -/
def htmlSafe (c : Char) : Bool :=
  0x20 ≤ c.toNat && c.toNat < 0x80 && c != '"' && c != '\\' && c != '<' && c != '>' && c != '&'

/-- The escape `appendString` writes for an ASCII byte outside `htmlSafeSet`. -/
def escapeByte (b : Char) : List Char :=
  match b with
  | '\\' | '"' => ['\\', b]
  | '\x08' => ['\\', 'b']
  | '\x0c' => ['\\', 'f']
  | '\n' => ['\\', 'n']
  | '\r' => ['\\', 'r']
  | '\t' => ['\\', 't']
  | _ => ['\\', 'u', '0', '0', hexDigit (b.toNat / 16), hexDigit (b.toNat % 16)]

/-- What `appendString` writes for one rune; a Lean string holds no invalid UTF-8, so the
`\ufffd` branch never runs. -/
def escapeRune (c : Char) : List Char :=
  if c.toNat < 0x80 then
    if htmlSafe c then [c] else escapeByte c
  else if c = '\u2028' ∨ c = '\u2029' then ['\\', 'u', '2', '0', '2', hexDigit (c.toNat % 16)]
  else [c]

/-- `appendString` with `escapeHTML` set. -/
def appendString (s : String) : List Char :=
  '"' :: s.data.flatMap escapeRune ++ ['"']

mutual
/-- The bytes `Marshal` writes for a value: `strconv.AppendInt` for a number, one `,` between
the elements of an array and between the fields of an object. -/
def JSON.encode : JSON → List Char
  | .null => "null".data
  | .bool b => if b then "true".data else "false".data
  | .number n => (toString n).data
  | .string s => appendString s
  | .array [] => ['[', ']']
  | .array (x :: xs) => '[' :: x.encode ++ encodeItems xs ++ [']']
  | .object [] => ['{', '}']
  | .object ((k, v) :: fs) => '{' :: appendString k ++ ':' :: v.encode ++ encodeFields fs ++ ['}']

def encodeItems : List JSON → List Char
  | [] => []
  | x :: xs => ',' :: x.encode ++ encodeItems xs

def encodeFields : List (String × JSON) → List Char
  | [] => []
  | (k, v) :: fs => ',' :: appendString k ++ ':' :: v.encode ++ encodeFields fs
end

/-- The part of the scanner's state `appendIndent` depends on: outside a string, inside one,
or right after a backslash inside one. -/
inductive ScanState
  | value
  | inString
  | inStringEsc
deriving DecidableEq, Repr

/-- The bytes the scanner skips between tokens. -/
def isJsonSpace (c : Char) : Bool := c = ' ' || c = '\t' || c = '\n' || c = '\r'

/-- The loop state of `appendIndent`. -/
structure Indenter where
  dst : List Char
  needIndent : Bool
  depth : Nat
  scan : ScanState

/-- `appendNewline`: a newline, the margin (the `prefix` argument) and `depth` indents. -/
def appendNewline (dst margin indent : List Char) (depth : Nat) : List Char :=
  dst ++ '\n' :: margin ++ (List.replicate depth indent).flatten

/-- One pass of the loop body of `appendIndent` over the byte `c`: `{` and `[` delay their
newline to the next byte, so that `{}` and `[]` stay as they are. -/
def indentStep (margin indent : List Char) (st : Indenter) (c : Char) : Indenter :=
  if st.scan = .value ∧ isJsonSpace c then st
  else
    let st :=
      if st.needIndent ∧ ¬(st.scan = .value ∧ (c = '}' ∨ c = ']')) then
        { st with needIndent := false, depth := st.depth + 1,
                  dst := appendNewline st.dst margin indent (st.depth + 1) }
      else st
    match st.scan with
    | .inString =>
      { st with dst := st.dst ++ [c],
                scan := if c = '"' then .value else if c = '\\' then .inStringEsc else .inString }
    | .inStringEsc => { st with dst := st.dst ++ [c], scan := .inString }
    | .value =>
      match c with
      | '{' | '[' => { st with needIndent := true, dst := st.dst ++ [c] }
      | ',' => { st with dst := appendNewline (st.dst ++ [c]) margin indent st.depth }
      | ':' => { st with dst := st.dst ++ [c, ' '] }
      | '}' | ']' =>
        if st.needIndent then { st with needIndent := false, dst := st.dst ++ [c] }
        else
          { st with depth := st.depth - 1,
                    dst := appendNewline st.dst margin indent (st.depth - 1) ++ [c] }
      | '"' => { st with dst := st.dst ++ [c], scan := .inString }
      | _ => { st with dst := st.dst ++ [c] }

def appendIndent (dst src margin indent : List Char) : List Char :=
  (src.foldl (indentStep margin indent) ⟨dst, false, 0, .value⟩).dst

/-- `MarshalIndent`. -/
def marshalIndent (v : JSON) (margin indent : String) : String :=
  ⟨appendIndent [] v.encode margin.data indent.data⟩

end LibyaLink.Go
