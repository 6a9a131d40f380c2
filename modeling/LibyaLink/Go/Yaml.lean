import LibyaLink.Go.Strings
import LibyaLink.Go.Fmt

/-! Block-mapping YAML as `yaml.v3` reads it for `viper`, and `viper`'s lookup of a dotted
key. A text outside the subset the model reads (sequences, flow collections, anchors, tags,
escapes, block scalars, tabs, non-decimal numbers) reads as `none`. -/

namespace LibyaLink.Go

/-- A rune the model reads: printable for YAML, and not a tab, a line break other than the
newline the lines are split at (CR, NEL, LS, PS) or a byte-order mark. -/
def isYamlChar (c : Char) : Bool :=
  (0x20 ≤ c.toNat && c.toNat ≤ 0x7e) ||
    (0xa0 ≤ c.toNat && c.toNat ≤ 0xfffd && c.toNat != 0x2028 && c.toNat != 0x2029 &&
      c.toNat != 0xfeff) ||
    0x10000 ≤ c.toNat

def isKeyChar (c : Char) : Bool := c.isAlphanum || c = '_' || c = '-'

def nullWords : List (List Char) := ["~".data, "null".data, "Null".data, "NULL".data]

def trueWords : List (List Char) := ["true".data, "True".data, "TRUE".data]

def falseWords : List (List Char) := ["false".data, "False".data, "FALSE".data]

/-- A key the model reads: a name that starts with a letter or `_`, and that `yaml.v3` does
not resolve to a boolean or null. -/
def isYamlKey (key : List Char) : Bool :=
  match key with
  | [] => false
  | c :: _ =>
    (c.isAlpha || c = '_') && key.all isKeyChar && !(nullWords ++ trueWords ++ falseWords).contains key

/-- A value as `viper.GetString` prints it: `.nested` is a key alone on its line, whose
mapping follows (or which is null when nothing follows). -/
inductive YamlValue
  | nested
  | null
  | text (s : String)
deriving DecidableEq, Repr

/-- What `cast.ToString` makes of a value: a mapping or null prints as the empty string. -/
def YamlValue.toString : YamlValue → String
  | .text s => s
  | _ => ""

/-- A plain scalar's text: up to a ` #` comment, trailing spaces cut off. -/
def plainBody : List Char → List Char
  | [] => []
  | ' ' :: '#' :: _ => []
  | c :: rest => c :: plainBody rest

/-- A plain scalar may not start with an indicator, unless it is `-`, `?` or `:` followed by
a non-space, and may not hold `: ` or end with `:`. -/
def isPlain (s : List Char) : Bool :=
  match s with
  | [] => false
  | c :: rest =>
    (!"-?:,[]\x7b\x7d#&*!|>'\"%@`".data.contains c ||
        ("-?:".data.contains c && rest.head? ≠ none && rest.head? ≠ some ' ')) &&
      !(": ".data <:+: s) && s.getLast? ≠ some ':'

/-- A decimal integer that `strconv.ParseInt` reads in `int64` and `strconv.Itoa` prints
back the same. -/
def isCanonicalDecimal (s : List Char) : Bool :=
  s ≠ [] && s.all Char.isDigit && (s = ['0'] || s.head? ≠ some '0') && digitsValue s < 2 ^ 63

/-- `yaml.v3`'s resolution of a plain scalar: null and boolean words, decimal integers and
text; other numbers and times are outside the model. -/
def resolvePlain (s : List Char) : Option YamlValue :=
  if nullWords.contains s then some .null
  else if trueWords.contains s then some (.text "true")
  else if falseWords.contains s then some (.text "false")
  else if s = "<<".data then none
  else match s with
    | [] => some .null
    | c :: _ =>
      if c.isDigit || c = '+' || c = '-' || c = '.' then
        if isCanonicalDecimal s then some (.text ⟨s⟩) else none
      else some (.text ⟨s⟩)

/-- Spaces, then the end of the line or a comment. -/
def endsLine (after : List Char) : Bool :=
  after.all (· = ' ') || (after.head? = some ' ' && (after.dropWhile (· = ' ')).head? = some '#')

/-- The value after `key:` and its spaces. A double-quoted scalar with an escape is outside
the model. -/
def yamlValue : List Char → Option YamlValue
  | [] => some .nested
  | '#' :: _ => some .nested
  | '"' :: rest =>
    match rest.dropWhile (· ≠ '"') with
    | '"' :: after =>
      if !(rest.takeWhile (· ≠ '"')).contains '\\' && endsLine after then
        some (.text ⟨rest.takeWhile (· ≠ '"')⟩)
      else none
    | _ => none
  | text =>
    let body := ((plainBody text).reverse.dropWhile (· = ' ')).reverse
    if isPlain body then resolvePlain body else none

/-- A `key: value` line: its indentation, its key as `viper` stores it (lower case), and
its value. -/
structure YamlLine where
  indent : Nat
  key : String
  value : YamlValue
deriving DecidableEq, Repr

/-- A line of the text: `none` when it is outside the model, `some none` for a blank or
comment line. -/
def yamlLine (line : List Char) : Option (Option YamlLine) :=
  if !line.all isYamlChar then none
  else
    match line.dropWhile (· = ' ') with
    | [] => some none
    | '#' :: _ => some none
    | body =>
      match body.dropWhile isKeyChar with
      | ':' :: rest =>
        if isYamlKey (body.takeWhile isKeyChar) && (rest = [] || rest.head? = some ' ') then
          (yamlValue (rest.dropWhile (· = ' '))).map fun value =>
            some ⟨(line.takeWhile (· = ' ')).length,
              ⟨(body.takeWhile isKeyChar).map Char.toLower⟩, value⟩
        else none
      | _ => none

/-- A read document: each key under the path of keys that leads to it, a path at most once,
in the order of the text. -/
structure YamlDoc where
  entries : List (List String × YamlValue)
  pathsNodup : (entries.map Prod.fst).Nodup

/-- The reader between two lines: what it has read, the open keys with their indentation,
innermost first, and whether the last line was a key alone. -/
structure YamlState where
  doc : YamlDoc
  chain : List (Nat × String)
  opened : Bool

/-- The line under the mappings `parent`; a key already there is an error. -/
def YamlState.add (s : YamlState) (parent : List (Nat × String)) (l : YamlLine) :
    Option YamlState :=
  let path := (parent.map Prod.snd).reverse ++ [l.key]
  if present : path ∈ s.doc.entries.map Prod.fst then none
  else
    some ⟨⟨s.doc.entries ++ [(path, l.value)], by
        rw [List.map_append, List.map_singleton, ← List.concat_eq_append]
        exact s.doc.pathsNodup.concat present⟩,
      (l.indent, l.key) :: parent, l.value = .nested⟩

/-- A line indented deeper than the last is the first key of its mapping, if the last line
opened one; any other line is a sibling of a line on the chain, at the same indentation. -/
def YamlState.push (s : YamlState) (l : YamlLine) : Option YamlState :=
  match s.chain with
  | [] => s.add [] l
  | (n, _) :: _ =>
    if n < l.indent then (if s.opened then s.add s.chain l else none)
    else
      match s.chain.dropWhile (·.1 > l.indent) with
      | (m, _) :: rest => if m = l.indent then s.add rest l else none
      | [] => none

def YamlState.empty : YamlState := ⟨⟨[], List.nodup_nil⟩, [], false⟩

/-- The scanner: the key lines of a text, or `none` when a line is outside the model. -/
def lexLines : List (List Char) → Option (List YamlLine)
  | [] => some []
  | line :: rest => (yamlLine line).bind fun lexed => (lexLines rest).map (lexed.toList ++ ·)

/-- The parser: the key lines, one after another. -/
def pushLines (s : YamlState) : List YamlLine → Option YamlState
  | [] => some s
  | l :: ls => (s.push l).bind (pushLines · ls)

/-- `yaml.Unmarshal` of a text the model reads. -/
def yamlRead (text : String) : Option YamlDoc :=
  ((lexLines (splitLines text.data)).bind (pushLines .empty)).map (·.doc)

/-- A comment line is skipped, whatever it says. -/
theorem yamlLine_comment (rest : List Char) (chars : ∀ c ∈ rest, isYamlChar c) :
    yamlLine ('#' :: rest) = some none := by
  have all : ('#' :: rest).all isYamlChar := by
    simp only [List.all_cons, Bool.and_eq_true, List.all_eq_true]; exact ⟨by decide, chars⟩
  simp [yamlLine, all]

/-- A double-quoted scalar with no quote and no backslash inside reads as its text. -/
theorem yamlValue_quoted {text : List Char} (plain : ∀ c ∈ text, c ≠ '"' ∧ c ≠ '\\') :
    yamlValue ('"' :: (text ++ ['"'])) = some (.text ⟨text⟩) := by
  have unquoted : ∀ c ∈ text, (!decide (c = '"')) = true := fun c m => by simpa using (plain c m).1
  have take : (text ++ ['"']).takeWhile (fun c => !decide (c = '"')) = text := by
    rw [List.takeWhile_append_of_pos unquoted]; simp
  have drop : (text ++ ['"']).dropWhile (fun c => !decide (c = '"')) = ['"'] := by
    rw [List.dropWhile_append_of_pos unquoted]; simp
  have noEscape : '\\' ∉ text := fun m => (plain _ m).2 rfl
  simp [yamlValue, take, drop, noEscape, endsLine]

/-- The key of a direct child of `path`. -/
def childKey (path q : List String) : Option String :=
  if path <+: q then match q.drop path.length with | [k] => some k | _ => none else none

theorem eq_of_childKey {path q : List String} {k : String} (child : childKey path q = some k) :
    q = path ++ [k] := by
  unfold childKey at child
  split_ifs at child with pre
  obtain ⟨t, rfl⟩ := pre
  rw [List.drop_left] at child
  split at child
  · cases child; rfl
  · cases child

/-- The entries of the mapping at `path`, under their keys. -/
def YamlDoc.children (d : YamlDoc) (path : List String) : List (String × YamlValue) :=
  d.entries.filterMap fun e => (childKey path e.1).map (·, e.2)

theorem YamlDoc.children_keys_nodup (d : YamlDoc) (path : List String) :
    ((d.children path).map Prod.fst).Nodup := by
  have keys : (d.children path).map Prod.fst = (d.entries.map Prod.fst).filterMap (childKey path) := by
    simp [YamlDoc.children, List.map_filterMap, List.filterMap_map, Option.map_map, Function.comp_def]
  rw [keys]
  exact d.pathsNodup.filterMap fun q q' k here there =>
    (eq_of_childKey here).trans (eq_of_childKey there).symm

/-- The path `viper` looks a key up by: its parts between dots, in lower case. -/
def viperPath (key : String) : List String := ((key.data.map Char.toLower).splitOn '.').map String.mk

def YamlDoc.find (d : YamlDoc) (key : String) : Option YamlValue := d.entries.lookup (viperPath key)

/-- `viper.IsSet`: the key has a value other than null; a key alone on its line with
nothing under it is null. -/
def YamlDoc.isSet (d : YamlDoc) (key : String) : Bool :=
  match d.find key with
  | some (.text _) => true
  | some .nested => !(d.children (viperPath key)).isEmpty
  | _ => false

/-- `viper.GetString`. -/
def YamlDoc.getString (d : YamlDoc) (key : String) : String :=
  ((d.find key).map YamlValue.toString).getD ""

/-- `viper.GetStringMapString`: the mapping's entries printed as strings; any other value
gives the empty map. -/
def YamlDoc.getStringMapString (d : YamlDoc) (key : String) : List (String × String) :=
  match d.find key with
  | some .nested => (d.children (viperPath key)).map fun e => (e.1, e.2.toString)
  | _ => []

theorem YamlDoc.getStringMapString_nodup (d : YamlDoc) (key : String) :
    ((d.getStringMapString key).map Prod.fst).Nodup := by
  unfold YamlDoc.getStringMapString
  split
  · simpa [List.map_map, Function.comp_def] using d.children_keys_nodup (viperPath key)
  · exact List.nodup_nil

end LibyaLink.Go
