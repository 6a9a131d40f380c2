import LibyaLink.Go.Fmt

/-! `net.SplitHostPort`, the host:port grammar a native Hysteria 2 client reads its
`server` field with. What it accepts is exactly `host:port` with a colon-free, bracket-free
host, or `[host]:port`; the port never holds a colon. -/

namespace LibyaLink.Go

/-- `net.AddrError`: the reason, and the address it concerns. -/
structure AddrError where
  err : String
  addr : String
deriving DecidableEq, Repr

/-- `bytealg.IndexByteString`: the first position of `c`. -/
def indexByte : List Char → Char → Option Nat
  | [], _ => none
  | x :: rest, c => if x = c then some 0 else (indexByte rest c).map (· + 1)

/-- `bytealg.LastIndexByteString`: the last position of `c`. -/
def lastIndexByte : List Char → Char → Option Nat
  | [], _ => none
  | x :: rest, c =>
    match lastIndexByte rest c with
    | some i => some (i + 1)
    | none => if x = c then some 0 else none

/-- Text holding none of the delimiters `net.SplitHostPort` reads: `:`, `[` and `]`. -/
def NoDelimiters (s : List Char) : Prop := ':' ∉ s ∧ '[' ∉ s ∧ ']' ∉ s

instance : DecidablePred NoDelimiters := fun s =>
  inferInstanceAs (Decidable (':' ∉ s ∧ '[' ∉ s ∧ ']' ∉ s))

def missingPort : String := "missing port in address"

def tooManyColons : String := "too many colons in address"

/-- The host part of `net.SplitHostPort` for an address whose last colon is at `i`: the
host, and the positions `j` and `k` past which no `[` and no `]` may stand. -/
def splitHost (hostport : String) (i : Nat) : Except AddrError (String × Nat × Nat) :=
  let s := hostport.data
  let addrErr := fun why => Except.error (AddrError.mk why hostport)
  if s.head? = some '[' then
    match indexByte s ']' with
    | none => addrErr "missing ']' in address"
    | some close =>
      if close + 1 = s.length then addrErr missingPort
      else if close + 1 = i then .ok (⟨(s.take close).drop 1⟩, 1, close + 1)
      else if s.get? (close + 1) = some ':' then addrErr tooManyColons
      else addrErr missingPort
  else if ':' ∈ s.take i then addrErr tooManyColons
  else .ok (⟨s.take i⟩, 0, 0)

/-- `net.SplitHostPort`, on the runes of the address. The bytes it looks for are ASCII, so
rune positions stand for the source's byte positions. -/
def splitHostPort (hostport : String) : Except AddrError (String × String) :=
  let s := hostport.data
  let addrErr := fun why => Except.error (AddrError.mk why hostport)
  match lastIndexByte s ':' with
  | none => addrErr missingPort
  | some i =>
    (splitHost hostport i).bind fun (host, j, k) =>
      if '[' ∈ s.drop j then addrErr "unexpected '[' in address"
      else if ']' ∈ s.drop k then addrErr "unexpected ']' in address"
      else .ok (host, ⟨s.drop (i + 1)⟩)

theorem lastIndexByte_eq_none {s : List Char} {c : Char} : lastIndexByte s c = none ↔ c ∉ s := by
  induction s with
  | nil => simp [lastIndexByte]
  | cons x rest ih =>
    simp only [lastIndexByte, List.mem_cons, not_or]
    split
    · rename_i i found
      simp only [reduceCtorEq, false_iff, not_and, not_not]
      exact fun _ => by_contra fun absent => by simp [ih.mpr absent] at found
    · rename_i missing
      have absent := ih.mp missing
      by_cases same : x = c <;> simp [same, absent, Ne.symm]

/-- The last occurrence splits the text around it. -/
theorem lastIndexByte_eq_some {s : List Char} {c : Char} {i : Nat} (found : lastIndexByte s c = some i) :
    s = s.take i ++ c :: s.drop (i + 1) ∧ c ∉ s.drop (i + 1) := by
  induction s generalizing i with
  | nil => simp [lastIndexByte] at found
  | cons x rest ih =>
    simp only [lastIndexByte] at found
    split at found
    · rename_i j later
      cases found
      obtain ⟨split, absent⟩ := ih later
      exact ⟨by simpa using split, by simpa using absent⟩
    · rename_i missing
      split_ifs at found with same
      cases found
      exact ⟨by simp [same], by simpa using lastIndexByte_eq_none.mp missing⟩

theorem lastIndexByte_append_cons (pre post : List Char) (c : Char) (absent : c ∉ post) :
    lastIndexByte (pre ++ c :: post) c = some pre.length := by
  induction pre with
  | nil => simp [lastIndexByte, lastIndexByte_eq_none.mpr absent]
  | cons x rest ih => simp [lastIndexByte, ih]

/-- The first occurrence splits the text around it. -/
theorem indexByte_eq_some {s : List Char} {c : Char} {k : Nat} (found : indexByte s c = some k) :
    s = s.take k ++ c :: s.drop (k + 1) ∧ c ∉ s.take k := by
  induction s generalizing k with
  | nil => simp [indexByte] at found
  | cons x rest ih =>
    simp only [indexByte] at found
    split_ifs at found with same
    · cases found; simp [same]
    · obtain ⟨j, later, rfl⟩ := Option.map_eq_some'.mp found
      obtain ⟨split, absent⟩ := ih later
      exact ⟨by simpa using split, by simpa [Ne.symm same] using absent⟩

private theorem take_length_of_split {s post : List Char} {c : Char} {i : Nat}
    (split : s = s.take i ++ c :: post) : (s.take i).length = i := by
  have sizes := congrArg List.length split
  simp only [List.length_append, List.length_cons, List.length_take] at sizes ⊢
  omega

theorem drop_of_split {s post : List Char} {c : Char} {i : Nat}
    (split : s = s.take i ++ c :: post) : s.drop i = c :: post := by
  rw [split, List.drop_left' (take_length_of_split split)]

/-- What the host part of `net.SplitHostPort` can return: a bracketed host ending right
before the last colon, or the colon-free text before it. -/
theorem splitHost_ok {hostport : String} {i : Nat} {host : String} {j k : Nat}
    (ok : splitHost hostport i = .ok (host, j, k)) :
    (hostport.data.head? = some '[' ∧ j = 1 ∧ ∃ close, indexByte hostport.data ']' = some close ∧
        close + 1 = i ∧ k = close + 1 ∧ host.data = (hostport.data.take close).drop 1) ∨
      (hostport.data.head? ≠ some '[' ∧ ':' ∉ hostport.data.take i ∧ host.data = hostport.data.take i ∧
        j = 0 ∧ k = 0) := by
  dsimp only [splitHost] at ok
  split_ifs at ok with bracket colon
  · split at ok
    · cases ok
    · rename_i close found
      split_ifs at ok with full before
      cases ok
      exact .inl ⟨bracket, rfl, close, found, before, rfl, rfl⟩
  · cases ok
    exact .inr ⟨bracket, colon, rfl, rfl, rfl⟩

/-- What `net.SplitHostPort` has checked once it accepts: the last colon, the host part, no
stray bracket past the host part's positions, and the port after the colon. -/
theorem splitHostPort_inv {hostport host port : String}
    (ok : splitHostPort hostport = .ok (host, port)) :
    ∃ i j k, lastIndexByte hostport.data ':' = some i ∧ splitHost hostport i = .ok (host, j, k) ∧
      '[' ∉ hostport.data.drop j ∧ ']' ∉ hostport.data.drop k ∧ port = ⟨hostport.data.drop (i + 1)⟩ := by
  dsimp only [splitHostPort] at ok
  split at ok
  · cases ok
  rename_i i last
  cases hosted : splitHost hostport i with
  | error => simp [hosted] at ok; cases ok
  | ok result =>
    obtain ⟨h, j, k⟩ := result
    simp only [hosted, Except.bind] at ok
    split_ifs at ok with opening closing
    cases ok
    exact ⟨i, j, k, last, hosted, opening, closing, rfl⟩

/-- Everything `net.SplitHostPort` accepts is `host:port` with a colon-free host, or
`[host]:port`; neither host holds a bracket and the port holds no colon. -/
theorem splitHostPort_ok {hostport host port : String}
    (ok : splitHostPort hostport = .ok (host, port)) :
    '[' ∉ host.data ∧ ']' ∉ host.data ∧ ':' ∉ port.data ∧
      ((hostport.data = host.data ++ ':' :: port.data ∧ ':' ∉ host.data) ∨
        hostport.data = '[' :: host.data ++ ']' :: ':' :: port.data) := by
  obtain ⟨i, j, k, last, hosted, opening, closing, rfl⟩ := splitHostPort_inv ok
  obtain ⟨split, tail⟩ := lastIndexByte_eq_some last
  refine ⟨?_, ?_, tail, ?_⟩ <;>
    rcases splitHost_ok hosted with
      ⟨bracket, rfl, close, found, rfl, rfl, host⟩ | ⟨bracket, colon, host, rfl, rfl⟩ <;>
    simp only [host, List.drop_zero] at opening closing ⊢
  · rw [List.drop_take]
    exact fun member => opening (List.mem_of_mem_take member)
  · exact fun member => opening (List.mem_of_mem_take member)
  · exact fun member => (indexByte_eq_some found).2 (List.mem_of_mem_drop member)
  · exact fun member => closing (List.mem_of_mem_take member)
  · obtain ⟨around, -⟩ := indexByte_eq_some found
    have opened : hostport.data.take close = '[' :: (hostport.data.take close).drop 1 := by
      have first := bracket
      rw [around] at first
      cases taken : hostport.data.take close with
      | nil => simp [taken] at first
      | cons x rest =>
        rw [taken] at first
        simp only [List.cons_append, List.head?_cons, Option.some.injEq] at first
        simp [first]
    refine .inr ?_
    rw [← drop_of_split split, ← opened]
    exact around
  · exact .inl ⟨split, colon⟩

theorem splitHostPort_ok_bracketed :
    splitHostPort "[::1]:443" = .ok ("::1", "443") ∧
      ('[' ∉ "::1".data ∧ ']' ∉ "::1".data ∧ ':' ∉ "443".data ∧
        (("[::1]:443".data = "::1".data ++ ':' :: "443".data ∧ ':' ∉ "::1".data) ∨
          "[::1]:443".data = '[' :: "::1".data ++ ']' :: ':' :: "443".data)) :=
  ⟨rfl, splitHostPort_ok rfl⟩

/-- A delimiter-free host joined to a delimiter-free port by one colon splits back into them. -/
theorem splitHostPort_join (host port : List Char) (plain : NoDelimiters host)
    (numeric : NoDelimiters port) :
    splitHostPort ⟨host ++ ':' :: port⟩ = .ok (⟨host⟩, ⟨port⟩) := by
  have last := lastIndexByte_append_cons host port ':' numeric.1
  have unbracketed : host.head? ≠ some '[' := fun first => plain.2.1 (List.mem_of_mem_head? first)
  have hosted : splitHost ⟨host ++ ':' :: port⟩ host.length = .ok (⟨host⟩, 0, 0) := by
    simp [splitHost, unbracketed, plain.1]
  simp [splitHostPort, last, hosted, Except.bind, plain.2.1, plain.2.2, numeric.2.1, numeric.2.2]

/-- A host that splits back out of `host:port` holds no delimiter: read as `[host]:port`
the same text would be two runes longer. -/
theorem noDelimiters_of_splitHostPort {host port : List Char}
    (ok : splitHostPort ⟨host ++ ':' :: port⟩ = .ok (⟨host⟩, ⟨port⟩)) : NoDelimiters host := by
  obtain ⟨i, j, k, last, hosted, opening, closing, tail⟩ := splitHostPort_inv ok
  have within := congrArg List.length (lastIndexByte_eq_some last).1
  simp only [List.length_append, List.length_cons, List.length_take, List.length_drop] at within
  have sizes : port.length = (host ++ ':' :: port).length - (i + 1) :=
    (congrArg (·.data.length) tail).trans (List.length_drop _ _)
  simp only [List.length_append, List.length_cons] at sizes
  obtain rfl : i = host.length := by omega
  rcases splitHost_ok hosted with ⟨-, -, close, -, before, -, named⟩ | ⟨-, colon, -, rfl, rfl⟩
  · have shorter := congrArg List.length named
    simp only [List.length_drop, List.length_take, List.length_append, List.length_cons] at shorter
    omega
  · simp only [List.drop_zero, List.mem_append, not_or, List.take_left] at opening closing colon
    exact ⟨colon, opening.1, closing.1⟩

/-- The address a host and a delimiter-free port are joined into splits back into the same
pair exactly when the host holds no delimiter: an IPv6 literal never does. -/
theorem splitHostPort_join_iff (host port : List Char) (numeric : NoDelimiters port) :
    splitHostPort ⟨host ++ ':' :: port⟩ = .ok (⟨host⟩, ⟨port⟩) ↔ NoDelimiters host :=
  ⟨noDelimiters_of_splitHostPort, fun plain => splitHostPort_join host port plain numeric⟩

theorem splitHostPort_join_ipv6 :
    NoDelimiters "443".data ∧
      (splitHostPort ⟨"::1".data ++ ':' :: "443".data⟩ = .ok (⟨"::1".data⟩, ⟨"443".data⟩) ↔
        NoDelimiters "::1".data) :=
  ⟨by decide, splitHostPort_join_iff "::1".data "443".data (by decide)⟩

end LibyaLink.Go
