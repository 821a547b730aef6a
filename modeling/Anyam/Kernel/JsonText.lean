import Mathlib.Data.List.TakeWhile

/-!
# JSON texts by code unit

A string of the host language is a list of UTF-16 code units, and a surrogate in it may be alone.
Where that matters, or the order of code units, values and texts are taken as they are here:
`JSON.stringify` and `JSON.parse` on such strings. A text is read in two steps, as tokens and as a
value of tokens. A number is kept as its literal, and an object keeps every member it is written
with.

`undefined` is no JSON. `JSON.stringify` has no text for it and `JSON.parse` refuses the word, but
encoders of the host language that are made on top of `JSON.stringify` write it.

- `stringText_of_readString`, `readString_of_stringText`: the texts of a string.
- `tokens_text`: the tokens of a value are read back from what it is printed as.
- **`parse_eq_some`**: the values that are read are the ones with the tokens of the text.
-/

namespace Anyam.Kernel.JsonText

/-- A string of the host language. -/
abbrev HostString := List Nat

def units (chars : List Char) : HostString := chars.map Char.toNat

/-! ## Strings -/

def hexUnit (n : Nat) : Nat := if n < 10 then '0'.toNat + n else 'a'.toNat + (n - 10)

def hexValue (u : Nat) : Option Nat :=
  if '0'.toNat ≤ u ∧ u ≤ '9'.toNat then some (u - '0'.toNat)
  else if 'a'.toNat ≤ u ∧ u ≤ 'f'.toNat then some (u - 'a'.toNat + 10)
  else if 'A'.toNat ≤ u ∧ u ≤ 'F'.toNat then some (u - 'A'.toNat + 10)
  else none

/-- `\uXXXX`. -/
def unicodeEscape (u : Nat) : HostString :=
  ['\\'.toNat, 'u'.toNat, hexUnit (u / 4096 % 16), hexUnit (u / 256 % 16), hexUnit (u / 16 % 16),
    hexUnit (u % 16)]

def readHex (a b c d : Nat) : Option Nat := do
  let a ← hexValue a
  let b ← hexValue b
  let c ← hexValue c
  let d ← hexValue d
  some (a * 4096 + b * 256 + c * 16 + d)

def isLead (u : Nat) : Bool := 0xD800 ≤ u && u ≤ 0xDBFF

def isTrail (u : Nat) : Bool := 0xDC00 ≤ u && u ≤ 0xDFFF

/-- A code unit of a JSON string that is not half of a surrogate pair. -/
def escapeUnit (u : Nat) : HostString :=
  if u = '"'.toNat then ['\\'.toNat, '"'.toNat]
  else if u = '\\'.toNat then ['\\'.toNat, '\\'.toNat]
  else if u = 8 then ['\\'.toNat, 'b'.toNat]
  else if u = 9 then ['\\'.toNat, 't'.toNat]
  else if u = 10 then ['\\'.toNat, 'n'.toNat]
  else if u = 12 then ['\\'.toNat, 'f'.toNat]
  else if u = 13 then ['\\'.toNat, 'r'.toNat]
  else if u < 32 ∨ isLead u ∨ isTrail u then unicodeEscape u
  else [u]

def escaped : HostString → HostString
  | u :: v :: rest =>
    if isLead u ∧ isTrail v then u :: v :: escaped rest else escapeUnit u ++ escaped (v :: rest)
  | [u] => escapeUnit u
  | [] => []

/-- `JSON.stringify` of a string. -/
def quoted (s : HostString) : HostString := '"'.toNat :: (escaped s ++ ['"'.toNat])

/-- What a backslash and a unit other than `u` stand for. -/
def simpleEscape (u : Nat) : Option Nat :=
  if u = '"'.toNat ∨ u = '\\'.toNat ∨ u = '/'.toNat then some u
  else if u = 'b'.toNat then some 8
  else if u = 'f'.toNat then some 12
  else if u = 'n'.toNat then some 10
  else if u = 'r'.toNat then some 13
  else if u = 't'.toNat then some 9
  else none

def prepend (u : Nat) (read : HostString × HostString) : HostString × HostString :=
  (u :: read.1, read.2)

/-- A JSON string after its opening quote: its value, and what follows the closing one. -/
def readString : HostString → Option (HostString × HostString)
  | [] => none
  | u :: rest =>
    if u = '"'.toNat then some ([], rest)
    else if u = '\\'.toNat then
      match rest with
      | [] => none
      | e :: rest =>
        if e = 'u'.toNat then
          match rest with
          | a :: b :: c :: d :: rest =>
            (readHex a b c d).bind fun u => (readString rest).map (prepend u)
          | _ => none
        else (simpleEscape e).bind fun u => (readString rest).map (prepend u)
    else if u < 32 then none
    else (readString rest).map (prepend u)

theorem hexValue_hexUnit {n : Nat} (h : n < 16) : hexValue (hexUnit n) = some n := by
  simp only [hexUnit, hexValue, Char.reduceToNat]
  grind

theorem readHex_hexUnit {u : Nat} (h : u < 65536) :
    readHex (hexUnit (u / 4096 % 16)) (hexUnit (u / 256 % 16)) (hexUnit (u / 16 % 16))
      (hexUnit (u % 16)) = some u := by
  simp only [readHex, hexValue_hexUnit (Nat.mod_lt _ (by decide : 0 < 16)), Option.bind_eq_bind,
    Option.bind_some, Option.some.injEq]
  omega

/-- The texts of one unit of a string. -/
inductive Spells : HostString → Nat → Prop
  | plain (u : Nat) (hquote : u ≠ '"'.toNat) (hslash : u ≠ '\\'.toNat) (hcontrol : ¬ u < 32) :
      Spells [u] u
  | simple (e u : Nat) (he : e ≠ 'u'.toNat) (hu : simpleEscape e = some u) :
      Spells ['\\'.toNat, e] u
  | hex (a b c d u : Nat) (hu : readHex a b c d = some u) :
      Spells ['\\'.toNat, 'u'.toNat, a, b, c, d] u

/-- The texts of a string, from the one after the opening quote to the closing one. -/
inductive StringText : HostString → HostString → Prop
  | close : StringText ['"'.toNat] []
  | cons {piece raw value : HostString} {u : Nat} (hpiece : Spells piece u)
      (hraw : StringText raw value) : StringText (piece ++ raw) (u :: value)

theorem readString_spells {piece : HostString} {u : Nat} (h : Spells piece u) (more : HostString) :
    readString (piece ++ more) = (readString more).map (prepend u) := by
  rw [readString.eq_def]
  cases h with
  | plain _ hquote hslash hcontrol =>
    simp only [List.cons_append, List.nil_append, if_neg hquote, if_neg hslash, if_neg hcontrol]
  | simple e _ he hu =>
    simp only [List.cons_append, List.nil_append, if_neg he, hu]
    rfl
  | hex a b c d _ hu =>
    simp only [List.cons_append, List.nil_append, hu]
    rfl

theorem readString_of_stringText {raw value : HostString} (h : StringText raw value)
    (more : HostString) : readString (raw ++ more) = some (value, more) := by
  induction h with
  | close =>
    rw [readString.eq_def]
    rfl
  | cons hpiece hraw ih =>
    rw [List.append_assoc, readString_spells hpiece, ih]
    rfl

/-- What `readString` reads is the text of a string. -/
theorem stringText_of_readString {s value rest : HostString}
    (h : readString s = some (value, rest)) : ∃ raw, s = raw ++ rest ∧ StringText raw value := by
  have hcons : ∀ {piece more value : HostString} {u : Nat}, Spells piece u →
      (∀ {value}, readString more = some (value, rest) →
        ∃ raw, more = raw ++ rest ∧ StringText raw value) →
      (readString more).map (prepend u) = some (value, rest) →
      ∃ raw, piece ++ more = raw ++ rest ∧ StringText raw value := by
    intro piece more value u hpiece ih hread
    obtain ⟨⟨tail, _⟩, hmore, heq⟩ := Option.map_eq_some_iff.mp hread
    cases heq
    obtain ⟨raw, rfl, hraw⟩ := ih hmore
    exact ⟨piece ++ raw, (List.append_assoc ..).symm, .cons hpiece hraw⟩
  fun_induction readString s generalizing value with
  | case1 => cases h
  | case2 =>
    cases h
    exact ⟨_, rfl, .close⟩
  | case3 => cases h
  | case4 a b c d more hslash ih =>
    obtain ⟨u, hu, hread⟩ := Option.bind_eq_some_iff.mp h
    exact hcons (.hex a b c d u hu) ih hread
  | case5 => cases h
  | case6 e more he hslash ih =>
    obtain ⟨u, hu, hread⟩ := Option.bind_eq_some_iff.mp h
    exact hcons (.simple e u he hu) ih hread
  | case7 => cases h
  | case8 u more hquote hslash hcontrol ih => exact hcons (.plain u hquote hslash hcontrol) ih h

theorem spells_escapeUnit (u : Nat) : Spells (escapeUnit u) u := by
  unfold escapeUnit
  split_ifs with hquote hslash hb ht hn hf hr hlow
  · exact .simple _ u (by decide) (by rw [hquote]; rfl)
  · exact .simple _ u (by decide) (by rw [hslash]; rfl)
  · exact .simple _ u (by decide) (hb ▸ rfl)
  · exact .simple _ u (by decide) (ht ▸ rfl)
  · exact .simple _ u (by decide) (hn ▸ rfl)
  · exact .simple _ u (by decide) (hf ▸ rfl)
  · exact .simple _ u (by decide) (hr ▸ rfl)
  · refine .hex _ _ _ _ u (readHex_hexUnit ?_)
    simp only [isLead, isTrail, Bool.and_eq_true, decide_eq_true_eq] at hlow
    omega
  · exact .plain u hquote hslash fun h => hlow (.inl h)

theorem stringText_escaped (s : HostString) : StringText (escaped s ++ ['"'.toNat]) s := by
  fun_induction escaped s with
  | case1 u v rest hpair ih =>
    -- the halves of a pair are printed as they are
    simp only [isLead, isTrail, Bool.and_eq_true, decide_eq_true_eq] at hpair
    have hu : Spells [u] u := .plain u (by simp; omega) (by simp; omega) (by omega)
    have hv : Spells [v] v := .plain v (by simp; omega) (by simp; omega) (by omega)
    show StringText ([u] ++ ([v] ++ (escaped rest ++ ['"'.toNat]))) (u :: v :: rest)
    exact .cons hu (.cons hv ih)
  | case2 u v rest hpair ih =>
    rw [List.append_assoc]
    exact .cons (spells_escapeUnit u) ih
  | case3 u => exact .cons (spells_escapeUnit u) .close
  | case4 => exact .close

/-- A string is read back from what it is printed as. -/
theorem readString_escaped (s more : HostString) :
    readString (escaped s ++ '"'.toNat :: more) = some (s, more) := by
  rw [List.append_cons]
  exact readString_of_stringText (stringText_escaped s) more

/-! ## Tokens -/

/-- How far a number has been read. -/
inductive NumberState
  | start | minus | zero | integer | point | fraction | exponent | sign | power
deriving DecidableEq, Repr

def isDigit (u : Nat) : Bool := '0'.toNat ≤ u && u ≤ '9'.toNat

def NumberState.next (state : NumberState) (u : Nat) : Option NumberState :=
  match state with
  | .start =>
    if u = '-'.toNat then some .minus
    else if u = '0'.toNat then some .zero
    else if isDigit u then some .integer else none
  | .minus => if u = '0'.toNat then some .zero else if isDigit u then some .integer else none
  | .zero =>
    if u = '.'.toNat then some .point
    else if u = 'e'.toNat ∨ u = 'E'.toNat then some .exponent else none
  | .integer =>
    if isDigit u then some .integer
    else if u = '.'.toNat then some .point
    else if u = 'e'.toNat ∨ u = 'E'.toNat then some .exponent else none
  | .point => if isDigit u then some .fraction else none
  | .fraction =>
    if isDigit u then some .fraction
    else if u = 'e'.toNat ∨ u = 'E'.toNat then some .exponent else none
  | .exponent =>
    if u = '+'.toNat ∨ u = '-'.toNat then some .sign else if isDigit u then some .power else none
  | .sign | .power => if isDigit u then some .power else none

def NumberState.complete : NumberState → Bool
  | .zero | .integer | .fraction | .power => true
  | _ => false

/-- The text is a JSON number. -/
def isNumber (literal : HostString) : Bool :=
  (literal.foldlM NumberState.next .start).any NumberState.complete

/-- A finite number, as it is printed. -/
structure Number where
  literal : HostString
  valid : isNumber literal
deriving DecidableEq, Repr

inductive Scalar
  | undefined
  | null
  | bool (value : Bool)
  | number (value : Number)
  | string (value : HostString)
deriving DecidableEq, Repr

inductive Mark
  | openObject | closeObject | openArray | closeArray | colon | comma
deriving DecidableEq, Repr

inductive Token
  | mark (mark : Mark)
  | scalar (scalar : Scalar)
deriving DecidableEq, Repr

def Mark.unit : Mark → Nat
  | .openObject => '{'.toNat
  | .closeObject => '}'.toNat
  | .openArray => '['.toNat
  | .closeArray => ']'.toNat
  | .colon => ':'.toNat
  | .comma => ','.toNat

def Mark.ofUnit (u : Nat) : Option Mark :=
  [openObject, closeObject, openArray, closeArray, colon, comma].find? fun mark => mark.unit = u

/-- `JSON.stringify` of a scalar. -/
def Scalar.text : Scalar → HostString
  | .undefined => units ['u', 'n', 'd', 'e', 'f', 'i', 'n', 'e', 'd']
  | .null => units ['n', 'u', 'l', 'l']
  | .bool true => units ['t', 'r', 'u', 'e']
  | .bool false => units ['f', 'a', 'l', 's', 'e']
  | .number value => value.literal
  | .string value => quoted value

/-- A unit of a word or a number. -/
def isBare (u : Nat) : Bool :=
  isDigit u || ('a'.toNat ≤ u && u ≤ 'z'.toNat) || u = 'E'.toNat || u = '+'.toNat ||
    u = '-'.toNat || u = '.'.toNat

/-- The word or the number that a run of such units is. -/
def Scalar.ofBare (run : HostString) : Option Scalar :=
  match [undefined, null, bool true, bool false].find? fun word => word.text = run with
  | some word => some word
  | none => if valid : isNumber run then some (.number ⟨run, valid⟩) else none

def isBlank (u : Nat) : Bool := u = 32 || u = 9 || u = 10 || u = 13

/-- The token at the start of a text, and what follows it. -/
def readToken : HostString → Option (Token × HostString)
  | [] => none
  | u :: rest =>
    match Mark.ofUnit u with
    | some mark => some (.mark mark, rest)
    | none =>
      if u = '"'.toNat then
        (readString rest).map fun read => (.scalar (.string read.1), read.2)
      else
        (Scalar.ofBare ((u :: rest).takeWhile isBare)).map fun scalar =>
          (.scalar scalar, (u :: rest).dropWhile isBare)

theorem readToken_mark {u : Nat} {mark : Mark} (h : Mark.ofUnit u = some mark)
    (rest : HostString) : readToken (u :: rest) = some (.mark mark, rest) := by
  simp only [readToken, h]

theorem readToken_quote (rest : HostString) :
    readToken ('"'.toNat :: rest) =
      (readString rest).map fun read => (.scalar (.string read.1), read.2) := rfl

theorem readToken_bare {u : Nat} (hmark : Mark.ofUnit u = none) (hquote : u ≠ '"'.toNat)
    (rest : HostString) :
    readToken (u :: rest) = (Scalar.ofBare ((u :: rest).takeWhile isBare)).map fun scalar =>
      (.scalar scalar, (u :: rest).dropWhile isBare) := by
  simp only [readToken, hmark, if_neg hquote]

/-- The ways a token is read. -/
theorem readToken_eq_some {s rest : HostString} {token : Token}
    (h : readToken s = some (token, rest)) :
    (∃ mark : Mark, token = .mark mark ∧ s = mark.unit :: rest) ∨
    (∃ raw value, token = .scalar (.string value) ∧ s = '"'.toNat :: (raw ++ rest) ∧
      StringText raw value) ∨
    (∃ run scalar, token = .scalar scalar ∧ s = run ++ rest ∧ run ≠ [] ∧ (∀ u ∈ run, isBare u) ∧
      Scalar.ofBare run = some scalar) := by
  cases s with
  | nil => cases h
  | cons u more =>
    cases hmark : Mark.ofUnit u with
    | some mark =>
      rw [readToken_mark hmark] at h
      cases h
      have hunit := List.find?_some hmark
      exact .inl ⟨mark, rfl, by rw [decide_eq_true_eq.mp hunit]⟩
    | none =>
      by_cases hquote : u = '"'.toNat
      · rw [hquote, readToken_quote] at h
        obtain ⟨⟨value, _⟩, hread, heq⟩ := Option.map_eq_some_iff.mp h
        cases heq
        obtain ⟨raw, rfl, hraw⟩ := stringText_of_readString hread
        exact .inr (.inl ⟨raw, value, rfl, by rw [hquote], hraw⟩)
      · rw [readToken_bare hmark hquote] at h
        obtain ⟨scalar, hscalar, heq⟩ := Option.map_eq_some_iff.mp h
        cases heq
        refine .inr (.inr ⟨_, scalar, rfl, List.takeWhile_append_dropWhile.symm, ?_,
          fun u hu => List.mem_takeWhile_imp hu, hscalar⟩)
        -- no word and no number is empty
        intro hnil
        rw [hnil] at hscalar
        exact nomatch (show none = some scalar from hscalar)

theorem readToken_length {s rest : HostString} {token : Token}
    (h : readToken s = some (token, rest)) : rest.length < s.length := by
  rcases readToken_eq_some h with ⟨mark, -, rfl⟩ | ⟨raw, value, -, rfl, -⟩ | ⟨run, _, -, rfl, hrun, -⟩
  · exact Nat.lt_succ_self _
  · simp only [List.length_cons, List.length_append]
    omega
  · have := List.length_pos_iff.mpr hrun
    rw [List.length_append]
    omega

/-- The tokens of a text, with blanks between them. -/
def tokens : HostString → Option (List Token)
  | [] => some []
  | u :: rest =>
    if isBlank u then tokens rest
    else match _hread : readToken (u :: rest) with
      | none => none
      | some (token, left) => (tokens left).map (token :: ·)
termination_by s => s.length
decreasing_by
  · exact Nat.lt_succ_self _
  · exact readToken_length _hread

theorem tokens_cons {u : Nat} {rest left : HostString} {token : Token} (hblank : isBlank u = false)
    (h : readToken (u :: rest) = some (token, left)) :
    tokens (u :: rest) = (tokens left).map (token :: ·) := by
  rw [tokens, if_neg (by simp [hblank])]
  split
  · next hnone => exact nomatch h.symm.trans hnone
  · next token' left' hsome =>
    cases h.symm.trans hsome
    rfl

/-! ## Values -/

inductive Value
  | scalar (scalar : Scalar)
  | array (elements : List Value)
  | object (members : List (HostString × Value))

mutual

/-- The tokens of a value. The ones of its elements are taken with a comma before each. -/
def Value.tokens : Value → List Token
  | .scalar scalar => [.scalar scalar]
  | .array elements =>
    .mark .openArray :: ((elementTokens elements).drop 1 ++ [.mark .closeArray])
  | .object members =>
    .mark .openObject :: ((memberTokens members).drop 1 ++ [.mark .closeObject])

def elementTokens : List Value → List Token
  | [] => []
  | element :: elements => .mark .comma :: (element.tokens ++ elementTokens elements)

def memberTokens : List (HostString × Value) → List Token
  | [] => []
  | (key, value) :: members =>
    .mark .comma :: .scalar (.string key) :: .mark .colon :: (value.tokens ++ memberTokens members)

end

mutual

/-- No object in the value, at any depth, has two members of one key. -/
def Value.distinctKeys : Value → Bool
  | .scalar _ => true
  | .array elements => distinctElements elements
  | .object members => decide (members.map Prod.fst).Nodup && distinctMembers members

def distinctElements : List Value → Bool
  | [] => true
  | element :: elements => element.distinctKeys && distinctElements elements

def distinctMembers : List (HostString × Value) → Bool
  | [] => true
  | (_, value) :: members => value.distinctKeys && distinctMembers members

end

mutual

/-- The value at the start of a list of tokens, and what follows it. -/
def readValue : Nat → List Token → Option (Value × List Token)
  | 0, _ => none
  | fuel + 1, tokens =>
    match tokens with
    | .scalar scalar :: rest => some (.scalar scalar, rest)
    | .mark .openArray :: .mark .closeArray :: rest => some (.array [], rest)
    | .mark .openArray :: rest =>
      (readElements fuel (.mark .comma :: rest)).map fun read => (.array read.1, read.2)
    | .mark .openObject :: .mark .closeObject :: rest => some (.object [], rest)
    | .mark .openObject :: rest =>
      (readMembers fuel (.mark .comma :: rest)).map fun read => (.object read.1, read.2)
    | _ => none

/-- Elements with a comma before each, up to the bracket. -/
def readElements : Nat → List Token → Option (List Value × List Token)
  | 0, _ => none
  | fuel + 1, tokens =>
    match tokens with
    | .mark .closeArray :: rest => some ([], rest)
    | .mark .comma :: rest =>
      (readValue fuel rest).bind fun element =>
        (readElements fuel element.2).map fun read => (element.1 :: read.1, read.2)
    | _ => none

def readMembers : Nat → List Token → Option (List (HostString × Value) × List Token)
  | 0, _ => none
  | fuel + 1, tokens =>
    match tokens with
    | .mark .closeObject :: rest => some ([], rest)
    | .mark .comma :: .scalar (.string key) :: .mark .colon :: rest =>
      (readValue fuel rest).bind fun value =>
        (readMembers fuel value.2).map fun read => ((key, value.1) :: read.1, read.2)
    | _ => none

end

/-- The value with these tokens. No value takes more calls than twice its tokens. -/
def parseTokens (tokens : List Token) : Option Value :=
  match readValue (2 * tokens.length) tokens with
  | some (value, []) => some value
  | _ => none

/-- `JSON.parse` before the members of one key are made one. -/
def parseText (text : HostString) : Option Value :=
  (tokens text).bind fun tokens =>
    if .scalar .undefined ∈ tokens then none else parseTokens tokens

/-- What is read is the value of the tokens. -/
theorem read_sound (fuel : Nat) :
    (∀ {tokens value rest}, readValue fuel tokens = some (value, rest) →
      tokens = value.tokens ++ rest) ∧
    (∀ {tokens elements rest}, readElements fuel tokens = some (elements, rest) →
      tokens = elementTokens elements ++ .mark .closeArray :: rest) ∧
    (∀ {tokens members rest}, readMembers fuel tokens = some (members, rest) →
      tokens = memberTokens members ++ .mark .closeObject :: rest) := by
  induction fuel with
  | zero => exact ⟨nofun, nofun, nofun⟩
  | succ fuel ih =>
    obtain ⟨ihValue, ihElements, ihMembers⟩ := ih
    refine ⟨?_, ?_, ?_⟩
    · intro tokens value rest h
      rw [readValue.eq_def] at h
      dsimp only at h
      split at h
      · cases h
        rfl
      · cases h
        rfl
      · obtain ⟨⟨elements, _⟩, hread, heq⟩ := Option.map_eq_some_iff.mp h
        cases heq
        have htokens := ihElements hread
        cases elements with
        | nil => cases htokens
        | cons element elements =>
          simpa [Value.tokens, elementTokens] using htokens
      · cases h
        rfl
      · obtain ⟨⟨members, _⟩, hread, heq⟩ := Option.map_eq_some_iff.mp h
        cases heq
        have htokens := ihMembers hread
        cases members with
        | nil => cases htokens
        | cons member members =>
          simpa [Value.tokens, memberTokens] using htokens
      · cases h
    · intro tokens elements rest h
      rw [readElements.eq_def] at h
      dsimp only at h
      split at h
      · cases h
        rfl
      · obtain ⟨⟨element, left⟩, helement, hrest⟩ := Option.bind_eq_some_iff.mp h
        obtain ⟨⟨elements, _⟩, hread, heq⟩ := Option.map_eq_some_iff.mp hrest
        cases heq
        have hleft : left = _ := ihElements hread
        rw [ihValue helement, hleft]
        simp [elementTokens]
      · cases h
    · intro tokens members rest h
      rw [readMembers.eq_def] at h
      dsimp only at h
      split at h
      · cases h
        rfl
      · obtain ⟨⟨value, left⟩, hvalue, hrest⟩ := Option.bind_eq_some_iff.mp h
        obtain ⟨⟨members, _⟩, hread, heq⟩ := Option.map_eq_some_iff.mp hrest
        cases heq
        have hleft : left = _ := ihMembers hread
        rw [ihValue hvalue, hleft]
        simp [memberTokens]
      · cases h

theorem readValue_openArray (fuel : Nat) {token : Token} (h : token ≠ .mark .closeArray)
    (rest : List Token) :
    readValue (fuel + 1) (.mark .openArray :: token :: rest) =
      (readElements fuel (.mark .comma :: token :: rest)).map fun read =>
        (.array read.1, read.2) := by
  cases token with
  | scalar scalar => rfl
  | mark mark => cases mark <;> first | rfl | exact absurd rfl h

theorem Value.tokens_eq_cons (value : Value) :
    ∃ token more, value.tokens = token :: more ∧ token ≠ .mark .closeArray := by
  cases value with
  | scalar scalar => exact ⟨_, _, rfl, nofun⟩
  | array elements => exact ⟨_, _, rfl, nofun⟩
  | object members => exact ⟨_, _, rfl, nofun⟩

mutual

/-- A value is read from its tokens, whatever follows. -/
theorem readValue_tokens : ∀ (value : Value) (rest : List Token) (fuel : Nat),
    2 * value.tokens.length ≤ fuel → readValue fuel (value.tokens ++ rest) = some (value, rest)
  | value, _, 0, h => by
    cases value <;> simp [Value.tokens] at h
  | .scalar _, _, _ + 1, _ => rfl
  | .array [], _, _ + 1, _ => rfl
  | .array (element :: elements), rest, fuel + 1, h => by
    have hread := readElements_tokens (element :: elements) rest fuel (by
      simp only [Value.tokens, elementTokens, List.drop_succ_cons, List.drop_zero,
        List.length_cons, List.length_append, List.length_nil] at h ⊢
      omega)
    obtain ⟨token, more, hfirst, hopen⟩ := element.tokens_eq_cons
    simp only [elementTokens, hfirst, List.cons_append, List.append_assoc] at hread
    simp only [Value.tokens, elementTokens, List.drop_succ_cons, List.drop_zero, hfirst,
      List.cons_append, List.append_assoc, List.nil_append]
    rw [readValue_openArray fuel hopen, hread]
    rfl
  | .object [], _, _ + 1, _ => rfl
  | .object ((key, value) :: members), rest, fuel + 1, h => by
    have hread := readMembers_tokens ((key, value) :: members) rest fuel (by
      simp only [Value.tokens, memberTokens, List.drop_succ_cons, List.drop_zero,
        List.length_cons, List.length_append, List.length_nil] at h ⊢
      omega)
    simp only [memberTokens, List.cons_append, List.append_assoc] at hread
    simp only [Value.tokens, memberTokens, List.drop_succ_cons, List.drop_zero,
      List.cons_append, List.append_assoc, List.nil_append]
    rw [readValue, hread]
    · rfl
    · nofun

theorem readElements_tokens : ∀ (elements : List Value) (rest : List Token) (fuel : Nat),
    2 * (elementTokens elements).length + 1 ≤ fuel →
    readElements fuel (elementTokens elements ++ .mark .closeArray :: rest) = some (elements, rest)
  | [], _, _ + 1, _ => rfl
  | element :: elements, rest, fuel + 1, h => by
    simp only [elementTokens, List.length_cons, List.length_append] at h
    have helement := readValue_tokens element
      (elementTokens elements ++ .mark .closeArray :: rest) fuel (by omega)
    have helements := readElements_tokens elements rest fuel (by omega)
    rw [elementTokens, List.cons_append, List.append_assoc, readElements, helement, Option.bind_some,
      helements]
    rfl

theorem readMembers_tokens : ∀ (members : List (HostString × Value)) (rest : List Token)
    (fuel : Nat), 2 * (memberTokens members).length + 1 ≤ fuel →
    readMembers fuel (memberTokens members ++ .mark .closeObject :: rest) = some (members, rest)
  | [], _, _ + 1, _ => rfl
  | (key, value) :: members, rest, fuel + 1, h => by
    simp only [memberTokens, List.length_cons, List.length_append] at h
    have hvalue := readValue_tokens value
      (memberTokens members ++ .mark .closeObject :: rest) fuel (by omega)
    have hmembers := readMembers_tokens members rest fuel (by omega)
    rw [memberTokens, List.cons_append, List.cons_append, List.cons_append, List.append_assoc,
      readMembers, hvalue, Option.bind_some, hmembers]
    rfl

end

theorem parseTokens_eq_some {tokens : List Token} {value : Value} :
    parseTokens tokens = some value ↔ tokens = value.tokens := by
  constructor
  · intro h
    rw [parseTokens] at h
    split at h
    · next read hread =>
      cases h
      rw [(read_sound _).1 hread, List.append_nil]
    · cases h
  · rintro rfl
    have hread := readValue_tokens value [] (2 * value.tokens.length) (Nat.le_refl _)
    rw [List.append_nil] at hread
    rw [parseTokens, hread]

/-- **The values that are read** are the ones with the tokens of the text. -/
theorem parseText_eq_some {text : HostString} {value : Value} :
    parseText text = some value ↔
      tokens text = some value.tokens ∧ .scalar .undefined ∉ value.tokens := by
  rw [parseText, Option.bind_eq_some_iff]
  constructor
  · rintro ⟨read, htokens, h⟩
    split at h
    · cases h
    · next hdefined =>
      cases parseTokens_eq_some.mp h
      exact ⟨htokens, hdefined⟩
  · rintro ⟨htokens, hdefined⟩
    refine ⟨_, htokens, ?_⟩
    rw [if_neg hdefined]
    exact parseTokens_eq_some.mpr rfl

/-- A list of tokens starts with the tokens of one value at most. -/
theorem Value.tokens_append_inj {value value' : Value} {rest rest' : List Token}
    (h : value.tokens ++ rest = value'.tokens ++ rest') : value = value' ∧ rest = rest' := by
  have hread := readValue_tokens value rest (2 * (value.tokens.length + value'.tokens.length))
    (by omega)
  rw [h, readValue_tokens value' rest' _ (by omega)] at hread
  cases hread
  exact ⟨rfl, rfl⟩

/-! ## Printing -/

/-- `pieces.join(",")`. -/
def joined (pieces : List HostString) : HostString := [','.toNat].intercalate pieces

mutual

/-- The text of a value without blanks. -/
def Value.text : Value → HostString
  | .scalar scalar => scalar.text
  | .array elements => '['.toNat :: (joined (elementTexts elements) ++ [']'.toNat])
  | .object members => '{'.toNat :: (joined (memberTexts members) ++ ['}'.toNat])

def elementTexts : List Value → List HostString
  | [] => []
  | element :: elements => element.text :: elementTexts elements

def memberTexts : List (HostString × Value) → List HostString
  | [] => []
  | (key, value) :: members => (quoted key ++ ':'.toNat :: value.text) :: memberTexts members

end

/-- Pieces with a comma before each. -/
def listed (pieces : List HostString) : HostString := pieces.flatMap (','.toNat :: ·)

theorem joined_cons (piece : HostString) (pieces : List HostString) :
    joined (piece :: pieces) = piece ++ listed pieces := by
  induction pieces generalizing piece with
  | nil => simp [joined, listed]
  | cons next pieces ih =>
    have hnext := ih next
    simp only [joined, listed, List.intercalate, List.intersperse_cons_cons, List.flatten_cons,
      List.flatMap_cons, List.cons_append, List.nil_append] at hnext ⊢
    rw [hnext]

/-- No word and no number goes on here. -/
def Delimited (rest : HostString) : Prop := ∀ u ∈ rest.head?, isBare u = false

theorem delimited_mark (mark : Mark) (rest : HostString) : Delimited (mark.unit :: rest) := by
  intro u hu
  cases Option.some.inj hu
  cases mark <;> rfl

theorem delimited_listed (pieces : List HostString) {rest : HostString} (hrest : Delimited rest) :
    Delimited (listed pieces ++ rest) := by
  cases pieces with
  | nil => exact hrest
  | cons piece pieces => exact delimited_mark .comma _

theorem tokens_mark (mark : Mark) (rest : HostString) :
    tokens (mark.unit :: rest) = (tokens rest).map (.mark mark :: ·) := by
  refine tokens_cons ?_ (readToken_mark ?_ rest)
  · cases mark <;> rfl
  · cases mark <;> rfl

theorem tokens_quoted (value rest : HostString) :
    tokens (quoted value ++ rest) = (tokens rest).map (.scalar (.string value) :: ·) := by
  rw [quoted, List.cons_append, List.append_assoc, List.singleton_append]
  refine tokens_cons rfl ?_
  rw [readToken_quote, readString_escaped]
  rfl

/-- A unit of a word or a number starts no other token. -/
theorem isBare_excludes {u : Nat} (h : isBare u) :
    isBlank u = false ∧ Mark.ofUnit u = none ∧ u ≠ '"'.toNat := by
  simp only [isBare, isDigit, Char.reduceToNat, Bool.or_eq_true, Bool.and_eq_true,
    decide_eq_true_eq] at h
  refine ⟨?_, ?_, ?_⟩
  · simp only [isBlank, Bool.or_eq_false_iff, decide_eq_false_iff_not]
    omega
  · simp only [Mark.ofUnit, List.find?_eq_none, decide_eq_true_eq]
    intro mark _
    cases mark <;> simp only [Mark.unit, Char.reduceToNat] <;> omega
  · simp only [Char.reduceToNat]
    omega

theorem NumberState.next_isBare {state state' : NumberState} {u : Nat}
    (h : state.next u = some state') : isBare u := by
  by_contra hbare
  simp only [isBare, Bool.or_eq_true, not_or, decide_eq_true_eq, Bool.not_eq_true] at hbare
  obtain ⟨⟨⟨⟨⟨hdigit, hletter⟩, hexp⟩, hplus⟩, hminus⟩, hpoint⟩ := hbare
  have hzero : u ≠ '0'.toNat := by
    rintro rfl
    exact nomatch hdigit
  have hpower : u ≠ 'e'.toNat := by
    rintro rfl
    exact nomatch hletter
  cases state <;>
    simp only [next, hdigit, hzero, hpower, hexp, hplus, hminus, hpoint, if_false, or_self,
      Bool.false_eq_true, reduceCtorEq] at h

theorem isNumber_isBare {literal : HostString} (h : isNumber literal) :
    ∀ u ∈ literal, isBare u := by
  have hrun : ∀ (literal : HostString) (state state' : NumberState),
      literal.foldlM NumberState.next state = some state' → ∀ u ∈ literal, isBare u := by
    intro literal
    induction literal with
    | nil => exact fun _ _ _ _ hu => nomatch hu
    | cons v literal ih =>
      intro state state' hfold u hu
      obtain ⟨after, hnext, hrest⟩ := Option.bind_eq_some_iff.mp hfold
      rcases List.mem_cons.mp hu with rfl | hu
      · exact NumberState.next_isBare hnext
      · exact ih after state' hrest u hu
  rw [isNumber] at h
  cases hfold : literal.foldlM NumberState.next .start with
  | none => simp [hfold] at h
  | some state => exact hrun literal .start state hfold

/-- A word or a number is a run that is read as it. -/
theorem tokens_bare {run rest : HostString} {scalar : Scalar} (hne : run ≠ [])
    (hbare : ∀ u ∈ run, isBare u) (hscalar : Scalar.ofBare run = some scalar)
    (hrest : Delimited rest) :
    tokens (run ++ rest) = (tokens rest).map (.scalar scalar :: ·) := by
  have htake : (run ++ rest).takeWhile isBare = run := by
    rw [List.takeWhile_append_of_pos hbare]
    cases rest with
    | nil => simp
    | cons v rest => rw [List.takeWhile_cons_of_neg (by simp [hrest v rfl]), List.append_nil]
  have hdrop : (run ++ rest).dropWhile isBare = rest := by
    rw [List.dropWhile_append_of_pos hbare]
    cases rest with
    | nil => rfl
    | cons v rest => rw [List.dropWhile_cons_of_neg (by simp [hrest v rfl])]
  cases run with
  | nil => exact absurd rfl hne
  | cons u run =>
    obtain ⟨hblank, hmark, hquote⟩ := isBare_excludes (hbare u List.mem_cons_self)
    refine tokens_cons hblank ((readToken_bare hmark hquote _).trans ?_)
    show ((Scalar.ofBare ((u :: run ++ rest).takeWhile isBare)).map fun scalar =>
      (Token.scalar scalar, (u :: run ++ rest).dropWhile isBare)) = _
    rw [htake, hdrop, hscalar]
    rfl

theorem tokens_number (number : Number) {rest : HostString} (hrest : Delimited rest) :
    tokens (number.literal ++ rest) = (tokens rest).map (.scalar (.number number) :: ·) := by
  refine tokens_bare ?_ (isNumber_isBare number.valid) ?_ hrest
  · intro hnil
    have hvalid := number.valid
    rw [hnil] at hvalid
    exact nomatch hvalid
  · -- no word is a number
    have hword : ([.undefined, .null, .bool true, .bool false] : List Scalar).find?
        (fun word => word.text = number.literal) = none := by
      rw [List.find?_eq_none]
      intro word hmem htext
      have hvalid := number.valid
      rw [← decide_eq_true_eq.mp htext] at hvalid
      have hinvalid : ∀ word ∈ ([.undefined, .null, .bool true, .bool false] : List Scalar),
          isNumber word.text = false := by decide
      exact nomatch (hinvalid word hmem).symm.trans hvalid
    rw [Scalar.ofBare, hword]
    exact dif_pos number.valid

theorem tokens_scalar (scalar : Scalar) {rest : HostString} (hrest : Delimited rest) :
    tokens (scalar.text ++ rest) = (tokens rest).map (.scalar scalar :: ·) := by
  cases scalar with
  | undefined => exact tokens_bare (by decide) (by decide) (by decide) hrest
  | null => exact tokens_bare (by decide) (by decide) (by decide) hrest
  | bool value =>
    cases value with
    | true => exact tokens_bare (by decide) (by decide) (by decide) hrest
    | false => exact tokens_bare (by decide) (by decide) (by decide) hrest
  | number value => exact tokens_number value hrest
  | string value => exact tokens_quoted value rest

mutual

theorem tokens_value : ∀ (value : Value) {rest : HostString}, Delimited rest →
    tokens (value.text ++ rest) = (tokens rest).map (value.tokens ++ ·)
  | .scalar scalar, _, hrest => tokens_scalar scalar hrest
  | .array [], rest, _ => by
    have hopen := tokens_mark .openArray (Mark.closeArray.unit :: rest)
    rw [tokens_mark .closeArray, Option.map_map] at hopen
    exact hopen
  | .array (element :: elements), rest, _ => by
    have hfirst := tokens_value element
      (delimited_listed (elementTexts elements) (delimited_mark .closeArray rest))
    rw [tokens_elements elements (delimited_mark .closeArray rest), tokens_mark] at hfirst
    have hopen := tokens_mark .openArray
      (element.text ++ (listed (elementTexts elements) ++ Mark.closeArray.unit :: rest))
    rw [hfirst] at hopen
    simp only [Value.text, elementTexts, joined_cons, List.append_assoc, List.cons_append,
      List.nil_append]
    refine hopen.trans ?_
    simp [Value.tokens, elementTokens, Function.comp_def]
  | .object [], rest, _ => by
    have hopen := tokens_mark .openObject (Mark.closeObject.unit :: rest)
    rw [tokens_mark .closeObject, Option.map_map] at hopen
    exact hopen
  | .object ((key, value) :: members), rest, _ => by
    have hfirst := tokens_value value
      (delimited_listed (memberTexts members) (delimited_mark .closeObject rest))
    rw [tokens_members members (delimited_mark .closeObject rest), tokens_mark] at hfirst
    have hcolon := tokens_mark .colon
      (value.text ++ (listed (memberTexts members) ++ Mark.closeObject.unit :: rest))
    rw [hfirst] at hcolon
    have hopen := tokens_mark .openObject (quoted key ++ Mark.colon.unit ::
      (value.text ++ (listed (memberTexts members) ++ Mark.closeObject.unit :: rest)))
    rw [tokens_quoted, hcolon] at hopen
    simp only [Value.text, memberTexts, joined_cons, List.append_assoc, List.cons_append,
      List.nil_append]
    refine hopen.trans ?_
    simp [Value.tokens, memberTokens, Function.comp_def]

theorem tokens_elements : ∀ (elements : List Value) {rest : HostString}, Delimited rest →
    tokens (listed (elementTexts elements) ++ rest) =
      (tokens rest).map (elementTokens elements ++ ·)
  | [], rest, _ => by simp [elementTexts, elementTokens, listed]
  | element :: elements, rest, hrest => by
    have hfirst := tokens_value element (delimited_listed (elementTexts elements) hrest)
    rw [tokens_elements elements hrest] at hfirst
    have hcomma := tokens_mark .comma (element.text ++ (listed (elementTexts elements) ++ rest))
    rw [hfirst] at hcomma
    simp only [elementTexts, listed, List.flatMap_cons, List.cons_append, List.append_assoc]
    refine hcomma.trans ?_
    simp [elementTokens, Function.comp_def]

theorem tokens_members : ∀ (members : List (HostString × Value)) {rest : HostString},
    Delimited rest →
    tokens (listed (memberTexts members) ++ rest) = (tokens rest).map (memberTokens members ++ ·)
  | [], rest, _ => by simp [memberTexts, memberTokens, listed]
  | (key, value) :: members, rest, hrest => by
    have hfirst := tokens_value value (delimited_listed (memberTexts members) hrest)
    rw [tokens_members members hrest] at hfirst
    have hcolon := tokens_mark .colon (value.text ++ (listed (memberTexts members) ++ rest))
    rw [hfirst] at hcolon
    have hcomma := tokens_mark .comma (quoted key ++ Mark.colon.unit ::
      (value.text ++ (listed (memberTexts members) ++ rest)))
    rw [tokens_quoted, hcolon] at hcomma
    simp only [memberTexts, listed, List.flatMap_cons, List.cons_append, List.append_assoc]
    refine hcomma.trans ?_
    simp [memberTokens, Function.comp_def]

end

/-- **The tokens of a value** are read back from its text. -/
theorem tokens_text (value : Value) : tokens value.text = some value.tokens := by
  have hnil : Delimited [] := fun u hu => nomatch hu
  have h := tokens_value value hnil
  rwa [List.append_nil, tokens, Option.map_some, List.append_nil] at h

theorem text_injective {value value' : Value} (h : value.text = value'.text) : value = value' := by
  have htokens := tokens_text value
  rw [h, tokens_text value'] at htokens
  have happend := congrArg (· ++ []) (Option.some.inj htokens.symm)
  exact (Value.tokens_append_inj happend).1

end Anyam.Kernel.JsonText
