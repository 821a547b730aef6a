/-!
# String operations of the host language

The string functions the kernel calls, on character lists so that they compute:
`split`, `replaceAll`, `trim`, `startsWith`, `includes`, `JSON.stringify` of a string
and Node's `posix.normalize`. Compatibility normalization and lower-casing need the Unicode
tables; they are the two fields of `UnicodeText` and are given to whatever uses
them.

`truthy` is the test `x ? … : …` on an optional string: absent and empty are both
false.
-/

namespace Anyam.Kernel

/-- `String.prototype.normalize("NFKC")` and `String.prototype.toLowerCase`. -/
structure UnicodeText where
  nfkc : String → String
  toLowerCase : String → String

/-- The value of an optional string when the host language takes it for true. -/
def truthy : Option String → Option String
  | some s => if s = "" then none else some s
  | none => none

@[simp] theorem truthy_none : truthy none = none := rfl

@[simp] theorem truthy_eq_some {o : Option String} {s : String} :
    truthy o = some s ↔ o = some s ∧ s ≠ "" := by
  cases o with
  | none => simp
  | some t =>
    by_cases ht : t = ""
    · subst ht
      simp only [truthy, if_true]
      exact ⟨nofun, fun ⟨h, hs⟩ => absurd (Option.some.inj h).symm hs⟩
    · simp only [truthy, if_neg ht]
      exact ⟨fun h => ⟨h, (Option.some.inj h) ▸ ht⟩, fun h => h.1⟩

theorem truthy_eq_none {o : Option String} : truthy o = none ↔ o = none ∨ o = some "" := by
  cases o with
  | none => simp
  | some t => by_cases ht : t = "" <;> simp [truthy, ht]

/-- `value.split(c)` on characters. -/
def splitChars (c : Char) : List Char → List (List Char)
  | [] => [[]]
  | x :: xs =>
    if x = c then [] :: splitChars c xs
    else match splitChars c xs with
      | [] => [[x]]
      | seg :: segs => (x :: seg) :: segs

def split (c : Char) (s : String) : List String :=
  (splitChars c s.toList).map String.ofList

/-- Two texts joined with a separator have equal parts, or one left part goes on past the
separator of the other. -/
theorem separated_inj {c : Char} {left left' right right' : List Char}
    (h : left ++ c :: right = left' ++ c :: right') (hleft : ¬ (left ++ [c]).IsPrefix left')
    (hleft' : ¬ (left' ++ [c]).IsPrefix left) : left = left' ∧ right = right' := by
  rcases List.append_eq_append_iff.mp h with ⟨more, hmore, hrest⟩ | ⟨more, hmore, hrest⟩
  · cases more with
    | nil =>
      rw [List.append_nil] at hmore
      exact ⟨hmore.symm, (List.cons.inj hrest).2⟩
    | cons x more =>
      refine absurd ⟨more, ?_⟩ hleft
      rw [(List.cons.inj hrest).1, hmore, List.append_assoc]
      rfl
  · cases more with
    | nil =>
      rw [List.append_nil] at hmore
      exact ⟨hmore, (List.cons.inj hrest).2.symm⟩
    | cons x more =>
      refine absurd ⟨more, ?_⟩ hleft'
      rw [(List.cons.inj hrest).1, hmore, List.append_assoc]
      rfl

/-- `value.replaceAll("\\", "/")`. -/
def replaceBackslashes (s : String) : String :=
  String.ofList (s.toList.map fun c => if c = '\\' then '/' else c)

/-- The parts of `value` around `value.lastIndexOf(c)`, when it has a `c`. -/
def splitAtLast (c : Char) (value : String) : Option (String × String) :=
  match value.toList.reverse.span fun x => x ≠ c with
  | (_, []) => none
  | (after, _ :: before) => some (String.ofList before.reverse, String.ofList after.reverse)

/-- `value.replace(/\/+$/, "")`. -/
def stripTrailingSlashes (value : String) : String :=
  String.ofList (value.toList.reverse.dropWhile fun c => c = '/').reverse

/-- White space and line terminators, as `String.prototype.trim` removes them. -/
def isTrimmed (c : Char) : Bool :=
  let n := c.toNat
  (9 ≤ n && n ≤ 13) || n == 0x20 || n == 0xA0 || n == 0x1680 ||
    (0x2000 ≤ n && n ≤ 0x200A) || n == 0x2028 || n == 0x2029 || n == 0x202F ||
    n == 0x205F || n == 0x3000 || n == 0xFEFF

def trim (s : String) : String :=
  String.ofList (((s.toList.dropWhile isTrimmed).reverse.dropWhile isTrimmed).reverse)

/-- What stops a `dropWhile` stops it again. -/
theorem dropWhile_eq_self {p : Char → Bool} {cs : List Char}
    (h : ∀ c ∈ cs.head?, p c = false) : cs.dropWhile p = cs := by
  cases cs with
  | nil => rfl
  | cons c cs => rw [List.dropWhile_cons_of_neg (by simp [h c rfl])]

theorem head_dropWhile {p : Char → Bool} {cs : List Char} :
    ∀ c ∈ (cs.dropWhile p).head?, p c = false := by
  intro c hc
  have hnot := List.head?_dropWhile_not p cs
  rw [Option.mem_def.mp hc] at hnot
  exact hnot

theorem trim_trim (s : String) : trim (trim s) = trim s := by
  simp only [trim, String.toList_ofList]
  generalize s.toList = cs
  -- what is left is a front part of the text without its leading white space
  have hfront : (((cs.dropWhile isTrimmed).reverse.dropWhile isTrimmed).reverse).dropWhile isTrimmed =
      ((cs.dropWhile isTrimmed).reverse.dropWhile isTrimmed).reverse := by
    refine dropWhile_eq_self fun c hc => ?_
    refine @head_dropWhile isTrimmed cs c ?_
    have hstart : (((cs.dropWhile isTrimmed).reverse.dropWhile isTrimmed).reverse).IsPrefix
        (cs.dropWhile isTrimmed) := by
      rw [← List.reverse_suffix, List.reverse_reverse]
      exact List.dropWhile_suffix _
    obtain ⟨rest, hrest⟩ := hstart
    rw [← hrest]
    generalize ((cs.dropWhile isTrimmed).reverse.dropWhile isTrimmed).reverse = front at hc ⊢
    cases front with
    | nil => cases hc
    | cons x xs => exact hc
  rw [hfront, List.reverse_reverse, dropWhile_eq_self head_dropWhile]

/-- A text is trimmed exactly when it neither starts nor ends with a blank. -/
theorem trim_eq_self {s : String} : trim s = s ↔
    (∀ c ∈ s.toList.head?, isTrimmed c = false) ∧ ∀ c ∈ s.toList.getLast?, isTrimmed c = false := by
  constructor
  · intro h
    have hlist := congrArg String.toList h
    simp only [trim, String.toList_ofList] at hlist
    generalize s.toList = cs at hlist
    have hlast : ∀ c ∈ cs.reverse.head?, isTrimmed c = false := by
      rw [← hlist, List.reverse_reverse]
      exact head_dropWhile
    rw [List.head?_reverse] at hlast
    refine ⟨fun c hc => ?_, hlast⟩
    have hfront : cs.dropWhile isTrimmed = cs := by
      refine (List.dropWhile_suffix _).eq_of_length_le ?_
      calc cs.length
          = (((cs.dropWhile isTrimmed).reverse.dropWhile isTrimmed).reverse).length := by rw [hlist]
        _ ≤ (cs.dropWhile isTrimmed).reverse.length := by
          rw [List.length_reverse]
          exact (List.dropWhile_suffix _).length_le
        _ = (cs.dropWhile isTrimmed).length := List.length_reverse
    exact head_dropWhile c (hfront.symm ▸ hc)
  · rintro ⟨hhead, hlast⟩
    rw [← List.head?_reverse] at hlast
    rw [trim, dropWhile_eq_self hhead, dropWhile_eq_self hlast, List.reverse_reverse,
      String.ofList_toList]

/-- `value.startsWith(part)`. -/
def startsWith (value part : String) : Bool := part.toList.isPrefixOf value.toList

/-- `value.includes(part)` on characters. -/
def includesChars (part : List Char) : List Char → Bool
  | [] => part.isEmpty
  | c :: cs => part.isPrefixOf (c :: cs) || includesChars part cs

def includes (value part : String) : Bool := includesChars part.toList value.toList

def hexDigit (n : Nat) : Char :=
  if n < 10 then Char.ofNat (48 + n) else Char.ofNat (87 + n)

/-- One character of a JSON string. -/
def jsonEscape (c : Char) : List Char :=
  if c = '"' then ['\\', '"']
  else if c = '\\' then ['\\', '\\']
  else if c.toNat = 8 then ['\\', 'b']
  else if c.toNat = 9 then ['\\', 't']
  else if c.toNat = 10 then ['\\', 'n']
  else if c.toNat = 12 then ['\\', 'f']
  else if c.toNat = 13 then ['\\', 'r']
  else if c.toNat < 32 then ['\\', 'u', '0', '0', hexDigit (c.toNat / 16), hexDigit (c.toNat % 16)]
  else [c]

/-- `JSON.stringify` of a string. -/
def jsonString (s : String) : String :=
  String.ofList ('"' :: s.toList.flatMap jsonEscape ++ ['"'])

/-- The segment stack of `posix.normalize`: empty and `.` segments vanish, `..`
pops a real segment and otherwise stays unless the path is absolute. -/
def normalizeSegments (absolute : Bool) (segments : List (List Char)) : List (List Char) :=
  let push (stack : List (List Char)) (seg : List Char) : List (List Char) :=
    if seg = [] ∨ seg = ['.'] then stack
    else if seg = ['.', '.'] then
      match stack with
      | top :: below => if top = ['.', '.'] then seg :: stack else below
      | [] => if absolute then [] else [seg]
    else seg :: stack
  (segments.foldl push []).reverse

/-- `posix.normalize`. -/
def posixNormalize (s : String) : String :=
  let cs := s.toList
  if cs = [] then "." else
  let absolute := cs.head? = some '/'
  let trailing := cs.getLast? = some '/'
  let body := (['/'].intercalate (normalizeSegments absolute (splitChars '/' cs)))
  if body = [] then
    if absolute then "/" else if trailing then "./" else "."
  else
    String.ofList ((if absolute then ['/'] else []) ++ body ++ (if trailing then ['/'] else []))

/-- `opaqueId(prefix)`, for the identifier `randomUUID` drew. -/
def opaqueId (kind uuid : String) : String := kind ++ ":" ++ uuid

/-- An opaque id is never empty. -/
theorem opaqueId_ne_empty (kind uuid : String) : opaqueId kind uuid ≠ "" := by
  intro h
  have hlist := congrArg String.toList h
  simp [opaqueId] at hlist

/-- An opaque id of a kind that starts without a blank is trimmed when what was drawn for it does
not end with one. -/
theorem trim_opaqueId {kind uuid : String} (hempty : kind ≠ "")
    (hkind : kind.toList.head?.any isTrimmed = false) :
    trim (opaqueId kind uuid) = opaqueId kind uuid ↔ uuid.toList.getLast?.any isTrimmed = false := by
  have hlist : (opaqueId kind uuid).toList = kind.toList ++ ':' :: uuid.toList := by
    simp [opaqueId]
  have hhead : (opaqueId kind uuid).toList.head? = kind.toList.head? := by
    rw [hlist]
    cases hchars : kind.toList with
    | nil => exact absurd (String.toList_eq_nil_iff.mp hchars) hempty
    | cons c cs => rfl
  have hunblank : ∀ c ∈ kind.toList.head?, isTrimmed c = false := by
    intro c hc
    rwa [Option.mem_def.mp hc] at hkind
  rw [trim_eq_self, hhead, hlist, List.getLast?_append, List.getLast?_cons]
  refine (and_iff_right hunblank).trans ?_
  cases uuid.toList.getLast? with
  | none => simp [isTrimmed]
  | some c => simp

end Anyam.Kernel
