import Anyam.Kernel.JsonText
import Anyam.Lib.OrderedMap

/-!
# The decoder of recovery metadata

`decoded` of `cloudflare/artifacts-recovery.ts`. `JSON.parse` keeps the last of several members of
one key, so the decoder looks for repeated keys in the text once more: a regular expression picks
the strings and the structural characters out of it, and a stack of containers follows them. The
expression is matched by code points and the strings here are code units; no part of it can end
between the halves of a pair.

- `foldlM_visit`: on a text that has tokens the stack does with the matches what it does with the
  tokens.
- `visit_value`: over the tokens of a value the stack comes back as it was, unless a key is repeated.
- **`decoded_eq_ok_iff`**: what is accepted.
-/

namespace Anyam.Provider.Recovery

open Anyam.Lib Anyam.Kernel.JsonText

inductive DecodeError
  | syntaxError | invalidSnapshot
deriving DecidableEq, Repr

mutual

/-- What `JSON.parse` makes of the members of one key: the last one counts. -/
def settled : Value → Value
  | .scalar scalar => .scalar scalar
  | .array elements => .array (settledElements elements)
  | .object members => .object (OrderedMap.ofList (settledMembers members)).entries

def settledElements : List Value → List Value
  | [] => []
  | element :: elements => settled element :: settledElements elements

def settledMembers : List (HostString × Value) → List (HostString × Value)
  | [] => []
  | (key, value) :: members => (key, settled value) :: settledMembers members

end

/-- `JSON.parse`. -/
def jsonParse (text : HostString) : Option Value := (parseText text).map settled

/-! ## The second look -/

/-- What `.` does not match. -/
def isLineTerminator (u : Nat) : Bool := u = 10 || u = 13 || u = 0x2028 || u = 0x2029

/-- `(?:[^"\\]|\\.)*"`: what it matches, and what follows. -/
def matchString : HostString → Option (HostString × HostString)
  | [] => none
  | u :: rest =>
    if u = '"'.toNat then some ([u], rest)
    else if u = '\\'.toNat then
      match rest with
      | [] => none
      | e :: rest =>
        if isLineTerminator e then none
        else (matchString rest).map fun found => (u :: e :: found.1, found.2)
    else (matchString rest).map fun found => (u :: found.1, found.2)

theorem matchString_length {s body rest : HostString} (h : matchString s = some (body, rest)) :
    rest.length < s.length := by
  fun_induction matchString s generalizing body with
  | case1 => cases h
  | case2 =>
    cases h
    exact Nat.lt_succ_self _
  | case3 => cases h
  | case4 => cases h
  | case5 e more _ _ ih =>
    obtain ⟨⟨_, _⟩, hmore, heq⟩ := Option.map_eq_some_iff.mp h
    cases heq
    exact Nat.lt_succ_of_lt (Nat.lt_succ_of_lt (ih hmore))
  | case6 u more _ _ ih =>
    obtain ⟨⟨_, _⟩, hmore, heq⟩ := Option.map_eq_some_iff.mp h
    cases heq
    exact Nat.lt_succ_of_lt (ih hmore)

/-- The match of the whole expression at the start of a text. -/
def matchHere (u : Nat) (rest : HostString) : Option (HostString × HostString) :=
  if u = '"'.toNat then (matchString rest).map fun found => (u :: found.1, found.2)
  else if (Mark.ofUnit u).isSome then some ([u], rest)
  else none

theorem matchHere_length {u : Nat} {rest token left : HostString}
    (h : matchHere u rest = some (token, left)) : left.length < rest.length + 1 := by
  unfold matchHere at h
  split_ifs at h with hquote hmark
  · obtain ⟨⟨_, _⟩, hfound, heq⟩ := Option.map_eq_some_iff.mp h
    cases heq
    exact Nat.lt_succ_of_lt (matchString_length hfound)
  · cases h
    exact Nat.lt_succ_self _

/-- `value.matchAll(…)`. -/
def matchAll : HostString → List HostString
  | [] => []
  | u :: rest =>
    match _hfound : matchHere u rest with
    | some (token, left) => token :: matchAll left
    | none => matchAll rest
termination_by s => s.length
decreasing_by
  · exact matchHere_length _hfound
  · exact Nat.lt_succ_self _

inductive Container
  | object (keys : List HostString) (expectingKey : Bool)
  | array
deriving DecidableEq, Repr

/-- One match, with the containers that are open. -/
def visit (containers : List Container) (token : HostString) :
    Except DecodeError (List Container) :=
  if token = ['{'.toNat] then .ok (.object [] true :: containers)
  else if token = ['['.toNat] then .ok (.array :: containers)
  else if token = ['}'.toNat] ∨ token = [']'.toNat] then .ok containers.tail
  else
    match containers with
    | .object keys expectingKey :: outer =>
      if token = [':'.toNat] then .ok (.object keys false :: outer)
      else if token = [','.toNat] then .ok (.object keys true :: outer)
      else if expectingKey ∧ token.head? = some '"'.toNat then
        match jsonParse token with
        | some (.scalar (.string key)) =>
          if key ∈ keys then .error .invalidSnapshot
          else .ok (.object (key :: keys) true :: outer)
        | some _ => .error .invalidSnapshot
        | none => .error .syntaxError
      else .ok containers
    | _ => .ok containers

def decoded (text : HostString) : Except DecodeError (List (HostString × Value)) :=
  match jsonParse text with
  | none => .error .syntaxError
  | some (.object members) => do
    let _ ← (matchAll text).foldlM visit []
    pure members
  | some _ => .error .invalidSnapshot

/-! ## Matches and tokens -/

theorem matchString_plain {u : Nat} (hquote : u ≠ '"'.toNat) (hslash : u ≠ '\\'.toNat)
    (more : HostString) :
    matchString (u :: more) = (matchString more).map fun found => (u :: found.1, found.2) := by
  rw [matchString.eq_def]
  simp only [if_neg hquote, if_neg hslash]

theorem matchString_escape {e : Nat} (he : isLineTerminator e = false) (more : HostString) :
    matchString ('\\'.toNat :: e :: more) =
      (matchString more).map fun found => ('\\'.toNat :: e :: found.1, found.2) := by
  rw [matchString.eq_def]
  simp only [he]
  rfl

theorem hexValue_plain {u n : Nat} (h : hexValue u = some n) :
    u ≠ '"'.toNat ∧ u ≠ '\\'.toNat := by
  constructor <;> (rintro rfl; exact nomatch h)

/-- The expression matches the whole text of a string. -/
theorem matchString_of_stringText {raw value : HostString} (h : StringText raw value)
    (more : HostString) : matchString (raw ++ more) = some (raw, more) := by
  induction h with
  | close =>
    rw [matchString.eq_def]
    rfl
  | cons hpiece hraw ih =>
    rw [List.append_assoc]
    cases hpiece with
    | plain _ hquote hslash _ =>
      rw [List.singleton_append, matchString_plain hquote hslash, ih]
      rfl
    | simple e _ _ hu =>
      have hdot : isLineTerminator e = false := by
        by_contra hend
        simp only [isLineTerminator, Bool.or_eq_true, decide_eq_true_eq, Bool.not_eq_false] at hend
        rcases hend with ((rfl | rfl) | rfl) | rfl <;> exact nomatch hu
      simp only [List.cons_append, List.nil_append]
      rw [matchString_escape hdot, ih]
      rfl
    | hex a b c d _ hu =>
      -- after the letter come four units that are matched as themselves
      obtain ⟨_, ha, hu⟩ := Option.bind_eq_some_iff.mp hu
      obtain ⟨_, hb, hu⟩ := Option.bind_eq_some_iff.mp hu
      obtain ⟨_, hc, hu⟩ := Option.bind_eq_some_iff.mp hu
      obtain ⟨_, hd, hu⟩ := Option.bind_eq_some_iff.mp hu
      simp only [List.cons_append, List.nil_append]
      rw [matchString_escape rfl, matchString_plain (hexValue_plain ha).1 (hexValue_plain ha).2,
        matchString_plain (hexValue_plain hb).1 (hexValue_plain hb).2,
        matchString_plain (hexValue_plain hc).1 (hexValue_plain hc).2,
        matchString_plain (hexValue_plain hd).1 (hexValue_plain hd).2, ih]
      rfl

theorem matchAll_cons {u : Nat} {rest token left : HostString}
    (h : matchHere u rest = some (token, left)) : matchAll (u :: rest) = token :: matchAll left := by
  rw [matchAll]
  split
  · next token' left' hfound =>
    cases h.symm.trans hfound
    rfl
  · next hnone => exact nomatch h.symm.trans hnone

/-- A unit that starts no match is passed over. -/
theorem matchAll_skip {u : Nat} (hquote : u ≠ '"'.toNat) (hmark : Mark.ofUnit u = none)
    (rest : HostString) : matchAll (u :: rest) = matchAll rest := by
  have hhere : matchHere u rest = none := by
    rw [matchHere, if_neg hquote, hmark]
    rfl
  rw [matchAll]
  split
  · next token left hfound => exact nomatch hhere.symm.trans hfound
  · rfl

theorem matchAll_bare {run : HostString} (h : ∀ u ∈ run, isBare u) (rest : HostString) :
    matchAll (run ++ rest) = matchAll rest := by
  induction run with
  | nil => rfl
  | cons u run ih =>
    obtain ⟨-, hmark, hquote⟩ := isBare_excludes (h u List.mem_cons_self)
    rw [List.cons_append, matchAll_skip hquote hmark]
    exact ih fun v hv => h v (List.mem_cons_of_mem u hv)

/-- One token, with the containers that are open. -/
def visitToken (containers : List Container) : Token → Except DecodeError (List Container)
  | .mark .openObject => .ok (.object [] true :: containers)
  | .mark .openArray => .ok (.array :: containers)
  | .mark .closeObject | .mark .closeArray => .ok containers.tail
  | .mark .colon =>
    match containers with
    | .object keys _ :: outer => .ok (.object keys false :: outer)
    | _ => .ok containers
  | .mark .comma =>
    match containers with
    | .object keys _ :: outer => .ok (.object keys true :: outer)
    | _ => .ok containers
  | .scalar (.string key) =>
    match containers with
    | .object keys true :: outer =>
      if key ∈ keys then .error .invalidSnapshot else .ok (.object (key :: keys) true :: outer)
    | _ => .ok containers
  | .scalar _ => .ok containers

theorem visit_mark (containers : List Container) (mark : Mark) :
    visit containers [mark.unit] = visitToken containers (.mark mark) := by
  cases mark <;> rcases containers with _ | ⟨_ | _, _⟩ <;> rfl

theorem jsonParse_stringText {raw value : HostString} (h : StringText raw value) :
    jsonParse ('"'.toNat :: raw) = some (.scalar (.string value)) := by
  have hread := readString_of_stringText h []
  rw [List.append_nil] at hread
  have htokens : tokens ('"'.toNat :: raw) = some (Value.scalar (.string value)).tokens := by
    rw [tokens_cons rfl (by rw [readToken_quote, hread]; rfl), tokens]
    rfl
  rw [jsonParse, parseText_eq_some.mpr ⟨htokens, by simp [Value.tokens]⟩]
  rfl

theorem visit_string (containers : List Container) {raw value : HostString}
    (h : StringText raw value) :
    visit containers ('"'.toNat :: raw) = visitToken containers (.scalar (.string value)) := by
  have hmark : ∀ u : Nat, u ≠ '"'.toNat → '"'.toNat :: raw ≠ [u] := by
    rintro u hu heq
    exact hu (List.cons.inj heq).1.symm
  have hclose : ¬ ('"'.toNat :: raw = ['}'.toNat] ∨ '"'.toNat :: raw = [']'.toNat]) := by
    rintro (heq | heq)
    · exact hmark _ (by decide) heq
    · exact hmark _ (by decide) heq
  unfold visit
  rw [if_neg (hmark _ (by decide)), if_neg (hmark _ (by decide)), if_neg hclose]
  cases containers with
  | nil => rfl
  | cons container outer =>
    cases container with
    | array => rfl
    | object keys expectingKey =>
      simp only [if_neg (hmark ':'.toNat (by decide)), if_neg (hmark ','.toNat (by decide)),
        jsonParse_stringText h]
      cases expectingKey <;> rfl

theorem isBlank_excludes {u : Nat} (h : isBlank u) : u ≠ '"'.toNat ∧ Mark.ofUnit u = none := by
  simp only [isBlank, Bool.or_eq_true, decide_eq_true_eq] at h
  rcases h with ((rfl | rfl) | rfl) | rfl <;> decide

theorem visitToken_bare {run : HostString} {scalar : Scalar} (h : Scalar.ofBare run = some scalar)
    (containers : List Container) : visitToken containers (.scalar scalar) = .ok containers := by
  cases scalar with
  | string value =>
    -- no word is a string
    rw [Scalar.ofBare] at h
    split at h
    · next word hword =>
      cases h
      have hmem := List.mem_of_find?_eq_some hword
      simp at hmem
    · split at h
      · cases h
      · cases h
  | _ => rfl

/-- On a text that has tokens, the stack does with the matches what it does with the tokens. -/
theorem foldlM_visit {text : HostString} {ts : List Token} (h : tokens text = some ts)
    (containers : List Container) :
    (matchAll text).foldlM visit containers = ts.foldlM visitToken containers := by
  fun_induction tokens text generalizing ts containers with
  | case1 =>
    cases h
    rw [matchAll]
    rfl
  | case2 u rest hblank ih =>
    obtain ⟨hquote, hmark⟩ := isBlank_excludes hblank
    rw [matchAll_skip hquote hmark]
    exact ih h containers
  | case3 => cases h
  | case4 u rest hblank token left hread ih =>
    obtain ⟨ts, hleft, rfl⟩ := Option.map_eq_some_iff.mp h
    rw [List.foldlM_cons]
    rcases readToken_eq_some hread with
      ⟨mark, rfl, htext⟩ | ⟨raw, value, rfl, htext, hraw⟩ | ⟨run, scalar, rfl, htext, -, hbare, hrun⟩
    · have hhere : matchHere mark.unit left = some ([mark.unit], left) := by
        cases mark <;> rfl
      rw [htext, matchAll_cons hhere, List.foldlM_cons, visit_mark]
      exact bind_congr fun containers => ih hleft containers
    · have hhere : matchHere '"'.toNat (raw ++ left) = some ('"'.toNat :: raw, left) := by
        rw [matchHere, if_pos rfl, matchString_of_stringText hraw]
        rfl
      rw [htext, matchAll_cons hhere, List.foldlM_cons, visit_string containers hraw]
      exact bind_congr fun containers => ih hleft containers
    · rw [htext, matchAll_bare hbare, visitToken_bare hrun]
      exact ih hleft containers

/-! ## Over the tokens of a value -/

/-- A string that comes now is no key. -/
def AtValue : List Container → Prop
  | .object _ true :: _ => False
  | _ => True

/-- The containers, when the condition holds. -/
def kept (condition : Bool) (containers : List Container) : Except DecodeError (List Container) :=
  if condition then .ok containers else .error .invalidSnapshot

theorem bind_kept {condition more : Bool} {containers containers' : List Container}
    {next : List Container → Except DecodeError (List Container)}
    (h : next containers = kept more containers') :
    (kept condition containers >>= next) = kept (condition && more) containers' := by
  cases condition with
  | false => rfl
  | true => exact h

theorem bind_kept_ok {condition : Bool} {containers containers' : List Container}
    {next : List Container → Except DecodeError (List Container)}
    (h : next containers = .ok containers') :
    (kept condition containers >>= next) = kept condition containers' := by
  cases condition with
  | false => rfl
  | true => exact h

mutual

/-- Over the tokens of a value the containers come back as they were, unless a key is repeated. -/
theorem visit_value : ∀ (value : Value) {containers : List Container}, AtValue containers →
    value.tokens.foldlM visitToken containers = kept value.distinctKeys containers
  | .scalar scalar, containers, hvalue => by
    have hscalar : visitToken containers (.scalar scalar) = .ok containers := by
      cases scalar with
      | string key =>
        rcases containers with _ | ⟨⟨keys, expectingKey⟩ | _, outer⟩
        · rfl
        · cases expectingKey with
          | true => exact hvalue.elim
          | false => rfl
        · rfl
      | _ => rfl
    rw [Value.tokens, List.foldlM_cons, hscalar]
    rfl
  | .array elements, containers, _ => by
    have helements : ((elementTokens elements).drop 1).foldlM visitToken (.array :: containers) =
        kept (distinctElements elements) (.array :: containers) := by
      refine Eq.trans ?_ (visit_elements elements containers)
      cases elements with
      | nil => rfl
      | cons element elements => rfl
    show ((elementTokens elements).drop 1 ++ [Token.mark .closeArray]).foldlM visitToken
      (.array :: containers) = _
    rw [List.foldlM_append, helements, Value.distinctKeys]
    exact bind_kept_ok rfl
  | .object members, containers, _ => by
    have hmembers := visit_members members [] containers List.nodup_nil
    simp only [List.append_nil, List.nodup_reverse] at hmembers
    cases members with
    | nil => rfl
    | cons member members =>
      -- the comma that is left out would set the flag that is set already
      show ((memberTokens (member :: members)).drop 1 ++ [Token.mark .closeObject]).foldlM visitToken
        (.object [] true :: containers) = _
      rw [List.foldlM_append, Value.distinctKeys]
      refine Eq.trans (congrArg (· >>= _) hmembers) ?_
      exact bind_kept_ok rfl

theorem visit_elements : ∀ (elements : List Value) (outer : List Container),
    (elementTokens elements).foldlM visitToken (.array :: outer) =
      kept (distinctElements elements) (.array :: outer)
  | [], _ => rfl
  | element :: elements, outer => by
    have hvalue : AtValue (.array :: outer) := trivial
    show (element.tokens ++ elementTokens elements).foldlM visitToken (.array :: outer) = _
    rw [List.foldlM_append, visit_value element hvalue]
    exact bind_kept (visit_elements elements outer)

theorem visit_members : ∀ (members : List (HostString × Value)) (keys : List HostString)
    (outer : List Container), keys.Nodup →
    (memberTokens members).foldlM visitToken (.object keys false :: outer) =
      kept (decide ((members.map Prod.fst).reverse ++ keys).Nodup && distinctMembers members)
        (.object ((members.map Prod.fst).reverse ++ keys) false :: outer)
  | [], keys, outer, hkeys => by
    show Except.ok (.object keys false :: outer) =
      kept (decide keys.Nodup && true) (.object keys false :: outer)
    rw [decide_eq_true hkeys]
    rfl
  | (key, value) :: members, keys, outer, hkeys => by
    rw [List.map_cons, List.reverse_cons, List.append_assoc, List.singleton_append, distinctMembers]
    by_cases hkey : key ∈ keys
    · -- the key is there already
      have hrepeated : ¬ ((members.map Prod.fst).reverse ++ key :: keys).Nodup := by
        intro hnodup
        exact (List.nodup_cons.mp (List.nodup_append.mp hnodup).2.1).1 hkey
      have hvisit : visitToken (.object keys true :: outer) (.scalar (.string key)) =
          .error .invalidSnapshot := if_pos hkey
      rw [decide_eq_false hrepeated, memberTokens, List.foldlM_cons]
      show (visitToken (.object keys true :: outer) (.scalar (.string key)) >>= _) = _
      rw [hvisit]
      rfl
    · have hvisit : visitToken (.object keys true :: outer) (.scalar (.string key)) =
          .ok (.object (key :: keys) true :: outer) := if_neg hkey
      have hvalue : AtValue (.object (key :: keys) false :: outer) := trivial
      have hmembers := visit_members members (key :: keys) outer (List.nodup_cons.mpr ⟨hkey, hkeys⟩)
      rw [memberTokens, List.foldlM_cons]
      show (visitToken (.object keys true :: outer) (.scalar (.string key)) >>= _) = _
      rw [hvisit, Bool.and_left_comm]
      show (value.tokens ++ memberTokens members).foldlM visitToken
        (.object (key :: keys) false :: outer) = _
      rw [List.foldlM_append, visit_value value hvalue]
      exact bind_kept hmembers

end

/-- The second look refuses a text exactly when a key is repeated in it. -/
theorem foldlM_visit_text {text : HostString} {value : Value} (h : parseText text = some value) :
    (matchAll text).foldlM visit [] = kept value.distinctKeys [] := by
  have hnone : AtValue [] := trivial
  rw [foldlM_visit (parseText_eq_some.mp h).1, visit_value value hnone]

/-! ## What is accepted -/

mutual

theorem settled_of_distinctKeys : ∀ {value : Value}, value.distinctKeys → settled value = value
  | .scalar _, _ => rfl
  | .array elements, h => by rw [settled, settledElements_of_distinct h]
  | .object members, h => by
    rw [Value.distinctKeys, Bool.and_eq_true, decide_eq_true_eq] at h
    rw [settled, settledMembers_of_distinct h.2]
    have hentries := OrderedMap.entries_foldl_set (m := .empty) (l := members) h.1
    rw [OrderedMap.ofList, hentries]
    rfl

theorem settledElements_of_distinct : ∀ {elements : List Value}, distinctElements elements →
    settledElements elements = elements
  | [], _ => rfl
  | element :: elements, h => by
    rw [distinctElements, Bool.and_eq_true] at h
    rw [settledElements, settled_of_distinctKeys h.1, settledElements_of_distinct h.2]

theorem settledMembers_of_distinct : ∀ {members : List (HostString × Value)},
    distinctMembers members → settledMembers members = members
  | [], _ => rfl
  | (key, value) :: members, h => by
    rw [distinctMembers, Bool.and_eq_true] at h
    rw [settledMembers, settled_of_distinctKeys h.1, settledMembers_of_distinct h.2]

end

/-- **What is accepted**: the texts of an object in which no object has two members of one key. The
value that is returned is the one `JSON.parse` gives, and no member of the text is missing in it. -/
theorem decoded_eq_ok_iff {text : HostString} {members : List (HostString × Value)} :
    decoded text = .ok members ↔
      parseText text = some (.object members) ∧ (Value.object members).distinctKeys ∧
        jsonParse text = some (.object members) := by
  cases hparse : parseText text with
  | none =>
    have hjson : jsonParse text = none := by rw [jsonParse, hparse, Option.map_none]
    simp [decoded, hjson]
  | some value =>
    have hjson : jsonParse text = some (settled value) := by
      rw [jsonParse, hparse, Option.map_some]
    have hscan := foldlM_visit_text hparse
    cases value with
    | scalar scalar => simp [decoded, hjson, settled]
    | array elements => simp [decoded, hjson, settled]
    | object written =>
      cases hdistinct : (Value.object written).distinctKeys with
      | false =>
        have hrefused : decoded text = .error .invalidSnapshot := by
          simp only [decoded, hjson, settled, hscan, hdistinct]
          rfl
        rw [hrefused]
        constructor
        · exact nofun
        · rintro ⟨hwritten, hkeys, -⟩
          cases hwritten
          exact nomatch hdistinct.symm.trans hkeys
      | true =>
        rw [settled_of_distinctKeys hdistinct] at hjson
        have haccepted : decoded text = .ok written := by
          simp only [decoded, hjson, hscan, hdistinct]
          rfl
        rw [haccepted, hjson]
        constructor
        · intro h
          cases h
          exact ⟨rfl, hdistinct, rfl⟩
        · rintro ⟨hwritten, -, -⟩
          cases hwritten
          rfl

end Anyam.Provider.Recovery
