import PathQuery.Proofs.Json.Equality
import PathQuery.Proofs.Numeral

/-!
# JSON pointers resolve to their nodes

A JSON pointer is resolved token by token. What a token means is decided by the value that it is applied
to: in an object it is the name of a member, with `~1` standing for a slash and `~0` for a tilde, and in an
array it is a position. The texts do not tell the two apart, and `/0` may lead into an object as well as
into an array; but in one document it leads to one place, so the JSON pointer of a node resolves to the
node, and nodes at different locations have different ones.

The escapes are undone in two passes over a token, first those of slashes and then those of tilde signs.
The other way round `~01`, the token of the name `~1`, would be decoded to a slash.

## Main definitions

* `JsonPointer.decode` — the characters that a token stands for.
* `JsonPointer.resolve?` — the location and the value that a JSON pointer leads to in a document.

## Main results

* `JsonPointer.decode_tokenChars` — a name is decoded from its token.
* `Node.Reached.resolve?_jsonPointer` — the JSON pointer of a node leads to the node.
* `Path.jsonPointer_resolves` — for the nodes that queries select.
-/

namespace PathQuery

/-! ## Resolving a pointer -/

namespace JsonPointer

/-- Puts one character for every tilde with a certain digit behind it. -/
def replaceEscape (digit meant : Char) : List Char → List Char
  | [] => []
  | [c] => [c]
  | c :: d :: cs =>
    if c = '~' ∧ d = digit then meant :: replaceEscape digit meant cs
    else c :: replaceEscape digit meant (d :: cs)

/-- The characters that a token stands for. -/
def decode (token : List Char) : List Char := replaceEscape '0' '~' (replaceEscape '1' '/' token)

/-- The position that a token is the numeral of: its digits have no redundant zero. -/
def position? (token : List Char) : Option Nat :=
  if token ≠ [] ∧ token.all Char.isDigit = true ∧ (token.head? = some '0' → token = ['0']) then
    some (natOfDigits token)
  else none

/-- The step that a decoded token makes out of a value. -/
def step? (token : List Char) : Json → Option Step
  | .object _ => some (.key (String.ofList token))
  | .array _ => (position? token).map .index
  | _ => none

/-- The location and the value that a token leads to from others. -/
def advance? (place : Location × Json) (token : List Char) : Option (Location × Json) := do
  let step ← step? (decode token) place.2
  let v ← step.target? place.2
  return (place.1 ++ [step], v)

/-- The location and the value that a JSON pointer leads to: it is empty, or every token has a slash in
front. -/
def resolve? (document : Json) (pointer : String) : Option (Location × Json) :=
  match pointer.toList.splitOn '/' with
  | [] :: tokens => tokens.foldlM advance? ([.root], document)
  | _ => none

/-! ## Names are decoded -/

section replaceEscape

variable {digit meant : Char} {cs : List Char}

theorem replaceEscape_cons_of_ne {c : Char} (h : c ≠ '~') :
    replaceEscape digit meant (c :: cs) = c :: replaceEscape digit meant cs := by
  cases cs with
  | nil => rfl
  | cons d cs => simp [replaceEscape, h]

theorem replaceEscape_escape :
    replaceEscape digit meant ('~' :: digit :: cs) = meant :: replaceEscape digit meant cs := by
  simp [replaceEscape]

theorem replaceEscape_other {other : Char} (h : other ≠ digit) (plain : other ≠ '~') :
    replaceEscape digit meant ('~' :: other :: cs) = '~' :: other :: replaceEscape digit meant cs := by
  rw [← replaceEscape_cons_of_ne plain]
  simp [replaceEscape, h]

theorem replaceEscape_of_notMem (h : '~' ∉ cs) : replaceEscape digit meant cs = cs := by
  induction cs with
  | nil => rfl
  | cons c cs ih =>
    have plain : c ≠ '~' := fun same => h (same ▸ List.mem_cons_self)
    rw [replaceEscape_cons_of_ne plain, ih fun mem => h (List.mem_cons_of_mem c mem)]

end replaceEscape

theorem decode_of_notMem {token : List Char} (h : '~' ∉ token) : decode token = token := by
  rw [decode, replaceEscape_of_notMem h, replaceEscape_of_notMem h]

/-- A character of a name after the first pass: only the tilde is still escaped. -/
def tildeChar (c : Char) : List Char := if c = '~' then ['~', '0'] else [c]

theorem replaceEscape_slash (name : List Char) :
    replaceEscape '1' '/' (name.flatMap Step.tokenChar) = name.flatMap tildeChar := by
  induction name with
  | nil => rfl
  | cons c name ih =>
    rw [List.flatMap_cons, List.flatMap_cons, ← ih]
    by_cases tilde : c = '~'
    · subst tilde
      exact replaceEscape_other (by decide) (by decide)
    · by_cases slash : c = '/'
      · subst slash
        exact replaceEscape_escape
      · simp only [Step.tokenChar, tildeChar, tilde, slash, if_false]
        exact replaceEscape_cons_of_ne tilde

theorem replaceEscape_tilde (name : List Char) :
    replaceEscape '0' '~' (name.flatMap tildeChar) = name := by
  induction name with
  | nil => rfl
  | cons c name ih =>
    rw [List.flatMap_cons]
    by_cases tilde : c = '~'
    · subst tilde
      exact replaceEscape_escape.trans (congrArg _ ih)
    · simp only [tildeChar, tilde, if_false]
      exact (replaceEscape_cons_of_ne tilde).trans (congrArg _ ih)

/-- A name is decoded from its token. -/
theorem decode_tokenChars (name : List Char) : decode (name.flatMap Step.tokenChar) = name := by
  rw [decode, replaceEscape_slash, replaceEscape_tilde]

/-! ## The tokens of a location -/

/-- The token of a step; the start has none. -/
def token? : Step → Option (List Char)
  | .root => none
  | .key name => some (name.toList.flatMap Step.tokenChar)
  | .index i => some (Nat.toDigits 10 i)

theorem slash_notMem_tokenChar (c : Char) : '/' ∉ Step.tokenChar c := by
  by_cases tilde : c = '~'
  · subst tilde
    decide
  · by_cases slash : c = '/'
    · subst slash
      decide
    · simp only [Step.tokenChar, tilde, slash, if_false]
      exact fun mem => slash (List.mem_singleton.1 mem).symm

theorem notMem_toDigits {c : Char} (h : c.isDigit = false) (i : Nat) : c ∉ Nat.toDigits 10 i :=
  fun mem => by
    have digit := (toDigits_isRun i).digits c mem
    rw [h] at digit
    cases digit

/-- No token has a slash in it. -/
theorem slash_notMem_token {step : Step} {token : List Char} (h : token? step = some token) :
    '/' ∉ token := by
  cases step with
  | root => cases h
  | key name =>
    cases h
    intro mem
    obtain ⟨c, -, hc⟩ := List.mem_flatMap.1 mem
    exact slash_notMem_tokenChar c hc
  | index i =>
    cases h
    exact notMem_toDigits rfl i

theorem flatMap_tokenChars (l : Location) :
    l.flatMap Step.tokenChars = (l.filterMap token?).flatMap ('/' :: ·) := by
  induction l with
  | nil => rfl
  | cons step l ih =>
    rw [List.flatMap_cons, ih]
    cases step <;> rfl

theorem intercalate_nil_cons (tokens : List (List Char)) :
    ['/'].intercalate ([] :: tokens) = tokens.flatMap ('/' :: ·) := by
  induction tokens with
  | nil => rfl
  | cons token tokens ih =>
    rw [List.flatMap_cons, ← ih]
    cases tokens with
    | nil => simp [List.intercalate]
    | cons other tokens => simp [List.intercalate]

/-- A JSON pointer is split into the tokens of its location. -/
theorem splitOn_jsonPointer (l : Location) :
    l.jsonPointer.toList.splitOn '/' = [] :: l.filterMap token? := by
  have plain : ∀ token ∈ [] :: l.filterMap token?, '/' ∉ token := by
    intro token mem
    rcases List.mem_cons.1 mem with rfl | mem
    · exact List.not_mem_nil
    · obtain ⟨step, -, h⟩ := List.mem_filterMap.1 mem
      exact slash_notMem_token h
  rw [Location.jsonPointer, String.toList_ofList, flatMap_tokenChars, ← intercalate_nil_cons]
  exact List.splitOn_intercalate '/' plain (List.cons_ne_nil _ _)

/-! ## Tokens lead where steps lead -/

theorem position?_toDigits (i : Nat) : position? (Nat.toDigits 10 i) = some i := by
  have whole := toDigits_isWhole i
  have digits : (Nat.toDigits 10 i).all Char.isDigit = true := List.all_eq_true.2 whole.digits
  rw [position?, if_pos ⟨whole.ne_nil, digits, whole.redundant⟩, natOfDigits_toDigits]

/-- In a value that a step leads out of, its token is read as that step. -/
theorem step?_token {step : Step} {token : List Char} {v w : Json} (h : token? step = some token)
    (target : step.target? v = some w) : step? (decode token) v = some step := by
  cases step with
  | root => cases h
  | key name =>
    cases h
    cases v with
    | object members => rw [step?, decode_tokenChars, String.ofList_toList]
    | _ => cases target
  | index i =>
    cases h
    cases v with
    | array items =>
      rw [step?, decode_of_notMem (notMem_toDigits rfl i), position?_toDigits]
      rfl
    | _ => cases target

theorem advance?_token {step : Step} {token : List Char} {v w : Json} (l : Location)
    (h : token? step = some token) (target : step.target? v = some w) :
    advance? (l, v) token = some (l ++ [step], w) := by
  simp only [advance?, step?_token h target, Option.bind_eq_bind, Option.bind_some, target]
  rfl

end JsonPointer

/-! ## JSON pointers resolve to their nodes -/

open JsonPointer Node

instance Json.inherited_isUnambiguous : Json.Inherited Json.isUnambiguous where
  target {v w step} unambiguous target := by
    cases step with
    | root =>
      cases target
      exact unambiguous
    | key name =>
      cases v with
      | object members =>
        have inside := (Json.isUnambiguous_object.1 unambiguous).2
        exact inside (name, w) (Json.mem_of_member? target)
      | _ => cases target
    | index i =>
      cases v with
      | array items => exact Json.isUnambiguous_array.1 unambiguous w (List.mem_of_getElem? target)
      | _ => cases target
  nodup unambiguous := (Json.isUnambiguous_object.1 unambiguous).1

variable {document : Json} {n : Node}

theorem Node.Reached.foldlM_tokens (h : Reached document n) :
    (n.location.filterMap token?).foldlM advance? ([.root], document) =
      some (n.location, n.value) := by
  induction h with
  | root => rfl
  | @child n step v above ne target ih =>
    obtain ⟨token, ht⟩ : ∃ token, token? step = some token := by
      cases step with
      | root => contradiction
      | key name => exact ⟨_, rfl⟩
      | index i => exact ⟨_, rfl⟩
    rw [location_child, List.filterMap_append, List.filterMap_cons_some ht, List.foldlM_append, ih]
    show (advance? (n.location, n.value) token >>= _) = _
    rw [advance?_token n.location ht target]
    rfl

/-- The JSON pointer of a node leads to its location and its value. -/
theorem Node.Reached.resolve?_jsonPointer (h : Reached document n) :
    resolve? document n.jsonPointer = some (n.location, n.value) := by
  rw [resolve?, Node.jsonPointer, splitOn_jsonPointer]
  exact h.foldlM_tokens

namespace Path

/-- In a document without duplicate names, the JSON pointer of a node that a query selects resolves to the
location and the value of the node, and no node that is selected at another location has the same one. -/
theorem jsonPointer_resolves [Engine] (p : Path) (unambiguous : document.isUnambiguous = true)
    (h : n ∈ (p.evaluate document).value) :
    resolve? document n.jsonPointer = some (n.location, n.value) ∧
      ∀ (p' : Path) (m : Node), m ∈ (p'.evaluate document).value →
        m.location ≠ n.location → m.jsonPointer ≠ n.jsonPointer := by
  have reached := p.evaluate_reached unambiguous n h
  refine ⟨reached.resolve?_jsonPointer, ?_⟩
  intro p' m hm elsewhere same
  have resolved := (p'.evaluate_reached unambiguous m hm).resolve?_jsonPointer
  rw [same, reached.resolve?_jsonPointer] at resolved
  exact elsewhere (congrArg Prod.fst (Option.some.inj resolved)).symm

/-- A document with names that are written with escapes, and with one that looks like a position. -/
def slashedNames : Json :=
  .object [("a/~1", .array [.null, .object [("0", .bool true), ("", .array [.bool false])]])]

/-- The member of it that is named like a position. -/
def namedZero : Node :=
  (((Node.root slashedNames).child (.key "a/~1")
    (.array [.null, .object [("0", .bool true), ("", .array [.bool false])]])).child
    (.index 1) (.object [("0", .bool true), ("", .array [.bool false])])).child (.key "0") (.bool true)

theorem jsonPointer_resolves_namedZero :
    slashedNames.isUnambiguous = true ∧
      namedZero ∈ (evaluate ⟨[[.descent .wildcard]]⟩ slashedNames).value ∧
      namedZero.jsonPointer = "/a~1~01/1/0" ∧
      resolve? slashedNames namedZero.jsonPointer =
        some ([.root, .key "a/~1", .index 1, .key "0"], .bool true) ∧
      ∀ (p' : Path) (m : Node), m ∈ (p'.evaluate slashedNames).value →
        m.location ≠ namedZero.location → m.jsonPointer ≠ namedZero.jsonPointer :=
  have unambiguous : slashedNames.isUnambiguous = true := by decide
  have selected : namedZero ∈ (evaluate ⟨[[.descent .wildcard]]⟩ slashedNames).value :=
    .tail _ (.tail _ (.tail _ (.head _)))
  have resolves := jsonPointer_resolves ⟨[[.descent .wildcard]]⟩ unambiguous selected
  ⟨unambiguous, selected, by decide, resolves.1, resolves.2⟩

end Path

end PathQuery
