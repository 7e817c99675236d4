import PathQuery.Json.Writer
import PathQuery.Path.Printer
import PathQuery.Proofs.Text.Quoted

/-!
# Escapes of UTF-16 code units

Any text can be written between quotes without a character of its own: UTF-16 gives it a sequence of code
units, and each of them is an escape of four hexadecimal digits, capitals or not. A character above 0xFFFF
has two units, the halves of a surrogate pair, and neither half stands for anything without the other. So
not every sequence of units encodes a text.

The reader of quoted texts takes the escapes one by one, and two at once for a pair. It is compared to a
decoder of code units that goes through them in the same way, and the decoder undoes the encoding. Together
with the two written forms of a text, in apostrophes and in double quotes, these are all the ways in which
quoted texts are encoded.

## Main definitions

* `Utf16.encode`, `Utf16.decode?` — the code units of a text, and the text that code units encode.
* `UnitEscape` — a code unit as an escape.
* `Lexeme.escapedText` — escapes between quotes.

## Main results

* `Utf16.decode?_eq_some_iff` — the decoder undoes the encoding, and nothing else.
* `Quoted.readBody_escapes` — escapes are read as the decoder reads their units.
* `Lexeme.readQuoted_encodings` — every encoding of a text is read back, and escapes that encode no text
  are refused.
-/

namespace PathQuery

namespace Utf16

open Quoted (isHighSurrogate isLowSurrogate pairChar)

/-! ## Code units -/

/-- The code units of a character: its number, or above 0xFFFF the two halves of a surrogate pair, with ten
bits each of what the number exceeds 0xFFFF by. -/
def units (c : Char) : List UInt16 :=
  if c.toNat < 0x10000 then [UInt16.ofNat c.toNat]
  else [UInt16.ofNat (0xD800 + (c.toNat - 0x10000) / 0x400),
    UInt16.ofNat (0xDC00 + (c.toNat - 0x10000) % 0x400)]

/-- The code units of a text. -/
def encode (text : List Char) : List UInt16 := text.flatMap units

/-- The text that code units stand for. There is none if one half of a surrogate pair is without the
other. -/
def decode? : List UInt16 → Option (List Char)
  | [] => some []
  | u :: us =>
    if isHighSurrogate u.toNat then
      match us with
      | [] => none
      | v :: us =>
        if isLowSurrogate v.toNat then (decode? us).map (pairChar u.toNat v.toNat :: ·) else none
    else if isLowSurrogate u.toNat then none
    else (decode? us).map (Char.ofNat u.toNat :: ·)

/-! ### Single units and pairs -/

theorem isHighSurrogate_iff {n : Nat} : isHighSurrogate n = true ↔ 0xD800 ≤ n ∧ n < 0xDC00 := by
  simp [isHighSurrogate]

theorem isLowSurrogate_iff {n : Nat} : isLowSurrogate n = true ↔ 0xDC00 ≤ n ∧ n < 0xE000 := by
  simp [isLowSurrogate]

/-- The numbers of characters are all but those of the halves of pairs. -/
theorem toNat_ofNat_of_isValidChar {n : Nat} (h : n.isValidChar) : (Char.ofNat n).toNat = n := by
  rw [Char.ofNat, dif_pos h]
  rfl

/-- A unit that is no half of a pair is the number of a character. -/
theorem units_ofNat {u : UInt16} (high : ¬ isHighSurrogate u.toNat) (low : ¬ isLowSurrogate u.toNat) :
    units (Char.ofNat u.toNat) = [u] := by
  rw [isHighSurrogate_iff] at high
  rw [isLowSurrogate_iff] at low
  have small : u.toNat < 0x10000 := u.toNat_lt
  have valid : u.toNat.isValidChar := by
    unfold Nat.isValidChar
    omega
  rw [units, toNat_ofNat_of_isValidChar valid, if_pos small, UInt16.ofNat_toNat]

/-- Two halves that fit are those of the character that they stand for. -/
theorem units_pairChar {u v : UInt16} (high : isHighSurrogate u.toNat) (low : isLowSurrogate v.toNat) :
    units (pairChar u.toNat v.toNat) = [u, v] := by
  rw [isHighSurrogate_iff] at high
  rw [isLowSurrogate_iff] at low
  have valid : (0x10000 + (u.toNat - 0xD800) * 0x400 + (v.toNat - 0xDC00)).isValidChar := by
    unfold Nat.isValidChar
    omega
  have first : 0xD800 + (0x10000 + (u.toNat - 0xD800) * 0x400 + (v.toNat - 0xDC00) - 0x10000) / 0x400 =
      u.toNat := by omega
  have second : 0xDC00 + (0x10000 + (u.toNat - 0xD800) * 0x400 + (v.toNat - 0xDC00) - 0x10000) % 0x400 =
      v.toNat := by omega
  have large : ¬ 0x10000 + (u.toNat - 0xD800) * 0x400 + (v.toNat - 0xDC00) < 0x10000 := by omega
  rw [units, pairChar, toNat_ofNat_of_isValidChar valid, if_neg large, first, second, UInt16.ofNat_toNat,
    UInt16.ofNat_toNat]

/-- A character has one unit, which is no half of a pair, or two that are. -/
theorem units_cases (c : Char) :
    (∃ u, units c = [u] ∧ isHighSurrogate u.toNat = false ∧ isLowSurrogate u.toNat = false ∧
      Char.ofNat u.toNat = c) ∨
    ∃ u v, units c = [u, v] ∧ isHighSurrogate u.toNat = true ∧ isLowSurrogate v.toNat = true ∧
      pairChar u.toNat v.toNat = c := by
  have valid : c.toNat < 0xD800 ∨ 0xDFFF < c.toNat ∧ c.toNat < 0x110000 := c.valid
  by_cases small : c.toNat < 0x10000
  · have unit : (UInt16.ofNat c.toNat).toNat = c.toNat := by
      rw [UInt16.toNat_ofNat']
      omega
    refine .inl ⟨UInt16.ofNat c.toNat, if_pos small, ?_, ?_, ?_⟩
    · rw [unit, ← Bool.not_eq_true, isHighSurrogate_iff]
      omega
    · rw [unit, ← Bool.not_eq_true, isLowSurrogate_iff]
      omega
    · rw [unit, Char.ofNat_toNat]
  · have first : (UInt16.ofNat (0xD800 + (c.toNat - 0x10000) / 0x400)).toNat =
        0xD800 + (c.toNat - 0x10000) / 0x400 := by
      rw [UInt16.toNat_ofNat']
      omega
    have second : (UInt16.ofNat (0xDC00 + (c.toNat - 0x10000) % 0x400)).toNat =
        0xDC00 + (c.toNat - 0x10000) % 0x400 := by
      rw [UInt16.toNat_ofNat']
      omega
    refine .inr ⟨_, _, if_neg small, ?_, ?_, ?_⟩
    · rw [first, isHighSurrogate_iff]
      omega
    · rw [second, isLowSurrogate_iff]
      omega
    · have whole : 0x10000 + (0xD800 + (c.toNat - 0x10000) / 0x400 - 0xD800) * 0x400 +
          (0xDC00 + (c.toNat - 0x10000) % 0x400 - 0xDC00) = c.toNat := by omega
      rw [first, second, pairChar, whole, Char.ofNat_toNat]

/-! ### The decoder -/

theorem decode?_cons {u : UInt16} (high : isHighSurrogate u.toNat = false)
    (low : isLowSurrogate u.toNat = false) (us : List UInt16) :
    decode? (u :: us) = (decode? us).map (Char.ofNat u.toNat :: ·) := by
  cases us <;> simp [decode?, high, low]

theorem decode?_pair {u v : UInt16} (high : isHighSurrogate u.toNat = true)
    (low : isLowSurrogate v.toNat = true) (us : List UInt16) :
    decode? (u :: v :: us) = (decode? us).map (pairChar u.toNat v.toNat :: ·) := by
  simp [decode?, high, low]

theorem decode?_low {u : UInt16} (high : isHighSurrogate u.toNat = false)
    (low : isLowSurrogate u.toNat = true) (us : List UInt16) : decode? (u :: us) = none := by
  cases us <;> simp [decode?, high, low]

theorem decode?_lone {u : UInt16} (high : isHighSurrogate u.toNat = true) : decode? [u] = none := by
  simp [decode?, high]

theorem decode?_unpaired {u v : UInt16} (high : isHighSurrogate u.toNat = true)
    (low : isLowSurrogate v.toNat = false) (us : List UInt16) : decode? (u :: v :: us) = none := by
  simp [decode?, high, low]

theorem decode?_encode (text : List Char) : decode? (encode text) = some text := by
  induction text with
  | nil => rfl
  | cons c text ih =>
    have split : encode (c :: text) = units c ++ encode text := List.flatMap_cons
    rcases units_cases c with ⟨u, one, high, low, rfl⟩ | ⟨u, v, two, high, low, rfl⟩
    · rw [split, one, List.cons_append, List.nil_append, decode?_cons high low, ih]
      rfl
    · rw [split, two, List.cons_append, List.cons_append, List.nil_append, decode?_pair high low, ih]
      rfl

theorem encode_of_decode? {us : List UInt16} {text : List Char} (h : decode? us = some text) :
    encode text = us := by
  fun_induction decode? us generalizing text with
  | case1 =>
    cases h
    rfl
  | case2 u high => cases h
  | case3 u high v us low ih =>
    obtain ⟨text, decoded, rfl⟩ := Option.map_eq_some_iff.1 h
    show units _ ++ encode text = _
    rw [units_pairChar high low, ih decoded]
    rfl
  | case4 => cases h
  | case5 => cases h
  | case6 u us high low ih =>
    obtain ⟨text, decoded, rfl⟩ := Option.map_eq_some_iff.1 h
    show units _ ++ encode text = _
    rw [units_ofNat high low, ih decoded]
    rfl

/-- The decoder finds the text that units encode, if they encode one. -/
theorem decode?_eq_some_iff {us : List UInt16} {text : List Char} :
    decode? us = some text ↔ encode text = us :=
  ⟨encode_of_decode?, fun h => h ▸ decode?_encode text⟩

example : decode? [0xD83D, 0xDE00, 0x41] = some ['😀', 'A'] := by decide

end Utf16

/-! ## Escapes -/

/-- A hexadecimal digit, as a capital if it is a letter and a capital is asked for. -/
def hexDigit (capital : Bool) (n : Nat) : Char :=
  if capital then (Nat.digitChar n).toUpper else Nat.digitChar n

/-- A code unit, and which of the four digits of its escape are capitals. -/
structure UnitEscape where
  unit : UInt16
  capital : Fin 4 → Bool

namespace UnitEscape

/-- The digit of an escape at a place, counted from its end, where a digit is worth `worth`. -/
def digit (e : UnitEscape) (place : Fin 4) (worth : Nat) : Char :=
  hexDigit (e.capital place) (e.unit.toNat / worth % 16)

/-- The digits of an escape. -/
def digits (e : UnitEscape) : List Char := [e.digit 3 0x1000, e.digit 2 0x100, e.digit 1 0x10, e.digit 0 1]

/-- The characters of an escape. -/
def chars (e : UnitEscape) : List Char := '\\' :: 'u' :: e.digits

end UnitEscape

/-- A digit has its value as a capital and as a small letter. -/
theorem hexValue?_hexDigit (capital : Bool) {n : Nat} (hn : n < 16) :
    hexValue? (hexDigit capital n) = some n := by
  have all : ∀ capital, ∀ n < 16, hexValue? (hexDigit capital n) = some n := by decide
  exact all capital n hn

/-- The digits of an escape are those of its unit. -/
theorem natOfHex?_digits (e : UnitEscape) : natOfHex? e.digits = some e.unit.toNat := by
  have value (place : Fin 4) (worth : Nat) :
      hexValue? (e.digit place worth) = some (e.unit.toNat / worth % 16) :=
    hexValue?_hexDigit _ (Nat.mod_lt _ (by decide))
  have small : e.unit.toNat < 0x10000 := e.unit.toNat_lt
  have whole : 16 * (16 * (16 * (16 * 0 + e.unit.toNat / 0x1000 % 16) + e.unit.toNat / 0x100 % 16) +
      e.unit.toNat / 0x10 % 16) + e.unit.toNat / 1 % 16 = e.unit.toNat := by omega
  rw [natOfHex?, UnitEscape.digits]
  simp only [List.foldlM_cons, List.foldlM_nil, value, Option.map_some, Option.bind_eq_bind,
    Option.bind_some]
  exact congrArg some whole

namespace Quoted

open Reader
open Utf16 (decode?)

variable {ε : Type} {d : Dialect ε} {quote : Char} {s : List Char}

/-! ### One escape, or a pair -/

theorem readUnit_digits (bad : ε) (e : UnitEscape) (s : List Char) :
    readUnit bad (e.digits ++ s) = .done e.unit.toNat s := by
  have number := natOfHex?_digits e
  rw [UnitEscape.digits] at number
  simp [UnitEscape.digits, readUnit, number]

/-- A unit that is no half of a pair is read as a character by itself. -/
theorem readCodePoint_single (bad : ε) {e : UnitEscape} (high : isHighSurrogate e.unit.toNat = false)
    (low : isLowSurrogate e.unit.toNat = false) (s : List Char) :
    readCodePoint bad (e.digits ++ s) = .done (Char.ofNat e.unit.toNat) s := by
  rw [readCodePoint, bind_done (readUnit_digits bad e s)]
  simp [high, low]

/-- A second half by itself is refused. -/
theorem readCodePoint_low (bad : ε) {e : UnitEscape} (high : isHighSurrogate e.unit.toNat = false)
    (low : isLowSurrogate e.unit.toNat = true) (s : List Char) :
    readCodePoint bad (e.digits ++ s) = .failed bad s := by
  rw [readCodePoint, bind_done (readUnit_digits bad e s)]
  simp [high, low]

/-- Behind a first half another escape must follow, and it must be a second half. -/
theorem readCodePoint_high (bad : ε) {e : UnitEscape} (high : isHighSurrogate e.unit.toNat = true)
    (f : UnitEscape) (s : List Char) :
    readCodePoint bad (e.digits ++ (f.chars ++ s)) =
      if isLowSurrogate f.unit.toNat then .done (pairChar e.unit.toNat f.unit.toNat) s
      else .failed bad s := by
  have digits : (f.chars ++ s).drop 2 = f.digits ++ s := rfl
  have more : ['\\', 'u'].isPrefixOf (f.chars ++ s) = true := rfl
  rw [readCodePoint, bind_done (readUnit_digits bad e _), if_pos high, bind_done (lookingAt_apply _ _),
    more, if_pos rfl, bind_done (skipMany_apply 2 _), digits, bind_done (readUnit_digits bad f s)]
  split <;> rfl

/-- A first half with nothing but a closing quote behind it is refused. -/
theorem readCodePoint_unpaired (bad : ε) {e : UnitEscape} (high : isHighSurrogate e.unit.toNat = true)
    (hq : quote ≠ '\\') (s : List Char) :
    readCodePoint bad (e.digits ++ quote :: s) = .failed bad (quote :: s) := by
  have alone : ['\\', 'u'].isPrefixOf (quote :: s) = false := by
    simp [List.isPrefixOf, hq.symm]
  rw [readCodePoint, bind_done (readUnit_digits bad e _), if_pos high, bind_done (lookingAt_apply _ _),
    alone]
  rfl

/-! ### Bodies of escapes -/

theorem readEscape_unit (d : Dialect ε) (s : List Char) :
    readEscape d ('u' :: s) = readCodePoint d.badEscape s := by
  simp [readEscape, bind_apply]

/-- An escape that is read gives the next character of the body. -/
theorem readBody_unit {e : UnitEscape} {c : Char} {rest : List Char} (hq : quote ≠ '\\')
    (h : readCodePoint d.badEscape (e.digits ++ s) = .done c rest) :
    readBody d quote (e.chars ++ s) = (readBody d quote rest).map (c :: ·) :=
  readBody_backslash hq ((readEscape_unit d _).trans h)

/-- A body is refused where an escape is. -/
theorem readBody_refused {e : UnitEscape} {cause : ε} {rest : List Char} (hq : quote ≠ '\\')
    (h : readCodePoint d.badEscape (e.digits ++ s) = .failed cause rest) :
    readBody d quote (e.chars ++ s) = .failed cause rest := by
  have escape := (readEscape_unit d _).trans h
  show readBody d quote ('\\' :: 'u' :: (e.digits ++ s)) = _
  rw [readBody, if_neg hq.symm, if_pos rfl]
  split
  next h' =>
    rw [escape] at h'
    cases h'
    rfl
  next h' =>
    rw [escape] at h'
    cases h'

/-- A character in front of a text that was decoded, or nothing in front of a failure. -/
theorem map_outcome (c : Char) (decoded : Option (List Char)) (cause : ε) (rest s : List Char) :
    (decoded.elim (.failed cause rest) (.done · s) : Reading ε (List Char)).map (c :: ·) =
      (decoded.map (c :: ·)).elim (.failed cause rest) (.done · s) := by
  cases decoded <;> rfl

/-- Between quotes, escapes are read as the text that their units stand for, and refused if there is
none. -/
theorem readBody_escapes (d : Dialect ε) (hq : quote ≠ '\\') (es : List UnitEscape) (s : List Char) :
    ∃ rest, readBody d quote (es.flatMap UnitEscape.chars ++ quote :: s) =
      (decode? (es.map UnitEscape.unit)).elim (.failed d.badEscape rest) (.done · s) := by
  -- A pair takes two escapes, so the induction is on the number of those left.
  induction hn : es.length using Nat.strongRecOn generalizing es with
  | _ n ih =>
    subst hn
    cases es with
    | nil => exact ⟨s, readBody_close⟩
    | cons e es =>
      rw [List.flatMap_cons, List.append_assoc, List.map_cons]
      cases high : isHighSurrogate e.unit.toNat with
      | false =>
        cases low : isLowSurrogate e.unit.toNat with
        | true =>
          refine ⟨es.flatMap UnitEscape.chars ++ quote :: s, ?_⟩
          rw [readBody_refused hq (readCodePoint_low d.badEscape high low _), Utf16.decode?_low high low]
          rfl
        | false =>
          obtain ⟨rest, body⟩ := ih es.length (Nat.lt_succ_self _) es rfl
          refine ⟨rest, ?_⟩
          rw [readBody_unit hq (readCodePoint_single d.badEscape high low _), body, map_outcome,
            Utf16.decode?_cons high low]
      | true =>
        cases es with
        | nil =>
          refine ⟨quote :: s, (readBody_refused hq (readCodePoint_unpaired d.badEscape high hq s)).trans ?_⟩
          rw [List.map_nil, Utf16.decode?_lone high]
          rfl
        | cons f es =>
          rw [List.flatMap_cons, List.append_assoc, List.map_cons]
          have pair := readCodePoint_high d.badEscape high f (es.flatMap UnitEscape.chars ++ quote :: s)
          cases low : isLowSurrogate f.unit.toNat with
          | false =>
            rw [low] at pair
            refine ⟨es.flatMap UnitEscape.chars ++ quote :: s, ?_⟩
            rw [readBody_refused hq pair, Utf16.decode?_unpaired high low]
            rfl
          | true =>
            obtain ⟨rest, body⟩ := ih es.length (by simp only [List.length_cons]; omega) es rfl
            rw [low] at pair
            refine ⟨rest, ?_⟩
            rw [readBody_unit hq pair, body, map_outcome, Utf16.decode?_pair high low]

end Quoted

/-! ## Quoted texts of a path -/

namespace Lexeme

open Reader
open ReadError (Cause)

/-- Escapes of code units between quotes. -/
def escapedText (quote : Char) (es : List UnitEscape) : List Char :=
  quote :: (es.flatMap UnitEscape.chars ++ [quote])

/-- Escapes of code units are read as the text that the units encode, and refused if they encode none. -/
theorem readQuoted_escapedText {quote : Char} (hq : isQuote quote = true) (es : List UnitEscape)
    (behind : List Char) :
    ∃ rest, readQuoted (escapedText quote es ++ behind) =
      (Utf16.decode? (es.map UnitEscape.unit)).elim (.failed .badEscape rest)
        fun text => .done (String.ofList text) behind := by
  obtain ⟨rest, body⟩ := Quoted.readBody_escapes dialect (dialect_understands hq).backslash es behind
  have front : escapedText quote es ++ behind =
      quote :: (es.flatMap UnitEscape.chars ++ quote :: behind) := by simp [escapedText]
  refine ⟨rest, ?_⟩
  have word := map_apply String.ofList (Quoted.readBody dialect quote)
    (es.flatMap UnitEscape.chars ++ quote :: behind)
  rw [body] at word
  rw [front]
  simp only [readQuoted, bind_apply, peek_apply, List.head?_cons, hq, if_true, skip_apply, List.tail_cons]
  refine word.trans ?_
  cases Utf16.decode? (es.map UnitEscape.unit) <;> rfl

/-- A name in apostrophes and a string of a document are read as what they were written for, up to the
closing quote. Between quotes of either kind, escapes of code units are read as the text of which the units
are the UTF-16 encoding; if they encode no text, an escape is refused. -/
theorem readQuoted_encodings {quote : Char} (hq : isQuote quote = true) (behind : List Char) :
    (∀ name : String, readQuoted (quotedName name ++ behind) = .done name behind) ∧
      (∀ text : String, readQuoted ((Json.string text).chars ++ behind) = .done text behind) ∧
      ∀ es : List UnitEscape,
        (∀ text rest, readQuoted (escapedText quote es ++ behind) = .done text rest ↔
          Utf16.encode text.toList = es.map UnitEscape.unit ∧ rest = behind) ∧
        ((¬ ∃ text, Utf16.encode text = es.map UnitEscape.unit) →
          ∃ rest, readQuoted (escapedText quote es ++ behind) = .failed .badEscape rest) := by
  refine ⟨fun name => ?_, fun text => ?_, fun es => ?_⟩
  · rw [quotedName, readQuoted_encode rfl, String.ofList_toList]
  · rw [Json.chars, readQuoted_encode rfl, String.ofList_toList]
  · obtain ⟨left, read⟩ := readQuoted_escapedText hq es behind
    simp only [← Utf16.decode?_eq_some_iff]
    cases decoded : Utf16.decode? (es.map UnitEscape.unit) with
    | none =>
      rw [decoded, Option.elim_none] at read
      simp [read]
    | some t =>
      rw [decoded, Option.elim_some] at read
      refine ⟨fun text rest => ?_, fun unencoded => absurd ⟨t, rfl⟩ unencoded⟩
      rw [read]
      constructor
      · intro h
        cases h
        rw [String.toList_ofList]
        exact ⟨rfl, rfl⟩
      · rintro ⟨h, rfl⟩
        rw [Option.some.inj h, String.ofList_toList]

/-- A surrogate pair behind another unit, in digits of either case. -/
theorem readQuoted_encodings_pair :
    isQuote '"' = true ∧ readQuoted "\"\\u0041\\uD83d\\uDe00\"]".toList = .done "A😀" [']'] :=
  ⟨rfl, (((readQuoted_encodings rfl [']']).2.2
    [⟨0x41, fun _ => false⟩, ⟨0xD83D, fun place => place ≠ 0⟩, ⟨0xDE00, fun place => place = 3⟩]).1 _ _).2
      ⟨by decide, rfl⟩⟩

end Lexeme

end PathQuery
