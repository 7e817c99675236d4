import Mathlib.Data.List.Nodup
import PathQuery.Location

/-!
# Document order

The steps out of a value are counted from the front: an element by its position and a member by the place
where it stands in its object. A location is then a list of numbers, and the order of the document is the
lexicographic order of these lists. A part comes before all that is inside it, and what is inside it comes
before the next element or member beside it.

## Main definitions

* `Step.place` — which child of a value a step leads to.
* `Json.places` — a location as a list of numbers.
* `Json.Precedes` — the order of the document.

## Main results

* `Json.precedes_below` — a part comes before what is inside it.
* `Json.precedes_beside` — the parts of a value come in the order of their places.
* `Json.Precedes.append` — what is inside two parts of one depth comes in the order of the parts.
-/

namespace PathQuery

/-- Which child of a value a step leads to, counted from the front. The start leads to none. -/
def Step.place : Step → Json → Nat
  | .index i, _ => i
  | .key name, .object members => (members.map (·.1)).idxOf name
  | _, _ => 0

/-- Without duplicate names, a member has the place where it stands. -/
theorem Step.place_key {members : List (String × Json)} (nodup : (members.map (·.1)).Nodup)
    {m : String × Json} {k : Nat} (h : members[k]? = some m) :
    (Step.key m.1).place (.object members) = k := by
  obtain ⟨inside, rfl⟩ := List.getElem?_eq_some_iff.1 h
  have there : k < (members.map (·.1)).length := by simpa using inside
  have found := nodup.idxOf_getElem k there
  rwa [List.getElem_map] at found

namespace Json

/-- The places of the steps of a location, as far as it leads into the document. -/
def places : Json → Location → List Nat
  | _, [] => []
  | v, step :: rest => step.place v :: ((step.target? v).map (·.places rest)).getD []

/-- One location comes before another one in the order of the document: the one with the first smaller
place, or the one that ends first. -/
def Precedes (document : Json) (l l' : Location) : Prop := document.places l < document.places l'

instance (document : Json) : DecidableRel document.Precedes :=
  fun l l' => inferInstanceAs (Decidable (document.places l < document.places l'))

variable {document v w : Json} {l l' : Location}

theorem places_append (h : document.at? l = some v) (rest : Location) :
    document.places (l ++ rest) = document.places l ++ v.places rest := by
  induction l generalizing document with
  | nil =>
    cases h
    rfl
  | cons step l ih =>
    obtain ⟨u, hu, there⟩ := Option.bind_eq_some_iff.1 h
    simp only [List.cons_append, places, hu, Option.map_some, Option.getD_some, ih there]

theorem length_places (h : document.at? l = some v) : (document.places l).length = l.length := by
  induction l generalizing document with
  | nil => rfl
  | cons step l ih =>
    obtain ⟨u, hu, there⟩ := Option.bind_eq_some_iff.1 h
    simp only [places, hu, Option.map_some, Option.getD_some, List.length_cons, ih there]

/-- Of two lists of one length, the smaller one stays smaller whatever is put behind them. -/
theorem append_lt_append {a b : List Nat} (h : a < b) (same : a.length = b.length) (x y : List Nat) :
    a ++ x < b ++ y := by
  induction h with
  | nil => cases same
  | rel h => exact .rel h
  | cons _ ih => exact .cons (ih (Nat.succ.inj same))

theorem Precedes.ne (h : document.Precedes l l') : l ≠ l' := by
  rintro rfl
  exact List.lt_irrefl _ h

/-- What is inside two parts of one depth comes in the order of the parts. -/
theorem Precedes.append (h : document.Precedes l l') (same : l.length = l'.length)
    (hl : document.at? l = some v) (hl' : document.at? l' = some w) (rest rest' : Location) :
    document.Precedes (l ++ rest) (l' ++ rest') := by
  have lengths : (document.places l).length = (document.places l').length := by
    rw [length_places hl, length_places hl', same]
  rw [Precedes, places_append hl, places_append hl']
  exact append_lt_append h lengths _ _

/-- A part comes before what is inside it. -/
theorem precedes_below (h : document.at? l = some v) (step : Step) (rest : Location) :
    document.Precedes l (l ++ step :: rest) := by
  rw [Precedes, places_append h]
  have further : document.places l ++ [] < document.places l ++ v.places (step :: rest) :=
    List.append_left_lt List.Lex.nil
  rwa [List.append_nil] at further

/-- The parts of a value come in the order of their places. -/
theorem precedes_beside (h : document.at? l = some v) {step step' : Step}
    (smaller : step.place v < step'.place v) : document.Precedes (l ++ [step]) (l ++ [step']) := by
  rw [Precedes, places_append h, places_append h]
  exact List.append_left_lt (List.Lex.rel smaller)

-- The order of the members counts, and not that of their names.
example : (object [("b", .array [.null]), ("a", .null)]).Precedes [.key "b", .index 0] [.key "a"] := by
  decide

end Json

end PathQuery
