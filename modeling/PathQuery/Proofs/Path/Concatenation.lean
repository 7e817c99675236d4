import PathQuery.Proofs.Path.Term
import PathQuery.Proofs.Path.Watched

/-!
# Texts of paths one behind another

The segments of a path may stand behind the text of another path, and then both are read as one path, with the
segments of the one behind those of the other. The first text has been read to its end, so what matters is
that its segments end in the same places when more text follows. A bare name is the longest run of its
characters, and no segment begins with one of them. Selectors end at their closing bracket, whatever stands
behind it, since all that is read in front of the bracket passes it as a place of the text. White space at the
end of the first text is passed over in front of the next segment.

## Main definitions

* `Reader.Stays` — a reader that ends with a value ends with the same one in front of more text.

## Main results

* `Grammar.upTo_selectors_stays` — selectors end at their closing bracket.
* `Grammar.grammar_segments_append` — segments in front of more text.
* `Path.read_append` — the text of a path in front of the segments of another one.
-/

namespace PathQuery

open Grammar Lexeme
open ReadError (Cause)

/-! ## Readers in front of more text -/

namespace Reader

variable {ε α β : Type} {p : Reader ε α} {s t w : List Char} {c : Char}

/-- If the reader ends with a value, it ends with the same one in front of the text `w`, and leaves that as
well. -/
def Stays (w : List Char) (p : Reader ε α) (s : List Char) : Prop :=
  ∀ a t, p s = .done a t → p (s ++ w) = .done a (t ++ w)

namespace Stays

theorem pure (a : α) : Stays w (pure a : Reader ε α) s := fun _ _ read => by
  cases read
  rfl

theorem fail (e : ε) : Stays w (fail e : Reader ε α) s := nofun

theorem bind {f : α → Reader ε β} (first : Stays w p s)
    (second : ∀ a t, p s = .done a t → Stays w (f a) t) : Stays w (p >>= f) s := by
  intro b u read
  obtain ⟨a, t, one, read⟩ := bind_eq_done_iff.1 read
  rw [bind_done (first a t one)]
  exact second a t one b u read

theorem map (f : α → β) (h : Stays w p s) : Stays w (f <$> p) s := h.bind fun a _ _ => pure (f a)

theorem skip_bind {f : Unit → Reader ε β} (h : Stays w (f ()) t) : Stays w (skip >>= f) (c :: t) := h

/-- A reader that needs another character. -/
theorem peek_needs {f : Option Char → Reader ε β} (needs : ∀ a t, f none [] ≠ .done a t)
    (cons : ∀ c t, s = c :: t → Stays w (f (some c)) (c :: t)) : Stays w (peek >>= f) s := by
  cases s with
  | nil => exact fun a t read => absurd read (needs a t)
  | cons c t => exact cons c t rfl

/-- White space is passed over by a reader that needs a character behind it. -/
theorem skipBlank_bind {f : Unit → Reader Cause β} (needs : ∀ a t, f () [] ≠ .done a t)
    (h : Stays w (f ()) (s.dropWhile isBlank)) : Stays w (skipBlank >>= f) s := by
  intro b u read
  rw [PathQuery.skipBlank_bind] at read ⊢
  cases front : s.dropWhile isBlank with
  | nil =>
    rw [front] at read
    exact absurd read (needs b u)
  | cons c t =>
    rw [front] at read h
    rw [List.dropWhile_append, front]
    exact h b u read

end Stays

end Reader

open Reader

variable {s t w : List Char}

namespace Lexeme

theorem readName_stays (hw : Stops isNameChar w) : Stays w readName s := by
  refine Stays.peek_needs nofun fun c t _ => ?_
  dsimp only
  split
  · refine Stays.map _ fun run u read => ?_
    rw [takeWhile_append_of_stops (hw.dropWhile_append _)]
    cases read
    rfl
  · exact Stays.fail _

end Lexeme

namespace Grammar

/-! ## Selectors -/

/-- In front of a comma or a closing bracket a selector stays the same, whatever stands behind the sign. -/
theorem selector_bind_stays {β : Type} {n : Nat} {f : Selector → Reader Cause β}
    (sign : ∀ one t b u, f one t = .done b u → ∃ c v, t.dropWhile isBlank = c :: v ∧ (c = ',' ∨ c = ']'))
    (behind : ∀ one t, Stays w (f one) t) : Stays w ((upTo n).selector >>= f) s := by
  intro b u read
  obtain ⟨one, t, first, read⟩ := bind_eq_done_iff.1 read
  obtain ⟨c, v, front, hc⟩ := sign one t b u read
  let place : Place := ⟨c, v, .inr hc⟩
  have closes : place.opens = false := by
    show opensSegment c = false
    rcases hc with rfl | rfl <;> rfl
  have whole : t = t.takeWhile isBlank ++ place.text := by
    rw [show place.text = t.dropWhile isBlank from front.symm, List.takeWhile_append_dropWhile]
  have watched : Watched place True (upTo n).selector _ s := selector_watched (watches_upTo n)
  have stays : (upTo n).selector (s ++ w) = .done one (t ++ w) := by
    rw [whole] at first ⊢
    exact watched.append closes first w
  rw [bind_done stays]
  exact behind one t b u read

theorem upTo_selectors_stays (n : Nat) : Stays w (upTo n).selectors s := by
  induction n generalizing s with
  | zero => exact Stays.fail _
  | succ n ih =>
    refine Stays.skipBlank_bind nofun (selector_bind_stays (fun one t b u read => ?_) fun one t =>
      Stays.skipBlank_bind nofun (Stays.peek_needs nofun fun c u _ => ?_))
    · rw [skipBlank_bind] at read
      cases front : t.dropWhile isBlank with
      | nil =>
        rw [front] at read
        cases read
      | cons c v =>
        refine ⟨c, v, rfl, ?_⟩
        by_contra other
        rw [not_or] at other
        simp [front, bind_apply, other] at read
    · dsimp only
      split
      · exact Stays.skip_bind (ih.map _)
      split
      · exact Stays.skip_bind (Stays.pure _)
      · exact Stays.fail _

theorem selectors_stays : Stays w grammar.selectors s := by
  intro a t read
  have deep := grammar_alikeBelow ((s ++ w).length + 1)
  have short : s.length < (s ++ w).length + 1 := by
    rw [List.length_append]
    omega
  rw [(deep.selectors s short).eq] at read
  rw [(deep.selectors (s ++ w) (Nat.lt_succ_self _)).eq]
  exact upTo_selectors_stays _ a t read

/-! ## Segments -/

theorem brackets_stays : Stays w grammar.brackets s := by
  refine Stays.skipBlank_bind nofun (Stays.peek_needs nofun fun c t _ => ?_)
  split
  · exact Stays.fail _
  · exact selectors_stays

theorem descendants_stays (hw : Stops isNameChar w) : Stays w grammar.descendants s := by
  refine Stays.peek_needs nofun fun c t _ => ?_
  dsimp only
  split
  · exact Stays.skip_bind (Stays.pure _)
  split
  · exact Stays.skip_bind (brackets_stays.map _)
  split
  · exact (readName_stays hw).map _
  · exact Stays.fail _

theorem member_stays (hw : Stops isNameChar w) : Stays w member s := by
  refine Stays.skipBlank_bind nofun (Stays.peek_needs nofun fun c t _ => ?_)
  split
  · exact Stays.skip_bind (Stays.pure _)
  · exact (readName_stays hw).map _

theorem segment_stays (hw : Stops isNameChar w) : Stays w grammar.segment s := by
  intro a t read
  cases s with
  | nil => cases read
  | cons c s =>
    by_cases point : c = '.'
    · subst point
      cases s with
      | nil => cases read
      | cons d u =>
        by_cases again : d = '.'
        · subst again
          exact descendants_stays hw a t read
        · have one (v : List Char) : grammar.segment ('.' :: d :: v) = member (d :: v) :=
            segment_member (by simpa using again)
          rw [one u] at read
          exact (one (u ++ w)).trans (member_stays hw a t read)
    by_cases bracket : c = '['
    · subst bracket
      exact brackets_stays a t read
    · simp [segment, bind_apply, List.isPrefixOf, Ne.symm point, point, bracket, expect] at read

/-- White space in front of a segment makes no difference. -/
theorem segments_congr {c : Char} {u : List Char} (opens : opensSegment c = true)
    (hs : s.dropWhile isBlank = c :: u) (ht : t.dropWhile isBlank = c :: u) :
    grammar.segments s = grammar.segments t := by
  have opened : (c :: u).head?.any opensSegment = true := opens
  rw [grammar_segments, segmentsRule_eq, segmentsRule_eq, hs, ht, if_pos opened, if_pos opened]

/-- Either no segment is opened, or one is read and the others behind it. -/
theorem segments_cases {a : List Segment} {r : List Char} (read : grammar.segments s = .done a r) :
    (a = [] ∧ r = s ∧ Stops opensSegment (s.dropWhile isBlank)) ∨
      ∃ c u first y more, s.dropWhile isBlank = c :: u ∧ opensSegment c = true ∧
        grammar.segment (c :: u) = .done first y ∧ y <:+ u ∧ grammar.segments y = .done more r ∧
        a = first :: more := by
  by_cases stops : Stops opensSegment (s.dropWhile isBlank)
  · rw [segments_none stops] at read
    cases read
    exact .inl ⟨rfl, rfl, stops⟩
  · obtain ⟨c, head, opens⟩ : ∃ c, (s.dropWhile isBlank).head? = some c ∧ opensSegment c = true := by
      simpa [Stops] using stops
    obtain ⟨u, front⟩ := List.head?_eq_some_iff.1 head
    have blank := dropWhile_of_not_blank (s := u) (isBlank_of_opensSegment opens)
    rw [segments_congr opens front blank, segments_some opens] at read
    obtain ⟨first, y, one, read⟩ := bind_eq_done_iff.1 read
    obtain ⟨more, others, rfl⟩ := map_eq_done_iff.1 read
    have past := (segment_alike (grammar_alikeBelow (u.length + 1)) opens (Nat.lt_succ_self _)).2
    rw [one] at past
    exact .inr ⟨c, u, first, y, more, front, opens, one, past, others, rfl⟩

/-- Segments are read in front of more text as they are read by themselves, if that does not begin with a
character of a name. -/
theorem grammar_segments_append (hw : Stops isNameChar w) {a : List Segment} {r : List Char}
    (read : grammar.segments s = .done a r) :
    grammar.segments (s ++ w) = (grammar.segments (r ++ w)).map (a ++ ·) := by
  -- A segment may take several characters, so the induction is on the number of those left.
  induction hn : s.length using Nat.strongRecOn generalizing s a with
  | _ n ih =>
    rcases segments_cases read with
      ⟨rfl, rfl, -⟩ | ⟨c, u, first, y, more, front, opens, one, past, others, rfl⟩
    · cases grammar.segments (r ++ w) <;> rfl
    · have shorter : y.length < n := by
        have := (List.dropWhile_suffix isBlank (l := s)).length_le
        have := past.length_le
        rw [front, List.length_cons] at *
        omega
      have behind : (s ++ w).dropWhile isBlank = c :: (u ++ w) := by
        rw [List.dropWhile_append, front]
        rfl
      have stays : grammar.segment (c :: (u ++ w)) = .done first (y ++ w) := segment_stays hw first y one
      rw [segments_congr opens behind (dropWhile_of_not_blank (isBlank_of_opensSegment opens)),
        segments_some opens, bind_done stays, map_apply, ih y.length shorter others rfl]
      cases grammar.segments (r ++ w) <;> rfl

end Grammar

namespace Path

/-- The text of a path in front of the segments of another one is the text of the path with the segments of
both. -/
theorem read_append {t s : String} {p q : Path} (ht : read t = .ok p) (hs : read ("$" ++ s) = .ok q) :
    read (t ++ s) = .ok ⟨p.segments ++ q.segments⟩ := by
  obtain ⟨t', r, whole, first, behind⟩ := read_eq_ok_iff.1 ht
  obtain ⟨s', r', whole', second, behind'⟩ := read_eq_ok_iff.1 hs
  obtain rfl : s.toList = s' := by
    rw [String.toList_append] at whole'
    exact (List.cons.inj whole').2
  have text : (t ++ s).toList = '$' :: (t' ++ s.toList) := by
    rw [String.toList_append, whole]
    rfl
  have blank : (r ++ s.toList).dropWhile isBlank = s.toList.dropWhile isBlank := by
    rw [List.dropWhile_append, behind]
    rfl
  have stops (h : Stops isNameChar (s.toList.dropWhile isBlank)) : Stops isNameChar s.toList :=
    stops_of_dropWhile (fun _ => isNameChar_of_isBlank) h
  rw [read_eq_ok_iff]
  rcases segments_cases second with ⟨none, rfl, -⟩ | ⟨c, u, -, -, -, front, opens, -, -, -, -⟩
  · -- Nothing but white space is added.
    have more : grammar.segments (r ++ s.toList) = .done [] (r ++ s.toList) :=
      segments_none (by rw [blank, behind']; exact Stops.nil)
    refine ⟨_, r ++ s.toList, text, ?_, blank.trans behind'⟩
    have name : Stops isNameChar s.toList := stops (by rw [behind']; exact Stops.nil)
    rw [grammar_segments_append name first, more, none]
    rfl
  · have more := segments_congr opens (blank.trans front) front
    refine ⟨_, r', text, ?_, behind'⟩
    have name : Stops isNameChar s.toList :=
      stops (by rw [front]; exact Stops.cons (isNameChar_of_opensSegment opens))
    rw [grammar_segments_append name first, more, second]
    rfl

/-- A filter and a bare name at the end of the first text, and white space on both sides. -/
theorem read_append_store :
    let p : Path := ⟨[[.name "store"], [.filter (.existence .current [[.name "isbn"]])], [.name "title"]]⟩
    let q : Path := ⟨[[.name "a"], [.descent (.name "b")]]⟩
    read "$.store[?@.isbn].title " = .ok p ∧ read ("$" ++ "\n.a..b ") = .ok q ∧
      read ("$.store[?@.isbn].title " ++ "\n.a..b ") = .ok ⟨p.segments ++ q.segments⟩ := by
  intro p q
  have first : read "$.store[?@.isbn].title " = .ok p := rfl
  have second : read ("$" ++ "\n.a..b ") = .ok q := rfl
  exact ⟨first, second, read_append first second⟩

end Path

end PathQuery
