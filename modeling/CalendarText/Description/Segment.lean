/-
The segments of a description.

A description is cut from left to right into runs of plain text, doubled opening brackets, and
bodies in brackets.  A bracket that is opened and never closed takes all that follows it.

* `segments_text`: the segments make up the description again, octet by octet;
* `segments_wellFormed`: a run is not empty and holds no opening bracket, a body does not begin
  with one and holds no closing bracket.
-/
import CalendarText.Text.Octets

namespace CalendarText.Description

/-- The octet `[`. -/
def openBracket : UInt8 := 91

/-- The octet `]`. -/
def closeBracket : UInt8 := 93

/-- A piece of a description. -/
inductive Segment where
  /-- plain text -/
  | run (text : Octets)
  /-- a doubled opening bracket, which stands for a single one -/
  | doubled
  /-- what stands between two brackets -/
  | body (text : Octets)
  /-- what follows a bracket that is never closed -/
  | unclosed (text : Octets)
  deriving DecidableEq, Repr

namespace Segment

/-- The segment as it stands in the description. -/
def text : Segment → Octets
  | run t => t
  | doubled => [openBracket, openBracket]
  | body t => openBracket :: t ++ [closeBracket]
  | unclosed t => openBracket :: t

/-- What every segment of a description obeys. -/
def WellFormed : Segment → Prop
  | run t => t ≠ [] ∧ openBracket ∉ t
  | doubled => True
  | body t => t.head? ≠ some openBracket ∧ closeBracket ∉ t
  | unclosed t => t.head? ≠ some openBracket ∧ closeBracket ∉ t

end Segment

/-- Where the cutting stands: in plain text, right behind an opening bracket, or within
brackets.  The octets of the segment under way are kept, the last one first. -/
inductive Place where
  | plain (before : Octets)
  | opened
  | within (before : Octets)
  deriving DecidableEq, Repr

/-- The run that ends here, if there is one. -/
def closeRun (before : Octets) : List Segment :=
  if before = [] then [] else [.run before.reverse]

/-- The segments of a text from a place on. -/
def segmentsFrom : Place → Octets → List Segment
  | .plain before, [] => closeRun before
  | .opened, [] => [.unclosed []]
  | .within before, [] => [.unclosed before.reverse]
  | .plain before, b :: rest =>
    if b = openBracket then closeRun before ++ segmentsFrom .opened rest
    else segmentsFrom (.plain (b :: before)) rest
  | .opened, b :: rest =>
    if b = openBracket then .doubled :: segmentsFrom (.plain []) rest
    else if b = closeBracket then .body [] :: segmentsFrom (.plain []) rest
    else segmentsFrom (.within [b]) rest
  | .within before, b :: rest =>
    if b = closeBracket then .body before.reverse :: segmentsFrom (.plain []) rest
    else segmentsFrom (.within (b :: before)) rest

/-- The segments of a description. -/
def segments (description : Octets) : List Segment :=
  segmentsFrom (.plain []) description

/-! ### Nothing is lost -/

/-- The part of the segment under way that has been passed. -/
def Place.text : Place → Octets
  | plain before => before.reverse
  | opened => [openBracket]
  | within before => openBracket :: before.reverse

theorem flatMap_text_closeRun (before : Octets) :
    (closeRun before).flatMap Segment.text = before.reverse := by
  by_cases h : before = []
  · simp [closeRun, h]
  · simp [closeRun, h, Segment.text]

theorem segmentsFrom_text (place : Place) (data : Octets) :
    (segmentsFrom place data).flatMap Segment.text = place.text ++ data := by
  induction data generalizing place with
  | nil =>
    cases place <;>
      simp [segmentsFrom, flatMap_text_closeRun, Segment.text, Place.text]
  | cons b rest ih =>
    cases place with
    | plain before =>
      by_cases h : b = openBracket
      · simp [segmentsFrom, h, flatMap_text_closeRun, ih, Place.text]
      · simp [segmentsFrom, h, ih, Place.text]
    | opened =>
      by_cases h : b = openBracket
      · simp [segmentsFrom, h, ih, Place.text, Segment.text]
      · by_cases hc : b = closeBracket
        · subst hc
          simp [segmentsFrom, h, ih, Place.text, Segment.text]
        · simp [segmentsFrom, h, hc, ih, Place.text]
    | within before =>
      by_cases hc : b = closeBracket
      · simp [segmentsFrom, hc, ih, Place.text, Segment.text]
      · simp [segmentsFrom, hc, ih, Place.text]

/-- The segments make up the description again. -/
theorem segments_text (description : Octets) :
    (segments description).flatMap Segment.text = description := by
  simpa [segments, Place.text] using segmentsFrom_text (.plain []) description

/-! ### What segments look like -/

/-- What the segment under way obeys so far. -/
def Place.WellFormed : Place → Prop
  | plain before => openBracket ∉ before
  | opened => True
  | within before =>
    before ≠ [] ∧ before.getLast? ≠ some openBracket ∧ closeBracket ∉ before

theorem wellFormed_closeRun {before : Octets} (h : openBracket ∉ before) :
    ∀ s ∈ closeRun before, s.WellFormed := by
  intro s hs
  by_cases hb : before = []
  · simp [closeRun, hb] at hs
  · simp only [closeRun, hb, if_false, List.mem_singleton] at hs
    subst hs
    exact ⟨by simpa using hb, by simpa using h⟩

theorem segmentsFrom_wellFormed (place : Place) (ok : place.WellFormed) (data : Octets) :
    ∀ s ∈ segmentsFrom place data, s.WellFormed := by
  induction data generalizing place with
  | nil =>
    cases place with
    | plain before => exact wellFormed_closeRun ok
    | opened => simp [segmentsFrom, Segment.WellFormed]
    | within before => simpa [segmentsFrom, Segment.WellFormed] using ok.2
  | cons b rest ih =>
    have fresh : (Place.plain []).WellFormed := by simp [Place.WellFormed]
    cases place with
    | plain before =>
      by_cases h : b = openBracket
      · simp only [segmentsFrom, h, if_true, List.mem_append]
        rintro s (hs | hs)
        · exact wellFormed_closeRun ok s hs
        · exact ih .opened trivial s hs
      · simp only [segmentsFrom, h, if_false]
        refine ih _ ?_
        simp only [Place.WellFormed, List.mem_cons, not_or] at ok ⊢
        exact ⟨Ne.symm h, ok⟩
    | opened =>
      by_cases h : b = openBracket
      · simp only [segmentsFrom, h, if_true, List.mem_cons]
        rintro s (rfl | hs)
        · trivial
        · exact ih _ fresh s hs
      · by_cases hc : b = closeBracket
        · rw [segmentsFrom, if_neg h, if_pos hc]
          intro s hs
          rcases List.mem_cons.mp hs with rfl | hs
          · simp [Segment.WellFormed]
          · exact ih _ fresh s hs
        · rw [segmentsFrom, if_neg h, if_neg hc]
          exact ih _ ⟨by simp, by simpa using h, by simpa using Ne.symm hc⟩
    | within before =>
      by_cases hc : b = closeBracket
      · simp only [segmentsFrom, hc, if_true, List.mem_cons]
        rintro s (rfl | hs)
        · simpa [Segment.WellFormed] using ok.2
        · exact ih _ fresh s hs
      · simp only [segmentsFrom, hc, if_false]
        obtain ⟨nonempty, first, closed⟩ := ok
        refine ih _ ⟨by simp, ?_, by simp [closed, Ne.symm hc]⟩
        cases before with
        | nil => exact absurd rfl nonempty
        | cons => simpa using first

/-- The segments of a description are well formed. -/
theorem segments_wellFormed (description : Octets) :
    ∀ s ∈ segments description, s.WellFormed :=
  segmentsFrom_wellFormed (.plain []) (by simp [Place.WellFormed]) description

end CalendarText.Description
