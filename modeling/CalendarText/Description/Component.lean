/-
The component that the body of a pair of brackets describes.

A body is a line of words parted by blanks.  The first word names a kind, each further one is a
modifier of that kind; a later modifier overrides an earlier one for the same option.

* `words`: the words of a body, each with the place where it begins;
* `component`: the component, or the first flaw from the left.
-/
import CalendarText.Component.Basic
import CalendarText.Description.Error
import CalendarText.Text.Blank
import CalendarText.Text.Utf8

namespace CalendarText.Description

/-- A word, and the place where it begins. -/
structure Word where
  start : Nat
  text : Octets
  deriving DecidableEq, Repr

/-- An octet in front of words.  It lengthens the first word, if that begins right behind it. -/
def prepend (place : Nat) (b : UInt8) : List Word → List Word
  | [] => [⟨place, [b]⟩]
  | w :: words =>
    if w.start = place + 1 then ⟨place, b :: w.text⟩ :: words
    else ⟨place, [b]⟩ :: w :: words

/-- The words of a text that begins at a place. -/
def words : (place : Nat) → Octets → List Word
  | _, [] => []
  | place, b :: rest =>
    if Blank.ofDescription b then words (place + 1) rest
    else prepend place b (words (place + 1) rest)

/-- The modifiers of a kind that some words stand for. -/
def modifiers (k : Kind) : List Word → Except DescriptionError (List Modifier)
  | [] => .ok []
  | w :: words =>
    match k.modifier? w.text with
    | none => .error ⟨.unknownModifier (Utf8.decodeLossy w.text), w.start⟩
    | some m => (modifiers k words).map (m :: ·)

/-- The component that a body describes.  The body begins at `place`. -/
def component (place : Nat) (body : Octets) : Except DescriptionError Component :=
  match words place body with
  | [] => .error ⟨.missingName, place + body.length⟩
  | name :: options =>
    match Kind.ofOctets? name.text with
    | none => .error ⟨.unknownComponent (Utf8.decodeLossy name.text), name.start⟩
    | some k => (modifiers k options).map (Component.ofModifiers k)

/-! ### Words -/

/-- Blanks in front of words are skipped. -/
theorem words_blank {b : UInt8} (h : Blank.ofDescription b = true) (place : Nat) (rest : Octets) :
    words place (b :: rest) = words (place + 1) rest := by
  simp [words, h]

/-- A word is not empty, holds no blank, and begins within the text. -/
theorem words_spec {place : Nat} {text : Octets} {w : Word} (h : w ∈ words place text) :
    w.text ≠ [] ∧ (∀ b ∈ w.text, Blank.ofDescription b = false) ∧ place ≤ w.start ∧
      w.start + w.text.length ≤ place + text.length := by
  induction text generalizing place w with
  | nil => simp [words] at h
  | cons b rest ih =>
    by_cases hb : Blank.ofDescription b = true
    · rw [words_blank hb] at h
      obtain ⟨h₁, h₂, h₃, h₄⟩ := ih h
      exact ⟨h₁, h₂, by omega, by simp; omega⟩
    · simp only [words, hb, if_false, Bool.false_eq_true] at h
      rw [Bool.not_eq_true] at hb
      have single : w = ⟨place, [b]⟩ → w.text ≠ [] ∧
          (∀ b ∈ w.text, Blank.ofDescription b = false) ∧ place ≤ w.start ∧
            w.start + w.text.length ≤ place + (b :: rest).length := by
        rintro rfl
        simp [hb]
      have later : w ∈ words (place + 1) rest → w.text ≠ [] ∧
          (∀ b ∈ w.text, Blank.ofDescription b = false) ∧ place ≤ w.start ∧
            w.start + w.text.length ≤ place + (b :: rest).length := by
        intro hw
        obtain ⟨h₁, h₂, h₃, h₄⟩ := ih hw
        exact ⟨h₁, h₂, by omega, by simp; omega⟩
      generalize hws : words (place + 1) rest = ws at h later
      cases ws with
      | nil => exact single (by simpa [prepend] using h)
      | cons v ws =>
        simp only [prepend] at h
        split at h
        · rename_i start
          rcases List.mem_cons.mp h with rfl | h
          · obtain ⟨-, h₂, -, h₄⟩ := ih (hws ▸ List.mem_cons_self : v ∈ words (place + 1) rest)
            refine ⟨by simp, ?_, by simp, ?_⟩
            · intro c hc
              rcases List.mem_cons.mp hc with rfl | hc
              · exact hb
              · exact h₂ c hc
            · simp only [List.length_cons]
              omega
          · exact later (by simp [h])
        · rcases List.mem_cons.mp h with rfl | h
          · exact single rfl
          · exact later h

end CalendarText.Description
