/-
The flaw that is reported of a description.

What is in front of the flaw compiles.  There a bracket opens that is never closed, or whose body
holds no name, the name of no component, or a word that is no modifier of its component.

* `Misspells`: a body is refused at a place for its first word that is wrong, or for having none;
* `component_eq_error_iff`: a body describes no component exactly when it is misspelled;
* `Refused`: a text begins with a bracket that is refused;
* `Denotes.compile_eq_error`: behind what compiles, a bracket that is refused is where it fails;
* `exists_denotes_refused`: where it fails, what is in front of a bracket that is refused compiles;
* `compile_eq_error_iff_refused`: a description fails exactly at the first bracket that is refused.
-/
import CalendarText.Proofs.Description.Grammar
import CalendarText.Proofs.Text.Utf8

namespace CalendarText

/-! ### Words that are no names -/

/-- A modifier as a word of text. -/
def Modifier.written (m : Modifier) : String :=
  m.key ++ ":" ++ m.choice

namespace Kind

lemma ascii_name (k : Kind) : ∀ ch ∈ k.name.toList, ch.toNat < 128 := by
  have all : k.name.toList.all (fun ch => ch.toNat < 128) = true := by
    cases k <;> rfl
  simpa only [List.all_eq_true, decide_eq_true_eq] using all

/-- Octets name no kind exactly when their text is the name of none. -/
lemma ofOctets?_eq_none_iff (w : Octets) :
    ofOctets? w = none ↔ ∀ k : Kind, Utf8.decodeLossy w ≠ k.name := by
  simp only [ne_eq, Utf8.decodeLossy_eq_iff (ascii_name _)]
  refine ⟨fun unknown k same => ?_, fun unknown => ?_⟩
  · rw [same, ofOctets?_name] at unknown
    cases unknown
  · cases found : ofOctets? w with
    | none => rfl
    | some k => exact absurd (name_of_ofOctets? found).symm (unknown k)

lemma ascii_written {k : Kind} {m : Modifier} (mem : m ∈ k.vocabulary) :
    ∀ ch ∈ m.written.toList, ch.toNat < 128 := by
  have all : (k.vocabulary.all fun n =>
      (n.key.toList ++ ':' :: n.choice.toList).all fun ch => ch.toNat < 128) = true := by
    cases k <;> rfl
  have letters : m.written.toList = m.key.toList ++ ':' :: m.choice.toList := by
    simp [Modifier.written]
  rw [letters]
  simpa only [List.all_eq_true, decide_eq_true_eq] using List.all_eq_true.mp all m mem

lemma ofAscii_written (m : Modifier) : Octets.ofAscii m.written = m.token := by
  simp [Modifier.written, Modifier.token, Octets.ofAscii]

/-- Octets are no modifier of a kind exactly when their text is none. -/
lemma modifier?_eq_none_iff (k : Kind) (w : Octets) :
    k.modifier? w = none ↔ ∀ m ∈ k.vocabulary, Utf8.decodeLossy w ≠ m.written := by
  refine ⟨fun unknown m mem same => ?_, fun unknown => ?_⟩
  · rw [Utf8.decodeLossy_eq_iff (ascii_written mem), ofAscii_written] at same
    rw [same, modifier?_token mem] at unknown
    cases unknown
  · cases found : k.modifier? w with
    | none => rfl
    | some m =>
        obtain ⟨mem, rfl⟩ := token_of_modifier? found
        refine absurd ?_ (unknown m mem)
        rw [Utf8.decodeLossy_eq_iff (ascii_written mem), ofAscii_written]

end Kind

namespace Description

/-! ### Misspelled bodies -/

/-- A body that begins at a place is refused: it holds no word, its first word names no component,
or the first word behind a kind and modifiers of it is no such modifier. -/
inductive Misspells (place : Nat) : Octets → DescriptionError → Prop
  | noName {body : Octets} (blank : Blanks body) :
      Misspells place body ⟨.missingName, (place + body.length : Nat)⟩
  | name {lead w rest : Octets} (blank : Blanks lead) (word : IsWord w) (ends : EndsWord rest)
      (unknown : ∀ k : Kind, Utf8.decodeLossy w ≠ k.name) :
      Misspells place (lead ++ (w ++ rest))
        ⟨.unknownComponent (Utf8.decodeLossy w), (place + lead.length : Nat)⟩
  | modifier {front gap w rest : Octets} {k : Kind} {ms : List Modifier}
      (spelled : Spells front k ms) (apart : gap ≠ []) (blank : Blanks gap) (word : IsWord w)
      (ends : EndsWord rest) (unknown : ∀ m ∈ k.vocabulary, Utf8.decodeLossy w ≠ m.written) :
      Misspells place (front ++ (gap ++ (w ++ rest)))
        ⟨.unknownModifier (Utf8.decodeLossy w), (place + front.length + gap.length : Nat)⟩

lemma endsWord_append {gap : Octets} (apart : gap ≠ []) (blank : Blanks gap) (text : Octets) :
    EndsWord (gap ++ text) := by
  obtain ⟨c, gap, rfl⟩ := List.exists_cons_of_ne_nil apart
  rintro b ⟨⟩
  exact blank c (by simp)

/-- A text that ends words still ends them behind modifiers. -/
lemma Options.endsWord_append {k : Kind} {ms : List Modifier} {front text : Octets}
    (options : Options k ms front) (ends : EndsWord text) : EndsWord (front ++ text) := by
  cases front with
  | nil => exact ends
  | cons b front => exact fun c hc => options.endsWord c hc

/-- Words in front of a text that ends them are read as modifiers first. -/
lemma modifiers_append {k : Kind} {ms : List Modifier} {front text : Octets}
    (options : Options k ms front) (ends : EndsWord text) (place : Nat) :
    modifiers k (words place (front ++ text)) =
      (modifiers k (words (place + front.length) text)).map (ms ++ ·) := by
  -- option by option, each one moving the place by its gap and its token
  induction options generalizing place with
  | done blank =>
      rw [words_blanks blank]
      cases modifiers k (words _ text) <;> rfl
  | @token gap front m ms apart blank mem rest ih =>
      rw [List.append_assoc, List.append_assoc, words_blanks blank,
        words_append (token_spec mem).1 (rest.endsWord_append ends), modifiers,
        Kind.modifier?_token mem]
      dsimp only
      rw [ih]
      simp only [List.length_append, Nat.add_assoc]
      cases modifiers k (words _ text) <;> rfl

/-- Where reading modifiers fails there is a word behind modifiers that is none.  Each step cuts off
a word, so the induction is on the length of the text. -/
lemma exists_of_modifiers_eq_error {k : Kind} {text : Octets} {e : DescriptionError} {place : Nat}
    (ends : EndsWord text) (failed : modifiers k (words place text) = .error e) :
    ∃ front gap w rest ms, text = front ++ (gap ++ (w ++ rest)) ∧ Options k ms front ∧ gap ≠ [] ∧
      Blanks gap ∧ IsWord w ∧ EndsWord rest ∧ k.modifier? w = none ∧
      e = ⟨.unknownModifier (Utf8.decodeLossy w), (place + front.length + gap.length : Nat)⟩ := by
  -- words are taken off the front until one is no modifier
  induction hn : text.length using Nat.strongRecOn generalizing text place with
  | ind n ih =>
      rcases blanks_or_word text with blank | ⟨gap, w, rest, blank, word, stop, rfl⟩
      · rw [words_eq_nil blank] at failed
        cases failed
      · have apart := ne_nil_of_endsWord ends word
        rw [words_blanks blank, words_append word stop, modifiers] at failed
        dsimp only at failed
        split at failed
        · rename_i unknown
          cases failed
          exact ⟨[], gap, w, rest, [], rfl, .done (List.forall_mem_nil _), apart, blank, word, stop,
            unknown, rfl⟩
        · rename_i m known
          obtain ⟨mem, rfl⟩ := Kind.token_of_modifier? known
          have shorter : rest.length < n := by
            have := List.length_pos_iff.mpr word.1
            simp only [List.length_append] at hn
            omega
          -- a known word joins the options in front of the unknown one
          obtain ⟨front, inner, v, tail, ms, rfl, options, facts⟩ :=
            ih _ shorter stop (Outcome.map_eq_error_iff.mp failed) rfl
          refine ⟨gap ++ (m.token ++ front), inner, v, tail, m :: ms, by simp,
            .token apart blank mem options, ?_⟩
          simpa [Nat.add_assoc] using facts

/-- A body describes no component exactly when it is misspelled. -/
lemma component_eq_error_iff {place : Nat} {body : Octets} {e : DescriptionError} :
    component place body = .error e ↔ Misspells place body e := by
  refine ⟨fun failed => ?_, ?_⟩
  · -- no word at all, a first word that names nothing, or an unknown modifier
    rcases blanks_or_word body with blank | ⟨lead, w, rest, blank, word, ends, rfl⟩
    · rw [component, words_eq_nil blank] at failed
      cases failed
      exact .noName blank
    · rw [component, words_blanks blank, words_append word ends] at failed
      dsimp only at failed
      split at failed
      · rename_i unknown
        cases failed
        exact .name blank word ends ((Kind.ofOctets?_eq_none_iff w).mp unknown)
      · rename_i k named
        obtain rfl := Kind.name_of_ofOctets? named
        obtain ⟨front, gap, v, tail, ms, rfl, options, apart, gapBlank, solid, stop, unknown,
          rfl⟩ := exists_of_modifiers_eq_error ends (Outcome.map_eq_error_iff.mp failed)
        have spelled : Spells (lead ++ (Octets.ofAscii k.name ++ front)) k ms :=
          ⟨lead, front, blank, options, rfl⟩
        have misspelled : Misspells place _ _ :=
          .modifier spelled apart gapBlank solid stop ((Kind.modifier?_eq_none_iff k v).mp unknown)
        simpa [Nat.add_assoc] using misspelled
  · intro misspelled
    cases misspelled with
    | noName blank =>
        rw [component, words_eq_nil blank]
        rfl
    | name blank word ends unknown =>
        rw [component, words_blanks blank, words_append word ends]
        dsimp only
        rw [(Kind.ofOctets?_eq_none_iff _).mpr unknown]
    | @modifier _ gap w rest k ms spelled apart gapBlank word ends unknown =>
        obtain ⟨lead, front, blank, options, rfl⟩ := spelled
        have stop : EndsWord (gap ++ (w ++ rest)) := endsWord_append apart gapBlank _
        rw [List.append_assoc, List.append_assoc, component, words_blanks blank,
          words_append (name_spec k).1 (options.endsWord_append stop)]
        dsimp only
        rw [Kind.ofOctets?_name]
        dsimp only
        rw [modifiers_append options stop, words_blanks gapBlank, words_append word ends, modifiers,
          (Kind.modifier?_eq_none_iff k w).mpr unknown]
        simp [Except.map, Nat.add_assoc]

/-! ### The bracket that is refused -/

/-- A text that begins at a place opens a bracket that is refused: it is never closed, or its body
is misspelled. -/
inductive Refused (place : Nat) : Octets → DescriptionError → Prop
  | unclosed {behind : Octets} (first : behind.head? ≠ some openBracket)
      (never : closeBracket ∉ behind) : Refused place (openBracket :: behind) ⟨.unclosed, place⟩
  | body {body after : Octets} {e : DescriptionError} (first : body.head? ≠ some openBracket)
      (closed : closeBracket ∉ body) (misspelled : Misspells (place + 1) body e) :
      Refused place (openBracket :: (body ++ closeBracket :: after)) e

variable {place : Nat} {e : DescriptionError}

/-- The leaves of segments fail with the first one, or behind it. -/
lemma compileFrom_cons_eq_error_iff {s : Segment} {rest : List Segment} :
    compileFrom place (s :: rest) = .error e ↔ leaf place s = .error e ∨
      ∃ l, leaf place s = .ok l ∧ compileFrom (place + s.text.length) rest = .error e := by
  rw [compileFrom, Outcome.bind_eq_error_iff]
  refine or_congr_right (exists_congr fun l => and_congr_right fun _ => ?_)
  cases compileFrom (place + s.text.length) rest <;> simp [bind, Except.bind, pure, Except.pure]

/-- A bracket that is refused is where compiling fails. -/
lemma Refused.compileFrom {text : Octets} (refused : Refused place text e) :
    compileFrom place (segments text) = .error e := by
  cases refused with
  | unclosed first never =>
      rw [segments_unclosed first never]
      rfl
  | body first closed misspelled =>
      rw [segments_body first closed, compileFrom_cons_eq_error_iff, leaf]
      exact .inl (Outcome.map_eq_error_iff.mpr (component_eq_error_iff.mpr misspelled))

lemma Refused.endsRun {text : Octets} (refused : Refused place text e) : EndsRun text := by
  cases refused with
  | unclosed => exact fun b hb => (Option.some.inj hb).symm
  | body => exact fun b hb => (Option.some.inj hb).symm

lemma endsRun_of_append {before text : Octets} (ends : EndsRun (before ++ text)) :
    EndsRun before := by
  cases before with
  | nil => exact nofun
  | cons b before => exact fun c hc => ends c hc

/-- What compiles in front of a bracket is passed. -/
lemma Denotes.compileFrom_eq_error {before text : Octets} {leaves : List Leaf}
    (denotes : Denotes before leaves) (ends : EndsRun text)
    (failed : Description.compileFrom (place + before.length) (segments text) = .error e) :
    Description.compileFrom place (segments (before ++ text)) = .error e := by
  -- segment by segment, an error further back keeps its place in the whole text
  induction denotes generalizing place with
  | empty => exact failed
  | @run run rest leaves nonempty plain stop tail ih =>
      rw [List.append_assoc, segments_run nonempty plain (endsRun_append stop ends),
        compileFrom_cons_eq_error_iff]
      refine .inr ⟨_, rfl, ih ?_⟩
      simpa [Segment.text, Nat.add_assoc] using failed
  | doubled tail ih =>
      rw [List.cons_append, List.cons_append, segments_doubled, compileFrom_cons_eq_error_iff]
      refine .inr ⟨_, rfl, ih ?_⟩
      simpa [Segment.text, Nat.add_assoc, Nat.add_comm, Nat.add_left_comm] using failed
  | @component body rest k ms c leaves first closed spelled takes tail ih =>
      have read := (component_eq_ok_iff (place + 1)).mpr ⟨k, ms, spelled, takes⟩
      rw [bracketed_append, segments_body first closed, compileFrom_cons_eq_error_iff]
      refine .inr ⟨_, Outcome.map_eq_ok_iff.mpr ⟨c, read, rfl⟩, ih ?_⟩
      simpa [Segment.text, Nat.add_assoc, Nat.add_comm, Nat.add_left_comm] using failed

/-- Where compiling fails, it fails at the first bracket that is refused. -/
lemma exists_refused {description : Octets}
    (failed : compileFrom place (segments description) = .error e) :
    ∃ before text leaves, description = before ++ text ∧ Denotes before leaves ∧
      Refused (place + before.length) text e := by
  -- the first segment is refused here, or it is read and a later one is refused
  induction description using cutting generalizing place with
  | empty => cases failed
  | run run rest nonempty plain ends ih =>
      rw [segments_run nonempty plain ends, compileFrom_cons_eq_error_iff] at failed
      rcases failed with here | ⟨l, -, later⟩
      · cases here
      · obtain ⟨before, text, leaves, rfl, denotes, refused⟩ := ih later
        refine ⟨run ++ before, text, _, by simp,
          .run nonempty plain (endsRun_of_append ends) denotes, ?_⟩
        simpa [Segment.text, Nat.add_assoc] using refused
  | doubled rest ih =>
      rw [segments_doubled, compileFrom_cons_eq_error_iff] at failed
      rcases failed with here | ⟨l, -, later⟩
      · cases here
      · obtain ⟨before, text, leaves, rfl, denotes, refused⟩ := ih later
        refine ⟨openBracket :: openBracket :: before, text, _, rfl, .doubled denotes, ?_⟩
        simpa [Segment.text, Nat.add_assoc, Nat.add_comm, Nat.add_left_comm] using refused
  | body body rest first closed ih =>
      rw [segments_body first closed, compileFrom_cons_eq_error_iff] at failed
      rcases failed with here | ⟨l, read, later⟩
      · have misspelled := component_eq_error_iff.mp (Outcome.map_eq_error_iff.mp here)
        exact ⟨[], _, [], rfl, .empty, .body first closed misspelled⟩
      · obtain ⟨before, text, leaves, rfl, denotes, refused⟩ := ih later
        obtain ⟨c, made, -⟩ := Outcome.map_eq_ok_iff.mp read
        obtain ⟨k, ms, spelled, takes⟩ := (component_eq_ok_iff _).mp made
        refine ⟨openBracket :: (body ++ closeBracket :: before), text, _, by simp,
          .component first closed spelled takes denotes, ?_⟩
        simpa [Segment.text, Nat.add_assoc, Nat.add_comm, Nat.add_left_comm] using refused
  -- nothing stands behind an unclosed bracket, so the error is its own
  | unclosed body first never =>
      rw [segments_unclosed first never, compileFrom_cons_eq_error_iff] at failed
      rcases failed with here | ⟨l, here, -⟩
      · cases here
        exact ⟨[], _, [], rfl, .empty, .unclosed first never⟩
      · cases here

/-- A description that compiles, and a bracket that is refused behind it. -/
lemma Denotes.compile_eq_error {before text : Octets} {leaves : List Leaf}
    (denotes : Denotes before leaves) (refused : Refused before.length text e) :
    compile (before ++ text) = .error e := by
  have failed := refused.compileFrom
  rw [← Nat.zero_add before.length] at failed
  exact denotes.compileFrom_eq_error refused.endsRun failed

/-- A description that fails is one that compiles, and a bracket that is refused behind it. -/
lemma exists_denotes_refused {description : Octets} (failed : compile description = .error e) :
    ∃ before text leaves, description = before ++ text ∧ Denotes before leaves ∧
      Refused before.length text e := by
  obtain ⟨before, text, leaves, same, denotes, refused⟩ := exists_refused failed
  rw [Nat.zero_add] at refused
  exact ⟨before, text, leaves, same, denotes, refused⟩

/-- **The flaw that is reported is the leftmost one.**  A description fails exactly if a part of it
compiles and the bracket behind that part is refused: it is never closed, and the error is at the
bracket; or its body has no word, and the error is at the bracket that closes it; or the first word
of the body is the name of no component, or the first word behind a component and modifiers of it is
none of these, and the error is where that word begins and carries it as text. -/
theorem compile_eq_error_iff_refused (description : Octets) (e : DescriptionError) :
    compile description = .error e ↔ ∃ before text leaves, description = before ++ text ∧
      compile before = .ok leaves ∧ Refused before.length text e := by
  refine ⟨fun failed => ?_, ?_⟩
  · obtain ⟨before, text, leaves, same, denotes, refused⟩ := exists_denotes_refused failed
    exact ⟨before, text, leaves, same, compile_eq_ok_iff.mpr denotes, refused⟩
  · rintro ⟨before, text, leaves, rfl, compiled, refused⟩
    exact (compile_eq_ok_iff.mp compiled).compile_eq_error refused

/-- The first wrong word is blamed, and its text is decoded. -/
example : compile (Octets.ofAscii "[[a] [day  padding:x y]") =
    .error ⟨.unknownModifier "padding:x", 11⟩ := by
  decide +kernel

end Description

end CalendarText
