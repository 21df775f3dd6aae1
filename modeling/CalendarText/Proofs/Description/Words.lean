/-
The words of a body, and the component that they spell.

The words are described the other way round: a body is spelled by a kind and modifiers when it is
their words with blanks around and between them.  A word ends where the text ends or a blank
follows.

* `Spells`: the text of a kind and modifiers of it;
* `words_append`: a word that ends is cut off in front of the words that follow it;
* `Takes`: a component with, for each option, the last modifier that has the key of the option;
* `component_eq_ok_iff`: a body describes the component that takes the modifiers it spells.
-/
import CalendarText.Description.Compile
import Mathlib.Data.List.Induction
import CalendarText.Proofs.Outcome

namespace CalendarText

namespace Description

/-- Text of blanks alone. -/
def Blanks (text : Octets) : Prop :=
  ∀ b ∈ text, Blank.ofDescription b = true

instance (text : Octets) : Decidable (Blanks text) :=
  decidable_of_iff (text.all Blank.ofDescription = true) List.all_eq_true

/-- A text in front of which a word ends: it is empty or begins with a blank. -/
def EndsWord (text : Octets) : Prop :=
  ∀ b, text.head? = some b → Blank.ofDescription b = true

/-- The text of a word: it is not empty and holds no blank. -/
def IsWord (text : Octets) : Prop :=
  text ≠ [] ∧ ∀ b ∈ text, Blank.ofDescription b = false

instance (text : Octets) : Decidable (IsWord text) :=
  decidable_of_iff (text ≠ [] ∧ (text.all fun b => !Blank.ofDescription b) = true)
    (by simp [IsWord])

/-- The text of modifiers of a kind, each behind blanks, with blanks at the end. -/
inductive Options (k : Kind) : List Modifier → Octets → Prop
  | done {gap : Octets} (blank : Blanks gap) : Options k [] gap
  | token {gap text : Octets} {m : Modifier} {ms : List Modifier} (apart : gap ≠ [])
      (blank : Blanks gap) (mem : m ∈ k.vocabulary) (rest : Options k ms text) :
      Options k (m :: ms) (gap ++ (m.token ++ text))

/-- A body that holds the name of a kind, with blanks around it, and then modifiers of it. -/
def Spells (body : Octets) (k : Kind) (ms : List Modifier) : Prop :=
  ∃ lead options, Blanks lead ∧ Options k ms options ∧
    body = lead ++ (Octets.ofAscii k.name ++ options)

/-- Blanks stand in front of a word that does not begin where another one might go on. -/
lemma ne_nil_of_endsWord {gap w rest : Octets} (ends : EndsWord (gap ++ (w ++ rest)))
    (word : IsWord w) : gap ≠ [] := by
  rintro rfl
  obtain ⟨b, token, rfl⟩ := List.exists_cons_of_ne_nil word.1
  have blank := ends b rfl
  rw [word.2 b (by simp)] at blank
  cases blank

/-! ### Cutting off words -/

lemma words_blanks {gap : Octets} (blank : Blanks gap) (place : Nat) (text : Octets) :
    words place (gap ++ text) = words (place + gap.length) text := by
  induction gap generalizing place with
  | nil => rfl
  | cons b gap ih =>
      rw [List.cons_append, words_blank (blank b (by simp)), ih fun c hc => blank c (by simp [hc])]
      congr 1
      simp only [List.length_cons]
      omega

/-- Blanks alone hold no words. -/
lemma words_eq_nil {gap : Octets} (blank : Blanks gap) (place : Nat) : words place gap = [] := by
  simpa [words] using words_blanks blank place []

/-- In front of a text that ends a word, no word begins. -/
lemma prepend_words {text : Octets} (ends : EndsWord text) (place : Nat) (b : UInt8) :
    prepend place b (words (place + 1) text) = ⟨place, [b]⟩ :: words (place + 1) text := by
  cases text with
  | nil => rfl
  | cons c text =>
      rw [words_blank (ends c rfl)]
      cases h : words (place + 1 + 1) text with
      | nil => rfl
      | cons w ws =>
          obtain ⟨-, -, later, -⟩ := words_spec (h ▸ List.mem_cons_self : w ∈ words _ text)
          rw [prepend, if_neg (by omega)]

/-- A word that ends is cut off in front of the words that follow it. -/
lemma words_append {w text : Octets} (word : IsWord w) (ends : EndsWord text) (place : Nat) :
    words place (w ++ text) = ⟨place, w⟩ :: words (place + w.length) text := by
  obtain ⟨nonempty, solid⟩ := word
  -- the octets of the word are put in front of the word that they belong to, one by one
  induction w generalizing place with
  | nil => exact absurd rfl nonempty
  | cons b w ih =>
      have hb : Blank.ofDescription b = false := solid b (by simp)
      have unfolded : words place (b :: w ++ text) =
          prepend place b (words (place + 1) (w ++ text)) := by
        simp [words, hb]
      rw [unfolded]
      cases w with
      | nil => exact prepend_words ends place b
      | cons c w =>
          rw [ih (place + 1) (by simp) fun d hd => solid d (by simp [hd]), prepend, if_pos rfl]
          congr 2
          simp only [List.length_cons]
          omega

/-- A text holds blanks alone, or a first word behind blanks. -/
lemma blanks_or_word (text : Octets) :
    Blanks text ∨ ∃ gap w rest, Blanks gap ∧ IsWord w ∧ EndsWord rest ∧
      text = gap ++ (w ++ rest) := by
  have lead : Blanks (text.takeWhile Blank.ofDescription) := fun b hb =>
    List.all_eq_true.mp List.all_takeWhile b hb
  have split := List.takeWhile_append_dropWhile (p := Blank.ofDescription) (l := text)
  generalize hs : text.dropWhile Blank.ofDescription = solid at split
  cases solid with
  | nil => exact .inl (by rwa [← split, List.append_nil])
  | cons b solid =>
      have first : Blank.ofDescription b = false := by
        simpa [hs] using List.head?_dropWhile_not Blank.ofDescription text
      refine .inr ⟨_, (b :: solid).takeWhile fun c => !Blank.ofDescription c,
        (b :: solid).dropWhile fun c => !Blank.ofDescription c, lead, ⟨?_, ?_⟩, ?_, ?_⟩
      · simp [first]
      · intro c hc
        simpa using List.all_eq_true.mp List.all_takeWhile c hc
      · intro c hc
        have stop := List.head?_dropWhile_not (fun c => !Blank.ofDescription c) (b :: solid)
        rw [hc] at stop
        simpa using stop
      · rw [List.takeWhile_append_dropWhile, split]

/-! ### The words of a kind and its modifiers -/

/-- The tokens of a kind are words, and no bracket closes in them. -/
lemma token_spec {k : Kind} {m : Modifier} (mem : m ∈ k.vocabulary) :
    IsWord m.token ∧ closeBracket ∉ m.token := by
  have all : ∀ n ∈ k.vocabulary, IsWord n.token ∧ closeBracket ∉ n.token := by
    cases k <;> decide
  exact all m mem

/-- The names of kinds are words, and no bracket opens or closes in them. -/
lemma name_spec (k : Kind) :
    IsWord (Octets.ofAscii k.name) ∧
      openBracket ∉ Octets.ofAscii k.name ∧ closeBracket ∉ Octets.ofAscii k.name := by
  cases k <;> decide

/-- The text of modifiers ends the word in front of it. -/
lemma Options.endsWord {k : Kind} {ms : List Modifier} {text : Octets}
    (options : Options k ms text) : EndsWord text := by
  cases options with
  | done blank => exact fun b hb => blank b (List.mem_of_head? hb)
  | @token gap _ _ _ apart blank =>
      obtain ⟨c, gap, rfl⟩ := List.exists_cons_of_ne_nil apart
      intro b hb
      obtain rfl : c = b := by simpa using hb
      exact blank c (by simp)

/-- The modifiers of a text are from the vocabulary of the kind. -/
lemma Options.mem_vocabulary {k : Kind} {ms : List Modifier} {text : Octets}
    (options : Options k ms text) : ∀ m ∈ ms, m ∈ k.vocabulary := by
  induction options with
  | done => simp
  | token _ _ mem _ ih =>
      intro n hn
      obtain rfl | hn := List.mem_cons.mp hn
      · exact mem
      · exact ih n hn

/-- The words of the text of modifiers are read as these. -/
lemma modifiers_of_options {k : Kind} {ms : List Modifier} {text : Octets}
    (options : Options k ms text) (place : Nat) : modifiers k (words place text) = .ok ms := by
  induction options generalizing place with
  | done blank => rw [words_eq_nil blank, modifiers]
  | token apart blank mem rest ih =>
      rw [words_blanks blank, words_append (token_spec mem).1 rest.endsWord, modifiers,
        Kind.modifier?_token mem]
      exact Outcome.map_eq_ok_iff.mpr ⟨_, ih _, rfl⟩

/-- What is read as modifiers is a text of these.  Each step cuts off a word, so the induction is
on the length of the text. -/
lemma options_of_modifiers {k : Kind} {ms : List Modifier} {text : Octets} (ends : EndsWord text)
    {place : Nat} (read : modifiers k (words place text) = .ok ms) : Options k ms text := by
  -- by the length, since a gap and a word are taken off at once
  induction hn : text.length using Nat.strongRecOn generalizing text place ms with
  | ind n ih =>
      obtain blank | ⟨gap, w, rest, blank, word, restEnds, rfl⟩ := blanks_or_word text
      · rw [words_eq_nil blank, modifiers] at read
        obtain rfl := Except.ok.inj read
        exact .done blank
      · rw [words_blanks blank, words_append word restEnds, modifiers] at read
        dsimp only at read
        split at read
        · exact nomatch read
        · rename_i m known
          obtain ⟨mem, rfl⟩ := Kind.token_of_modifier? known
          obtain ⟨ns, readRest, rfl⟩ := Outcome.map_eq_ok_iff.mp read
          have shorter : rest.length < n := by
            have := List.length_pos_iff.mpr word.1
            simp only [List.length_append] at hn
            omega
          exact .token (ne_nil_of_endsWord ends word) blank mem
            (ih _ shorter restEnds readRest rfl)

/-- The words of a text are read as modifiers exactly when it is a text of these. -/
lemma modifiers_eq_ok_iff {k : Kind} {ms : List Modifier} {text : Octets} (ends : EndsWord text)
    (place : Nat) : modifiers k (words place text) = .ok ms ↔ Options k ms text :=
  ⟨options_of_modifiers ends, fun options => modifiers_of_options options place⟩

/-! ### The component that modifiers make -/

/-- The last of several modifiers that has a key. -/
def lastWith (key : String) (ms : List Modifier) : Option Modifier :=
  ms.reverse.find? fun m => m.key = key

/-- The component is of the kind and has, for each of its options, the last of the modifiers with
the key of the option, and the default when there is none. -/
def Takes (c : Component) (k : Kind) (ms : List Modifier) : Prop :=
  c.kind = k ∧ c.modifiers =
    (Component.ofKind k).modifiers.map fun d => (lastWith d.key ms).getD d

lemma lastWith_append (key : String) (ms ns : List Modifier) :
    lastWith key (ms ++ ns) = (lastWith key ns).or (lastWith key ms) := by
  rw [lastWith, List.reverse_append, List.find?_append, ← lastWith, ← lastWith]

lemma lastWith_singleton (key : String) (m : Modifier) :
    lastWith key [m] = if m.key = key then some m else none := by
  by_cases h : m.key = key <;> simp [lastWith, h]

/-- What is found last with a key has the key. -/
lemma key_of_lastWith {key : String} {ms : List Modifier} {m : Modifier}
    (found : lastWith key ms = some m) : m.key = key := by
  simpa using List.find?_some found

/-- The order of modifiers with different keys does not matter. -/
lemma lastWith_swap {m n : Modifier} (apart : m.key ≠ n.key) (before after : List Modifier)
    (key : String) :
    lastWith key (before ++ ([m] ++ [n]) ++ after) =
      lastWith key (before ++ ([n] ++ [m]) ++ after) := by
  have pair : lastWith key ([m] ++ [n]) = lastWith key ([n] ++ [m]) := by
    rw [lastWith_append, lastWith_append, lastWith_singleton, lastWith_singleton]
    by_cases first : m.key = key
    · rw [if_pos first, if_neg fun second => apart (first.trans second.symm)]
      rfl
    · rw [if_neg first, Option.or_none, Option.none_or]
  rw [lastWith_append, lastWith_append, pair, ← lastWith_append, ← lastWith_append]

/-- A modifier does not count in front of another one with its key. -/
lemma lastWith_overridden {m n : Modifier} {after : List Modifier} (later : n ∈ after)
    (same : n.key = m.key) (before : List Modifier) (key : String) :
    lastWith key (before ++ [m] ++ after) = lastWith key (before ++ after) := by
  rw [lastWith_append, lastWith_append, lastWith_append, lastWith_singleton]
  by_cases h : m.key = key
  · have found : (lastWith key after).isSome = true :=
      List.find?_isSome.mpr ⟨n, List.mem_reverse.mpr later, by simpa using same.trans h⟩
    rw [Option.or_of_isSome found, Option.or_of_isSome found]
  · rw [if_neg h, Option.none_or]

/-- A component with one option changed has the new modifier in the place of the one with its
key. -/
lemma modifiers_set {c : Component} {m : Modifier} (mem : m ∈ c.kind.vocabulary) :
    (c.set m).modifiers = c.modifiers.map fun d => if d.key = m.key then m else d := by
  cases c <;> cases m <;>
    first
    | rfl
    | simp [Component.kind, Kind.vocabulary, Kind.paddings, Kind.flags] at mem

/-- The component that modifiers make takes the last of them for each key. -/
lemma takes_ofModifiers {k : Kind} {ms : List Modifier} (mem : ∀ m ∈ ms, m ∈ k.vocabulary) :
    Takes (Component.ofModifiers k ms) k ms := by
  refine ⟨Component.kind_ofModifiers k ms, ?_⟩
  -- a modifier counts against those in front of it, so they are added at the back
  induction ms using List.reverseRecOn with
  | nil => simp [Component.ofModifiers, lastWith]
  | append_singleton ms m ih =>
      have set : Component.ofModifiers k (ms ++ [m]) = (Component.ofModifiers k ms).set m := by
        simp [Component.ofModifiers]
      have known : m ∈ (Component.ofModifiers k ms).kind.vocabulary := by
        rw [Component.kind_ofModifiers]
        exact mem m (by simp)
      rw [set, modifiers_set known, ih fun n hn => mem n (by simp [hn]), List.map_map]
      refine List.map_congr_left fun d _ => ?_
      have key : ((lastWith d.key ms).getD d).key = d.key := by
        cases found : lastWith d.key ms with
        | none => rfl
        | some n => exact key_of_lastWith found
      rw [Function.comp_apply, key, lastWith_append, lastWith_singleton]
      by_cases h : d.key = m.key
      · rw [if_pos h, if_pos h.symm]
        rfl
      · rw [if_neg h, if_neg (Ne.symm h), Option.none_or]

/-- Modifiers with the same last one for each key are taken alike. -/
lemma Takes.congr {c : Component} {k : Kind} {ms ns : List Modifier} (takes : Takes c k ms)
    (agree : ∀ key, lastWith key ms = lastWith key ns) : Takes c k ns := by
  obtain ⟨kind, modifiers⟩ := takes
  refine ⟨kind, modifiers.trans (List.map_congr_left fun d _ => ?_)⟩
  rw [agree d.key]

/-- There is one component that takes some modifiers. -/
lemma takes_iff {c : Component} {k : Kind} {ms : List Modifier}
    (mem : ∀ m ∈ ms, m ∈ k.vocabulary) : Takes c k ms ↔ c = Component.ofModifiers k ms := by
  constructor
  · intro takes
    obtain ⟨kind, modifiers⟩ := takes_ofModifiers mem
    have own := Component.ofModifiers_modifiers (Component.ofModifiers k ms)
    rw [kind, modifiers, ← takes.2] at own
    rw [← own, ← takes.1, Component.ofModifiers_modifiers]
  · rintro rfl
    exact takes_ofModifiers mem

/-- The words of a body name a kind and modifiers of it exactly when it is spelled by them, and
the component takes the modifiers. -/
lemma component_eq_ok_iff (place : Nat) {body : Octets} {c : Component} :
    component place body = .ok c ↔ ∃ k ms, Spells body k ms ∧ Takes c k ms := by
  constructor
  · intro read
    obtain blank | ⟨gap, w, rest, blank, word, ends, rfl⟩ := blanks_or_word body
    · rw [component, words_eq_nil blank] at read
      exact nomatch read
    · rw [component, words_blanks blank, words_append word ends] at read
      dsimp only at read
      split at read
      · exact nomatch read
      · rename_i k named
        obtain ⟨ms, readRest, rfl⟩ := Outcome.map_eq_ok_iff.mp read
        have options := (modifiers_eq_ok_iff ends _).mp readRest
        exact ⟨k, ms, ⟨gap, rest, blank, options, by rw [Kind.name_of_ofOctets? named]⟩,
          takes_ofModifiers options.mem_vocabulary⟩
  · rintro ⟨k, ms, ⟨gap, rest, blank, options, rfl⟩, takes⟩
    rw [component, words_blanks blank, words_append (name_spec k).1 options.endsWord]
    dsimp only
    rw [Kind.ofOctets?_name]
    exact Outcome.map_eq_ok_iff.mpr ⟨ms, (modifiers_eq_ok_iff options.endsWord _).mpr options,
      ((takes_iff options.mem_vocabulary).mp takes).symm⟩

end Description

end CalendarText
