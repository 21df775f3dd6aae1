/-
The grammar of descriptions, against which compiling is exact.

A description is a row of runs of plain text, doubled opening brackets and components in brackets.
A run ends where the text ends or a bracket opens, so a row is cut in one way only.

* `Denotes`: the leaves that the grammar gives to a description;
* `cutting`: an induction over the first piece of a description;
* `compile_eq_ok_iff_denotes`: a description is compiled to the leaves that it denotes, and to
  nothing otherwise; blanks, the order of modifiers of different options, and modifiers that are
  overridden do not change them.
-/
import CalendarText.Proofs.Description.Words

namespace CalendarText

namespace Description

/-- A text in front of which a run ends: it is empty or begins with an opening bracket. -/
def EndsRun (text : Octets) : Prop :=
  ∀ b, text.head? = some b → b = openBracket

/-- The leaves that the grammar gives to a description. -/
inductive Denotes : Octets → List Leaf → Prop
  | empty : Denotes [] []
  | run {text rest : Octets} {leaves : List Leaf} (nonempty : text ≠ [])
      (plain : openBracket ∉ text) (ends : EndsRun rest) (tail : Denotes rest leaves) :
      Denotes (text ++ rest) (.literal text :: leaves)
  | doubled {rest : Octets} {leaves : List Leaf} (tail : Denotes rest leaves) :
      Denotes (openBracket :: openBracket :: rest) (.literal [openBracket] :: leaves)
  | component {body rest : Octets} {k : Kind} {ms : List Modifier} {c : Component}
      {leaves : List Leaf} (first : body.head? ≠ some openBracket) (closed : closeBracket ∉ body)
      (spelled : Spells body k ms) (takes : Takes c k ms) (tail : Denotes rest leaves) :
      Denotes (openBracket :: (body ++ closeBracket :: rest)) (.component c :: leaves)

lemma endsRun_append {rest after : Octets} (first : EndsRun rest) (second : EndsRun after) :
    EndsRun (rest ++ after) := by
  cases rest with
  | nil => exact second
  | cons b rest => exact fun c hc => first c hc

lemma bracketed_append (body rest after : Octets) :
    openBracket :: (body ++ closeBracket :: rest) ++ after =
      openBracket :: (body ++ closeBracket :: (rest ++ after)) := by
  simp

/-! ### Cutting off the first piece -/

lemma segmentsFrom_plain {text : Octets} (plain : openBracket ∉ text) (before rest : Octets) :
    segmentsFrom (.plain before) (text ++ rest) =
      segmentsFrom (.plain (text.reverse ++ before)) rest := by
  induction text generalizing before with
  | nil => rfl
  | cons b text ih =>
      rw [List.mem_cons, not_or] at plain
      rw [List.cons_append, segmentsFrom, if_neg (Ne.symm plain.1), ih plain.2]
      simp

lemma segmentsFrom_within {body : Octets} (closed : closeBracket ∉ body) (before rest : Octets) :
    segmentsFrom (.within before) (body ++ rest) =
      segmentsFrom (.within (body.reverse ++ before)) rest := by
  induction body generalizing before with
  | nil => rfl
  | cons b body ih =>
      rw [List.mem_cons, not_or] at closed
      rw [List.cons_append, segmentsFrom, if_neg (Ne.symm closed.1), ih closed.2]
      simp

/-- A run ends in front of a bracket and at the end of the text. -/
lemma segments_run {text rest : Octets} (nonempty : text ≠ []) (plain : openBracket ∉ text)
    (ends : EndsRun rest) : segments (text ++ rest) = .run text :: segments rest := by
  have run : closeRun text.reverse = [.run text] := by
    simp [closeRun, nonempty]
  rw [segments, segmentsFrom_plain plain, List.append_nil]
  cases rest with
  | nil => rw [segmentsFrom, run, segments, segmentsFrom, closeRun, if_pos rfl]
  | cons b rest =>
      obtain rfl := ends b rfl
      rw [segmentsFrom, if_pos rfl, run, segments, segmentsFrom, if_pos rfl, closeRun, if_pos rfl]
      rfl

lemma segments_doubled (rest : Octets) :
    segments (openBracket :: openBracket :: rest) = .doubled :: segments rest := by
  simp [segments, segmentsFrom, closeRun]

/-- An opened bracket, behind which no other one opens, leads to what stands within brackets. -/
lemma segments_opened {body : Octets} (first : body.head? ≠ some openBracket)
    (closed : closeBracket ∉ body) (nonempty : body ≠ []) (rest : Octets) :
    segments (openBracket :: (body ++ rest)) = segmentsFrom (.within body.reverse) rest := by
  cases body with
  | nil => exact absurd rfl nonempty
  | cons b body =>
      have opens : b ≠ openBracket := by simpa using first
      rw [List.mem_cons, not_or] at closed
      rw [segments, segmentsFrom, if_pos rfl, closeRun, if_pos rfl, List.nil_append,
        List.cons_append, segmentsFrom, if_neg opens, if_neg (Ne.symm closed.1),
        segmentsFrom_within closed.2, List.reverse_cons]

lemma segments_body {body : Octets} (first : body.head? ≠ some openBracket)
    (closed : closeBracket ∉ body) (rest : Octets) :
    segments (openBracket :: (body ++ closeBracket :: rest)) = .body body :: segments rest := by
  by_cases empty : body = []
  · subst empty
    simp [segments, segmentsFrom, closeRun, openBracket, closeBracket]
  · rw [segments_opened first closed empty, segmentsFrom, if_pos rfl, List.reverse_reverse,
      segments]

lemma segments_unclosed {body : Octets} (first : body.head? ≠ some openBracket)
    (closed : closeBracket ∉ body) : segments (openBracket :: body) = [.unclosed body] := by
  by_cases empty : body = []
  · subst empty
    rfl
  · have opened := segments_opened first closed empty []
    rw [List.append_nil] at opened
    rw [opened, segmentsFrom, List.reverse_reverse]

/-- Text up to the first place where an octet stands, if there is one. -/
lemma split_at (mark : UInt8) (text : Octets) :
    ∃ before rest, mark ∉ before ∧ (∀ b, rest.head? = some b → b = mark) ∧
      text = before ++ rest := by
  induction text with
  | nil => exact ⟨[], [], by simp, by simp, rfl⟩
  | cons b text ih =>
      by_cases h : b = mark
      · exact ⟨[], b :: text, by simp, by simp [h], rfl⟩
      · obtain ⟨before, rest, free, ends, rfl⟩ := ih
        exact ⟨b :: before, rest, by simp [free, Ne.symm h], ends, rfl⟩

/-- A property holds of every description once it holds of the empty one and of a bracket that is
never closed, and passes from a description to the one with a run, a doubled bracket or brackets
in front. -/
@[elab_as_elim]
theorem cutting {motive : Octets → Prop} (empty : motive [])
    (run : ∀ text rest, text ≠ [] → openBracket ∉ text → EndsRun rest → motive rest →
      motive (text ++ rest))
    (doubled : ∀ rest, motive rest → motive (openBracket :: openBracket :: rest))
    (body : ∀ body rest, body.head? ≠ some openBracket → closeBracket ∉ body → motive rest →
      motive (openBracket :: (body ++ closeBracket :: rest)))
    (unclosed : ∀ body, body.head? ≠ some openBracket → closeBracket ∉ body →
      motive (openBracket :: body))
    (description : Octets) : motive description := by
  induction hn : description.length using Nat.strongRecOn generalizing description with
  | ind n ih =>
      have shorter (rest : Octets) (less : rest.length < n) : motive rest := ih _ less rest rfl
      -- what stands in front of the first opening bracket is a run, if it is not empty
      obtain ⟨text, rest, plain, ends, rfl⟩ := split_at openBracket description
      by_cases nonempty : text = []
      · subst nonempty
        cases rest with
        | nil => exact empty
        | cons b rest =>
            obtain rfl : b = openBracket := ends b rfl
            -- a second bracket doubles the first one, anything else begins a body
            by_cases first : rest.head? = some openBracket
            · obtain ⟨rest, rfl⟩ := List.head?_eq_some_iff.mp first
              exact doubled rest (shorter rest (by simp at hn; omega))
            · obtain ⟨inner, tail, closed, stop, rfl⟩ := split_at closeBracket rest
              have innerFirst : inner.head? ≠ some openBracket := by
                intro h
                obtain ⟨inner, rfl⟩ := List.head?_eq_some_iff.mp h
                exact first rfl
              cases tail with
              | nil =>
                  rw [List.append_nil]
                  exact unclosed inner innerFirst closed
              | cons c tail =>
                  obtain rfl : c = closeBracket := stop c rfl
                  exact body inner tail innerFirst closed (shorter tail (by simp at hn; omega))
      · have pos := List.length_pos_iff.mpr nonempty
        exact run text rest nonempty plain ends (shorter rest (by simp at hn; omega))

/-! ### Compiling and the grammar -/

/-- The leaves of segments are the leaf of the first one and the leaves of the others. -/
lemma compileFrom_cons_eq_ok_iff {place : Nat} {s : Segment} {rest : List Segment}
    {leaves : List Leaf} :
    compileFrom place (s :: rest) = .ok leaves ↔ ∃ l others, leaf place s = .ok l ∧
      compileFrom (place + s.text.length) rest = .ok others ∧ l :: others = leaves := by
  rw [compileFrom, Outcome.bind_eq_ok_iff]
  constructor
  · rintro ⟨l, first, h⟩
    obtain ⟨others, later, same⟩ := Outcome.bind_eq_ok_iff.mp h
    exact ⟨l, others, first, later, Except.ok.inj same⟩
  · rintro ⟨l, others, first, later, rfl⟩
    exact ⟨l, first, Outcome.bind_eq_ok_iff.mpr ⟨others, later, rfl⟩⟩

lemma denotes_of_compileFrom {description : Octets} {place : Nat} {leaves : List Leaf}
    (compiled : compileFrom place (segments description) = .ok leaves) :
    Denotes description leaves := by
  -- cut by cut, at any place: only errors look at where a segment stands
  induction description using cutting generalizing place leaves with
  | empty =>
      obtain rfl : leaves = [] := (Except.ok.inj compiled).symm
      exact .empty
  | run text rest nonempty plain ends ih =>
      rw [segments_run nonempty plain ends] at compiled
      obtain ⟨l, others, first, later, rfl⟩ := compileFrom_cons_eq_ok_iff.mp compiled
      obtain rfl := Except.ok.inj first
      exact .run nonempty plain ends (ih later)
  | doubled rest ih =>
      rw [segments_doubled] at compiled
      obtain ⟨l, others, first, later, rfl⟩ := compileFrom_cons_eq_ok_iff.mp compiled
      obtain rfl := Except.ok.inj first
      exact .doubled (ih later)
  | body body rest opens closed ih =>
      rw [segments_body opens closed] at compiled
      obtain ⟨l, others, first, later, rfl⟩ := compileFrom_cons_eq_ok_iff.mp compiled
      obtain ⟨c, read, rfl⟩ := Outcome.map_eq_ok_iff.mp first
      obtain ⟨k, ms, spelled, takes⟩ := (component_eq_ok_iff _).mp read
      exact .component opens closed spelled takes (ih later)
  | unclosed body opens closed =>
      rw [segments_unclosed opens closed] at compiled
      obtain ⟨l, others, first, -⟩ := compileFrom_cons_eq_ok_iff.mp compiled
      exact nomatch first

lemma Denotes.compileFrom {description : Octets} {leaves : List Leaf}
    (denotes : Denotes description leaves) (place : Nat) :
    compileFrom place (segments description) = .ok leaves := by
  induction denotes generalizing place with
  | empty => rfl
  | run nonempty plain ends tail ih =>
      rw [segments_run nonempty plain ends]
      exact compileFrom_cons_eq_ok_iff.mpr ⟨_, _, rfl, ih _, rfl⟩
  | doubled tail ih =>
      rw [segments_doubled]
      exact compileFrom_cons_eq_ok_iff.mpr ⟨_, _, rfl, ih _, rfl⟩
  | component opens closed spelled takes tail ih =>
      rw [segments_body opens closed]
      have read := (component_eq_ok_iff (place + 1)).mpr ⟨_, _, spelled, takes⟩
      exact compileFrom_cons_eq_ok_iff.mpr
        ⟨_, _, Outcome.map_eq_ok_iff.mpr ⟨_, read, rfl⟩, ih _, rfl⟩

/-- A description is compiled to the leaves that it denotes, and to nothing otherwise. -/
lemma compile_eq_ok_iff {description : Octets} {leaves : List Leaf} :
    compile description = .ok leaves ↔ Denotes description leaves :=
  ⟨denotes_of_compileFrom, fun denotes => denotes.compileFrom 0⟩

/-! ### Descriptions in a row -/

/-- A text that begins with a bracket or is empty may follow a description. -/
lemma Denotes.append {before after : Octets} {as bs : List Leaf} (first : Denotes before as)
    (second : Denotes after bs) (ends : EndsRun after) :
    Denotes (before ++ after) (as ++ bs) := by
  induction first with
  | empty => exact second
  | @run text rest leaves nonempty plain stop tail ih =>
      rw [List.append_assoc]
      exact .run nonempty plain (endsRun_append stop ends) ih
  | doubled tail ih => exact .doubled ih
  | component opens closed spelled takes tail ih =>
      rw [bracketed_append]
      exact .component opens closed spelled takes ih

/-- No bracket closes in blanks. -/
lemma Blanks.closeBracket_notMem {gap : Octets} (blank : Blanks gap) : closeBracket ∉ gap := by
  intro h
  exact absurd (blank _ h) (by decide)

lemma Options.closeBracket_notMem {k : Kind} {ms : List Modifier} {text : Octets}
    (options : Options k ms text) : closeBracket ∉ text := by
  induction options with
  | done blank => exact blank.closeBracket_notMem
  | token apart blank mem rest ih =>
      simp [blank.closeBracket_notMem, (token_spec mem).2, ih]

/-- What a body spells keeps it apart from the brackets around it. -/
lemma Spells.brackets {body : Octets} {k : Kind} {ms : List Modifier}
    (spelled : Spells body k ms) :
    body.head? ≠ some openBracket ∧ closeBracket ∉ body := by
  obtain ⟨lead, options, blank, tokens, rfl⟩ := spelled
  obtain ⟨⟨nonempty, -⟩, noOpen, noClose⟩ := name_spec k
  constructor
  · intro h
    cases lead with
    | nil =>
        obtain ⟨b, name, same⟩ := List.exists_cons_of_ne_nil nonempty
        obtain rfl : b = openBracket := by simpa [same] using h
        exact noOpen (by simp [same])
    | cons b lead =>
        obtain rfl : b = openBracket := by simpa using h
        exact absurd (blank openBracket (by simp)) (by decide)
  · simp [blank.closeBracket_notMem, noClose, tokens.closeBracket_notMem]

/-- A component in brackets between two descriptions. -/
lemma denotes_between {before after body : Octets} {as bs : List Leaf} {k : Kind}
    {ms : List Modifier} {c : Component} (first : Denotes before as) (last : Denotes after bs)
    (spelled : Spells body k ms) (takes : Takes c k ms) :
    Denotes (before ++ openBracket :: (body ++ closeBracket :: after))
      (as ++ .component c :: bs) := by
  refine first.append (.component spelled.brackets.1 spelled.brackets.2 spelled takes last) ?_
  exact fun b hb => (Option.some.inj hb).symm

/-- **Compiling is exact for the grammar.**  A description is compiled to some leaves exactly when
the grammar gives it these leaves.  For a component between two descriptions only the kind and the
last modifier for each key matter, so bodies that agree in these can stand for each other: blanks
do not count, and neither does the order of different keys (`lastWith_swap`), nor a modifier in
front of another one with its key (`lastWith_overridden`). -/
theorem compile_eq_ok_iff_denotes :
    (∀ description leaves, compile description = .ok leaves ↔ Denotes description leaves) ∧
    ∀ before after first second as bs k ms ns, compile before = .ok as → compile after = .ok bs →
      Spells first k ms → Spells second k ns → (∀ key, lastWith key ms = lastWith key ns) →
      ∃ c, Takes c k ms ∧
        compile (before ++ openBracket :: (first ++ closeBracket :: after)) =
          .ok (as ++ .component c :: bs) ∧
        compile (before ++ openBracket :: (second ++ closeBracket :: after)) =
          .ok (as ++ .component c :: bs) := by
  refine ⟨fun _ _ => compile_eq_ok_iff, ?_⟩
  intro before after first second as bs k ms ns head tail spellsFirst spellsSecond agree
  rw [compile_eq_ok_iff] at head tail
  have mem : ∀ m ∈ ms, m ∈ k.vocabulary := by
    obtain ⟨-, options, -, tokens, -⟩ := spellsFirst
    exact tokens.mem_vocabulary
  have takes := takes_ofModifiers mem
  refine ⟨Component.ofModifiers k ms, takes, ?_, ?_⟩
  · exact compile_eq_ok_iff.mpr (denotes_between head tail spellsFirst takes)
  · exact compile_eq_ok_iff.mpr (denotes_between head tail spellsSecond (takes.congr agree))

/-- The hour of a clock of twelve, between a doubled bracket and a day, with a padding that is
overridden and with blanks all over. -/
theorem compile_eq_of_hour_spelled_twice :
    let before := Octets.ofAscii "at [["
    let after := Octets.ofAscii "[day]"
    let first := Octets.ofAscii "hour padding:zero repr:12 padding:none"
    let second := Octets.ofAscii "\t hour\npadding:none  repr:12 "
    let ms : List Modifier := [.padding .zero, .twelveHour true, .padding .none]
    let ns : List Modifier := [.padding .none, .twelveHour true]
    compile before = .ok [.literal (Octets.ofAscii "at "), .literal [openBracket]] ∧
      compile after = .ok [.component (.day .zero)] ∧
      Spells first .hour ms ∧ Spells second .hour ns ∧
      (∀ key, lastWith key ms = lastWith key ns) ∧
      ∃ c, Takes c .hour ms ∧
        compile (before ++ openBracket :: (first ++ closeBracket :: after)) =
          .ok ([.literal (Octets.ofAscii "at "), .literal [openBracket]] ++
            .component c :: [.component (.day .zero)]) ∧
        compile (before ++ openBracket :: (second ++ closeBracket :: after)) =
          .ok ([.literal (Octets.ofAscii "at "), .literal [openBracket]] ++
            .component c :: [.component (.day .zero)]) := by
  intro before after first second ms ns
  have head : compile before = .ok [.literal (Octets.ofAscii "at "), .literal [openBracket]] := by
    rfl
  have tail : compile after = .ok [.component (.day .zero)] := by
    rfl
  have spellsFirst : Spells first .hour ms := by
    have space : Blanks [32] := by decide
    refine ⟨[], _, by decide, ?_, rfl⟩
    refine .token (by decide) space (by decide) ?_
    refine .token (by decide) space (by decide) ?_
    refine .token (by decide) space (by decide) ?_
    exact .done (by decide : Blanks [])
  have spellsSecond : Spells second .hour ns := by
    refine ⟨[9, 32], _, by decide, ?_, rfl⟩
    refine .token (by decide) (by decide : Blanks [10]) (by decide) ?_
    refine .token (by decide) (by decide : Blanks [32, 32]) (by decide) ?_
    exact .done (by decide : Blanks [32])
  have agree : ∀ key, lastWith key ms = lastWith key ns := by
    intro key
    have later : Modifier.padding .none ∈ [Modifier.twelveHour true, .padding .none] := by simp
    have same : (Modifier.padding .none).key = (Modifier.padding .zero).key := rfl
    calc lastWith key ms
        _ = lastWith key [.twelveHour true, .padding .none] :=
          lastWith_overridden later same [] key
        _ = lastWith key ns := lastWith_swap (by decide) [] [] key
  exact ⟨head, tail, spellsFirst, spellsSecond, agree,
    compile_eq_ok_iff_denotes.2 _ _ _ _ _ _ _ _ _ head tail spellsFirst spellsSecond agree⟩

end Description

end CalendarText
