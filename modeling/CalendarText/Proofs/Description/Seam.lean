/-
Descriptions put together.

A description that compiles may stand in front of any other one: their leaves are put together, and
at the seam two runs of plain text become one.  What is wrong with the second description is wrong
with the whole, that much further behind.  What is wrong with the first one stays so whatever
follows, unless a bracket is only missing its end.

* `seam`, `join`: two leaves that meet, and the leaves of two descriptions put together;
* `Denotes.join`: two descriptions in a row denote their leaves, joined;
* `Refused.behind`, `Refused.append`: a bracket is refused behind another text, and in front of one;
* `compile_append`: compiling two descriptions in a row.
-/
import CalendarText.Proofs.Description.Flaw

namespace CalendarText

namespace Description

/-- Two leaves that meet: plain text is put together, and brackets stay single. -/
def seam : Leaf → Leaf → List Leaf
  | .literal s, .literal t =>
    if s = [openBracket] ∨ t = [openBracket] then [.literal s, .literal t] else [.literal (s ++ t)]
  | l, m => [l, m]

/-- The leaves of two descriptions, of which the last and the first one meet. -/
def join (as bs : List Leaf) : List Leaf :=
  match as.getLast?, bs with
  | some l, m :: bs => as.dropLast ++ seam l m ++ bs
  | _, _ => as ++ bs

/-! ### Leaves that meet -/

lemma join_nil (bs : List Leaf) : join [] bs = bs := by
  cases bs <;> rfl

/-- Leaves in front of the seam stay as they are. -/
lemma join_cons {l : Leaf} {as : List Leaf} (bs : List Leaf)
    (apart : as = [] → ∀ m, seam l m = [l, m]) : join (l :: as) bs = l :: join as bs := by
  cases as with
  | nil =>
      cases bs with
      | nil => rfl
      | cons m bs =>
          show [] ++ seam l m ++ bs = l :: join [] (m :: bs)
          rw [apart rfl m, join_nil]
          rfl
  | cons a as =>
      have last : (l :: a :: as).getLast? = (a :: as).getLast? := List.getLast?_cons_cons
      simp only [join, last]
      cases (a :: as).getLast? <;> cases bs <;> rfl

lemma Denotes.eq_nil {leaves : List Leaf} (denotes : Denotes [] leaves) : leaves = [] :=
  (Except.ok.inj (compile_eq_ok_iff.mpr denotes)).symm

lemma Denotes.text_eq_nil {text : Octets} (denotes : Denotes text []) : text = [] := by
  cases denotes
  rfl

/-- A run in front of what another description denotes. -/
lemma Denotes.run_join {text after : Octets} {bs : List Leaf} (nonempty : text ≠ [])
    (plain : openBracket ∉ text) (second : Denotes after bs) :
    Denotes (text ++ after) (join [.literal text] bs) := by
  -- a run is no literal that stands for a bracket, so the seam may merge it
  have single : text ≠ [openBracket] := by
    rintro rfl
    exact plain (by simp)
  -- only a run that follows grows together with this one
  cases second with
  | empty => exact .run nonempty plain nofun .empty
  | @run other rest leaves _ otherPlain ends tail =>
      have otherSingle : other ≠ [openBracket] := by
        rintro rfl
        exact otherPlain (by simp)
      have joined : join [.literal text] (.literal other :: leaves) =
          .literal (text ++ other) :: leaves := by
        simp [join, seam, single, otherSingle]
      rw [joined, ← List.append_assoc]
      exact .run (by simp [nonempty]) (by simp [plain, otherPlain]) ends tail
  | @doubled rest leaves tail =>
      have joined : join [.literal text] (.literal [openBracket] :: leaves) =
          .literal text :: .literal [openBracket] :: leaves := by
        simp [join, seam]
      rw [joined]
      exact .run nonempty plain (fun b hb => (Option.some.inj hb).symm) (.doubled tail)
  | component first closed spelled takes tail =>
      exact .run nonempty plain (fun b hb => (Option.some.inj hb).symm)
        (.component first closed spelled takes tail)

/-- Two descriptions in a row denote their leaves, joined. -/
lemma Denotes.join {before after : Octets} {as bs : List Leaf} (first : Denotes before as)
    (second : Denotes after bs) : Denotes (before ++ after) (Description.join as bs) := by
  induction first with
  | empty => rwa [List.nil_append, join_nil]
  | @run text rest leaves nonempty plain ends tail ih =>
      cases rest with
      | nil =>
          cases tail.eq_nil
          rw [List.append_nil]
          exact second.run_join nonempty plain
      | cons b rest =>
          -- there is more before the seam, which this run does not touch
          have leavesBehind : leaves ≠ [] := by
            rintro rfl
            cases tail.text_eq_nil
          rw [join_cons _ fun none => absurd none leavesBehind, List.append_assoc]
          exact .run nonempty plain (fun c hc => ends c hc) ih
  | doubled tail ih =>
      rw [join_cons _ fun _ m => by cases m <;> simp [seam]]
      exact .doubled ih
  | @component body rest k ms c leaves opens closed spelled takes tail ih =>
      rw [join_cons _ fun _ m => by cases m <;> rfl, bracketed_append]
      exact .component opens closed spelled takes ih

/-! ### Errors -/

variable {place : Nat} {text : Octets} {e : DescriptionError}

/-- What is misspelled is so at any place, with the place in its error. -/
lemma Misspells.behind (misspells : Misspells place text e) (n : Nat) :
    Misspells (n + place) text { e with index := e.index + n } := by
  cases misspells with
  | noName blank =>
      have moved : Misspells (n + place) _ _ := .noName blank
      simpa [Int.add_comm, Int.add_left_comm, Int.add_assoc] using moved
  | name blank word ends unknown =>
      have moved : Misspells (n + place) _ _ := .name blank word ends unknown
      simpa [Int.add_comm, Int.add_left_comm, Int.add_assoc] using moved
  | modifier spelled apart blank word ends unknown =>
      have moved : Misspells (n + place) _ _ := .modifier spelled apart blank word ends unknown
      simpa [Int.add_comm, Int.add_left_comm, Int.add_assoc] using moved

/-- A bracket that is refused is so behind any other text, with its place in the error. -/
lemma Refused.behind (refused : Refused place text e) (n : Nat) :
    Refused (n + place) text { e with index := e.index + n } := by
  cases refused with
  | unclosed first never =>
      have moved : Refused (n + place) _ _ := .unclosed first never
      simpa [Int.add_comm] using moved
  | body first closed misspelled =>
      exact .body first closed (by simpa [Nat.add_assoc] using misspelled.behind n)

/-- A bracket that is closed is refused whatever follows. -/
lemma Refused.append (refused : Refused place text e) (closed : e.flaw ≠ .unclosed)
    (after : Octets) : Refused place (text ++ after) e := by
  cases refused with
  | unclosed => exact absurd rfl closed
  | body first closed misspelled =>
      rw [bracketed_append]
      exact .body first closed misspelled

/-! ### Two descriptions in a row -/

/-- **Descriptions are compiled piece by piece.**  Behind a description that compiles, another one
compiles exactly if it does so by itself, and its leaves are then put behind those of the first one,
where plain text that meets becomes one run.  If it fails, it fails with the same flaw, at its place
behind the first one.  A description that fails for anything but a missing bracket at its end fails
in the same way whatever follows it. -/
theorem compile_append (a b : Octets) :
    (∀ as, compile a = .ok as →
      ((∃ leaves, compile (a ++ b) = .ok leaves) ↔ ∃ bs, compile b = .ok bs) ∧
      (∀ bs, compile b = .ok bs → compile (a ++ b) = .ok (join as bs)) ∧
      ∀ e, compile b = .error e →
        compile (a ++ b) = .error { e with index := e.index + a.length }) ∧
      ∀ e, compile a = .error e → e.flaw ≠ .unclosed → compile (a ++ b) = .error e := by
  -- the second text decides, and its errors move by the length of the first
  have passed {as bs : List Leaf} (first : compile a = .ok as) (second : compile b = .ok bs) :
      compile (a ++ b) = .ok (join as bs) :=
    compile_eq_ok_iff.mpr ((compile_eq_ok_iff.mp first).join (compile_eq_ok_iff.mp second))
  have failed {as : List Leaf} {e : DescriptionError} (first : compile a = .ok as)
      (second : compile b = .error e) :
      compile (a ++ b) = .error { e with index := e.index + a.length } := by
    obtain ⟨before, text, leaves, rfl, denotes, refused⟩ := exists_denotes_refused second
    have moved := refused.behind a.length
    rw [← List.length_append] at moved
    rw [← List.append_assoc]
    exact ((compile_eq_ok_iff.mp first).join denotes).compile_eq_error moved
  refine ⟨fun as first => ⟨⟨?_, ?_⟩, fun bs => passed first, fun e => failed first⟩, ?_⟩
  · rintro ⟨leaves, whole⟩
    cases second : compile b with
    | ok bs => exact ⟨bs, rfl⟩
    | error e => cases whole.symm.trans (failed first second)
  · rintro ⟨bs, second⟩
    exact ⟨_, passed first second⟩
  · -- any other flaw than an unclosed bracket is met before the second text begins
    intro e first closed
    obtain ⟨before, text, leaves, rfl, denotes, refused⟩ := exists_denotes_refused first
    rw [List.append_assoc]
    exact denotes.compile_eq_error (refused.append closed b)

/-- Plain text meets behind a doubled bracket and becomes one run, what is wrong behind it is found
further behind, and what is wrong in front stays so. -/
theorem compile_append_runs_meet :
    compile (Octets.ofAscii "[[at " ++ Octets.ofAscii "noon[[") =
        .ok [.literal [openBracket], .literal (Octets.ofAscii "at noon"),
          .literal [openBracket]] ∧
      compile (Octets.ofAscii "[[at " ++ Octets.ofAscii "[noon]") =
        .error ⟨.unknownComponent "noon", 6⟩ ∧
      compile (Octets.ofAscii "[ ]" ++ Octets.ofAscii "noon") = .error ⟨.missingName, 2⟩ := by
  have front : compile (Octets.ofAscii "[[at ") =
      .ok [.literal [openBracket], .literal (Octets.ofAscii "at ")] := by
    decide +kernel
  refine ⟨?_, ?_, ?_⟩
  · exact ((compile_append _ _).1 _ front).2.1
      [.literal (Octets.ofAscii "noon"), .literal [openBracket]] (by decide +kernel)
  · exact ((compile_append _ _).1 _ front).2.2 ⟨.unknownComponent "noon", 1⟩ (by decide +kernel)
  · exact (compile_append _ _).2 ⟨.missingName, 2⟩ (by decide +kernel) (by decide)

end Description

end CalendarText
