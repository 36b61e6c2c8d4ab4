import Workflows.Proofs.Json.Quotes
import Workflows.Proofs.Json.Reading
import Workflows.Proofs.Text.Blank
import Workflows.Script.Report

/-!
# Results in a frame

* `Json.Written.parse?_line`: a document is read with a line end behind it as without it;
* `Script.parse?_behind_mark`: what stands behind a mark within a document is no document;
* `Script.readOutput_unmarked`, `Script.readOutput_marked`: what is found in the output of a script, whatever the
  script wrote itself;
* **`outcome_framed`**: the outcome of a script is the one that its result stands for, just where no mark occurs in
  the written form of the result and the result does not nest too deep.
-/

namespace Workflows

/-! ## Documents on a line -/

namespace Json

variable {v : Value} {cs : List Char} {text : String}

theorem isBlankChar_of_isSpace {c : Char} (blank : isSpace c) : Text.isBlankChar c := by
  obtain rfl | rfl | rfl | rfl := eq_of_isSpace blank <;> decide

theorem Numeral.visible (m : Numeral) : ∀ c ∈ m.chars, Text.isBlankChar c = false := fun c mem => by
  obtain digit | mark := m.of_mem_chars mem
  · have range : 48 ≤ c.toNat ∧ c.toNat ≤ 57 := by
      simpa [Decimal.isDigit, Char.le_def, UInt32.le_iff_toNat_le] using digit
    rw [Bool.eq_false_iff]
    simp only [Text.isBlankChar, ne_eq, Bool.or_eq_true, Bool.and_eq_true, decide_eq_true_eq]
    omega
  · have visible : ['-', '+', '.', 'e', 'E'].all (!Text.isBlankChar ·) := by decide
    simpa using List.all_eq_true.1 visible c mark

/-- A value is written without blanks at its ends. -/
theorem Writes.visible (writes : Writes (.value v) cs) : cs ≠ [] ∧
    (∀ c ∈ cs.head?, Text.isBlankChar c = false) ∧ ∀ c ∈ cs.getLast?, Text.isBlankChar c = false := by
  cases writes with
  | null | isTrue | isFalse =>
    refine ⟨List.cons_ne_nil _ _, ?_, ?_⟩ <;> rintro c ⟨⟩ <;> rfl
  | @number m n amount =>
    obtain ⟨c, tail, chars, -⟩ := m.exists_first
    exact ⟨by simp [chars], fun c mem => m.visible c (List.mem_of_mem_head? mem),
      fun c mem => m.visible c (List.mem_of_mem_getLast? mem)⟩
  | text | emptyList | list | emptyObject | object =>
    refine ⟨List.cons_ne_nil _ _, ?_, ?_⟩
    · rintro c ⟨⟩
      rfl
    · intro c mem
      rw [← List.cons_append, List.getLast?_concat] at mem
      cases mem
      rfl

theorem Writes.exists_core (writes : Writes (.padded v) cs) : ∃ lead core trail,
    Space lead ∧ Writes (.value v) core ∧ Space trail ∧ cs = lead ++ (core ++ trail) := by
  cases writes with
  | padded before core after => exact ⟨_, _, _, before, core, after, rfl⟩

/-- A document is read with a line end behind it as without it. -/
theorem Written.parse?_line (written : Written v text) :
    parse? (Text.trim (String.ofList (text.toList ++ ['\n']))) =
      if v.depth ≤ maxDepth then some v.canonical else none := by
  obtain ⟨lead, core, trail, before, writes, after, whole⟩ := Writes.exists_core written
  obtain ⟨some, first, last⟩ := writes.visible
  have line : Space (trail ++ ['\n']) := List.forall_mem_append.2 ⟨after, by simp [isSpace]⟩
  have trimmed : Text.trimChars (text.toList ++ ['\n']) = core := by
    rw [whole, List.append_assoc, List.append_assoc]
    exact Text.trimChars_append some (fun c mem => isBlankChar_of_isSpace (before c mem)) first last
      fun c mem => isBlankChar_of_isSpace (line c mem)
  have alone : Written v (String.ofList core) := by
    have none : Space [] := fun c mem => absurd mem List.not_mem_nil
    have padded : Writes (.padded v) ([] ++ (core ++ [])) := .padded none writes none
    rwa [Written, String.toList_ofList, ← List.append_nil core]
  rw [Text.trim, String.toList_ofList, trimmed, parse?, alone.read?]
  split <;> rfl

/-- Where a text that is read when it is trimmed ends, it is outside quotes. -/
theorem outside_of_parse? (read : parse? (Text.trim (String.ofList cs)) = some v) :
    Place.outside.after cs = some .outside := by
  have blanks {gap : List Char} (blank : ∀ c ∈ gap, Text.isBlankChar c) : Place.outside.after gap = some .outside :=
    Place.after_plain fun c mem => by
      refine ⟨?_, ?_, ?_⟩ <;> rintro rfl <;> cases blank _ mem
  obtain ⟨w, first, -⟩ := Option.map_eq_some_iff.1 read
  obtain ⟨lead, trail, whole, before, after⟩ := Text.exists_trimmed cs
  have inner := Writes.outside (written_of_read? first)
  rw [Text.trim, String.toList_ofList, String.toList_ofList] at inner
  rw [whole, Place.after_append, blanks before, Option.bind_some, Place.after_append, inner, Option.bind_some,
    blanks after]

end Json

namespace Script

open Json (Written)

variable {v : Value} {text : String} {pre post : List Char}

/-- The characters of the mark. -/
abbrev mark : List Char := resultMark.toList

theorem after_mark {p q : Json.Place} (step : p.after mark = some q) : q = Json.Place.quoted := by
  have ends : Json.Place.outside.after mark = none ∧ Json.Place.quoted.after mark = some .quoted ∧
      Json.Place.escaped.after mark = some .quoted := by decide
  cases p with
  | outside => rw [ends.1] at step; cases step
  | quoted => exact Option.some.inj (step.symm.trans ends.2.1)
  | escaped => exact Option.some.inj (step.symm.trans ends.2.2)

/-- **What stands behind a mark within a document is no document.** -/
theorem parse?_behind_mark (written : Written v text) (whole : text.toList = pre ++ (mark ++ post)) :
    Json.parse? (Text.trim (String.ofList (post ++ ['\n']))) = none := by
  rw [Option.eq_none_iff_forall_ne_some]
  intro w read
  have outside := Json.Writes.outside written
  rw [whole, Json.Place.after_append, Option.bind_eq_some_iff] at outside
  obtain ⟨p, -, outside⟩ := outside
  rw [Json.Place.after_append, Option.bind_eq_some_iff] at outside
  obtain ⟨q, step, outside⟩ := outside
  rw [after_mark step] at outside
  -- behind the mark the document goes on between quotes; a document of its own would start outside them
  refine Json.Place.quoted_after_ne (Json.outside_of_parse? read) ?_
  rw [Json.Place.after_append, outside]
  rfl

theorem toList_frame (u text : String) :
    (u ++ frame text).toList = u.toList ++ ['\n'] ++ (mark ++ (text.toList ++ ['\n'])) := by
  simp [frame, mark]

theorem mark_ne_nil : mark ≠ [] := by decide

theorem lineEnd_notMem_mark : '\n' ∉ mark := by decide

/-- A document starts with a character that is not in the mark. -/
theorem exists_first (written : Written v text) : ∃ c cs, text.toList = c :: cs ∧ c ∉ mark := by
  obtain ⟨c, tail, first, starts⟩ := Json.Writes.exists_first written []
  obtain ⟨lead, space, whole⟩ := Json.exists_space text.toList
  rw [List.append_nil] at first
  rw [first] at whole
  cases lead with
  | nil =>
    refine ⟨c, tail, whole, fun mem => ?_⟩
    have other : mark.all (!Json.starts ·) := by decide
    simpa [starts] using List.all_eq_true.1 other c mem
  | cons d lead =>
    refine ⟨d, _, whole, fun mem => ?_⟩
    have other : mark.all (!Json.isSpace ·) := by decide
    simpa [space d List.mem_cons_self] using List.all_eq_true.1 other d mem

/-- The mark of the frame is the last one where there is none in the document. -/
theorem isLast_frame (written : Written v text) (unmarked : ¬ mark <:+: text.toList) :
    Text.IsLast mark (text.toList ++ ['\n']) := by
  intro found
  rw [List.tail_append_of_ne_nil mark_ne_nil] at found
  obtain ⟨c, cs, whole, apart⟩ := exists_first written
  rw [whole, List.cons_append] at found
  -- a further mark would have to end before the document, or to lie in it
  obtain overlap | later := Text.infix_of_infix_apart apart found
  · have shorter := overlap.length_le
    rw [List.length_tail] at shorter
    have pos := List.length_pos_iff.2 mark_ne_nil
    omega
  · rw [whole] at unmarked
    exact unmarked (List.infix_cons (Text.infix_of_infix_concat lineEnd_notMem_mark later))

theorem afterLast?_of_isLast {u : String} {cs : List Char} (last : Text.IsLast mark cs)
    (whole : u.toList = pre ++ (mark ++ cs)) : Text.afterLast? resultMark u = some (String.ofList cs) := by
  rw [Text.afterLast?, whole, Text.afterLastFrom_of_isLast mark_ne_nil last]
  rfl

theorem readOutput_unmarked (u : String) (written : Written v text) (unmarked : ¬ mark <:+: text.toList) :
    readOutput (u ++ frame text) =
      if v.depth ≤ Json.maxDepth then outcomeOfResult v.canonical else .error .malformedResult := by
  rw [readOutput, afterLast?_of_isLast (isLast_frame written unmarked) (toList_frame u text)]
  dsimp only
  rw [written.parse?_line]
  by_cases fits : v.depth ≤ Json.maxDepth
  · rw [if_pos fits, if_pos fits]
  · rw [if_neg fits, if_neg fits]

theorem readOutput_marked (u : String) (written : Written v text) (marked : mark <:+: text.toList) :
    readOutput (u ++ frame text) = .error .malformedResult := by
  obtain ⟨pre, post, whole, last⟩ := Text.exists_isLast mark_ne_nil marked
  have last' : Text.IsLast mark (post ++ ['\n']) := fun found => by
    rw [← List.append_assoc, List.tail_append_of_ne_nil (List.append_ne_nil_of_left_ne_nil mark_ne_nil _)] at found
    exact last (Text.infix_of_infix_concat lineEnd_notMem_mark found)
  have cut : (u ++ frame text).toList = u.toList ++ ['\n'] ++ mark ++ pre ++ (mark ++ (post ++ ['\n'])) := by
    rw [toList_frame, whole]
    simp only [List.append_assoc]
  rw [readOutput, afterLast?_of_isLast last' cut]
  dsimp only
  rw [parse?_behind_mark written whole]

/-- A mark that occurs in a document stands in a text or a name. -/
theorem exists_text (written : Written v text) (marked : mark <:+: text.toList) :
    ∃ s ∈ v.texts, mark <:+: s.toList := by
  have start : mark = '_' :: mark.tail := by decide
  have apart : Json.marks.all (!mark.contains ·) := by decide
  rw [start] at marked apart ⊢
  refine Json.Writes.exists_text written (fun c mem => ?_) marked
  simpa using List.all_eq_true.1 apart c mem

/-- A result that is read has an outcome or does not fit. -/
theorem outcomeOfResult_ne_malformed (v : Value) : outcomeOfResult v ≠ .error .malformedResult := by
  unfold outcomeOfResult
  split
  · exact nofun
  · dsimp only
    split <;> exact nofun
  · exact nofun

end Script

/-- **Which results come through their frame.** Whatever a script wrote itself, what is found is what its result
stands for, just where no mark occurs in the written form of the result and the result nests no deeper than what is
read. Otherwise there is no result to read. A mark that occurs stands in a text or a name of the result. What is
found is the outcome of the script where its interpreter has ended well and has not written too much. -/
theorem outcome_framed (u : String) {text : String} {v : Value} (written : Json.Written v text) :
    let stdout := u ++ Script.frame text
    let found := Script.readOutput stdout
    (∀ (r : ScriptRequest) (stderr : String), stdout.utf8ByteSize + stderr.utf8ByteSize ≤ r.maxOutputBytes →
      (ScriptEnding.exited 0 stdout stderr).outcome r = found) ∧
    (found = Script.outcomeOfResult v.canonical ↔ ¬ Script.mark <:+: text.toList ∧ v.depth ≤ Json.maxDepth) ∧
    (found ≠ Script.outcomeOfResult v.canonical → found = .error .malformedResult) ∧
    (Script.mark <:+: text.toList → ∃ s ∈ v.texts, Script.mark <:+: s.toList) := by
  intro stdout found
  have other := Script.outcomeOfResult_ne_malformed v.canonical
  refine ⟨fun r stderr within => ?_, ?_⟩
  · have held : r.exceeds stdout stderr = false := decide_eq_false (Nat.not_lt.2 within)
    simp only [ScriptEnding.outcome, held, Bool.false_eq_true, if_false, ne_eq, not_true_eq_false, found]
  by_cases marked : Script.mark <:+: text.toList
  · have lost : found = .error .malformedResult := Script.readOutput_marked u written marked
    rw [lost]
    exact ⟨iff_of_false other.symm fun ⟨unmarked, _⟩ => unmarked marked, fun _ => rfl,
      fun _ => Script.exists_text written marked⟩
  · have read := Script.readOutput_unmarked u written marked
    by_cases fits : v.depth ≤ Json.maxDepth
    · rw [if_pos fits] at read
      exact ⟨iff_of_true read ⟨marked, fits⟩, fun ne => absurd read ne, fun occurs => absurd occurs marked⟩
    · rw [if_neg fits] at read
      have lost : found = .error .malformedResult := read
      rw [lost]
      exact ⟨iff_of_false other.symm fun ⟨_, few⟩ => fits few, fun _ => rfl, fun occurs => absurd occurs marked⟩

/-- A script that writes marks of its own, and a result with parts of a mark in its texts. -/
theorem outcome_framed_marked_output :
    let r : ScriptRequest := ⟨"python3", "", .null, 30, 1024⟩
    let u := "__PROCFLOW_RESULT__false\n__PROCFLOW_"
    let text := " \x7b\"message\": \"RESULT__ \\u005f_PROCFLOW_RESULT__\", \"passed\" :false\x7d"
    let v := Value.object [("message", .text "RESULT__ __PROCFLOW_RESULT__"), ("passed", .bool false)]
    Json.Written v text ∧ (u ++ Script.frame text).utf8ByteSize + "".utf8ByteSize ≤ r.maxOutputBytes ∧
      (ScriptEnding.exited 0 (u ++ Script.frame text) "").outcome r = Script.outcomeOfResult v.canonical := by
  intro r u text v
  have written : Json.Written v text := (Json.read?_eq_some_iff.1 (by decide +kernel)).1
  have within : (u ++ Script.frame text).utf8ByteSize + "".utf8ByteSize ≤ r.maxOutputBytes := by decide +kernel
  obtain ⟨given, found, -⟩ := outcome_framed u written
  exact ⟨written, within, (given r "" within).trans (found.2 ⟨by decide +kernel, by decide +kernel⟩)⟩

/-- A message that holds the mark: the result is lost. -/
theorem outcome_marked_message :
    let r : ScriptRequest := ⟨"python3", "", .null, 30, 1024⟩
    let text := "\x7b\"passed\": true, \"message\": \"a __PROCFLOW_RESULT__ b\"\x7d"
    let v := Value.object [("passed", .bool true), ("message", .text "a __PROCFLOW_RESULT__ b")]
    Json.Written v text ∧ Script.outcomeOfResult v.canonical = .ok (.verdict true "a __PROCFLOW_RESULT__ b") ∧
      (ScriptEnding.exited 0 (Script.frame text) "").outcome r = .error .malformedResult := by
  intro r text v
  exact ⟨(Json.read?_eq_some_iff.1 (by decide +kernel)).1, by decide +kernel, by decide +kernel⟩

end Workflows
