import Workflows.Proofs.Decimal.Digits
import Workflows.Proofs.Decimal.Order
import Workflows.Timeline

/-!
# The layout of charts

A chart has a line for every step, and every line has the same columns.

* `IsLabel`, `IsBar`, `IsRow`: a label of twelve characters, a field of fifty characters with a bar in it, and a
  line with both;
* `row_eq`: the row of a step is such a line, wherever its bar is to start and however long it is to be;
* `toList_chart`: a chart is made of lines;
* **`chart_layout`**: these are the rows of the steps, in order, between a heading and a total.
-/

namespace Workflows

namespace Timeline

/-! ## Columns -/

/-- The label of a step: its name with blanks behind it up to twelve characters, or the start of a longer name. -/
structure IsLabel (stepId label : List Char) : Prop where
  length : label.length = 12
  whole : stepId.length ≤ 12 → ∃ blanks, label = stepId ++ List.replicate blanks ' '
  cut : 12 < stepId.length → label = stepId.take 9 ++ ['.', '.', '.']

/-- A field of fifty characters: a bar of at least one sign that starts in a column, and blanks around it. -/
def IsBar (status : StepStatus) (blocking : Bool) (start : Nat) (field : List Char) : Prop :=
  ∃ further after, start + (further + 1) + after = 50 ∧
    field = List.replicate start ' ' ++ List.replicate further (fill status) ++
      [if blocking then '|' else fill status] ++ List.replicate after ' '

/-- A line with the label and the bar of a step. -/
def IsRow (stepId : String) (status : StepStatus) (blocking : Bool) (start : Nat) (line : List Char) : Prop :=
  ∃ label field rest, IsLabel stepId.toList label ∧ IsBar status blocking start field ∧
    line = label ++ [' ', '|'] ++ field ++ '|' :: rest

theorem toList_padEnd (width : Nat) (s : String) :
    (padEnd width s).toList = s.toList ++ List.replicate (width - s.toList.length) ' ' := by
  rw [padEnd, String.toList_append, String.toList_ofList, String.length_toList]

theorem isLabel_label (stepId : String) : IsLabel stepId.toList (label stepId).toList := by
  unfold label labelWidth
  rw [← String.length_toList]
  split
  · next short =>
    rw [toList_padEnd]
    refine ⟨?_, fun _ => ⟨_, rfl⟩, fun long => absurd short (Nat.not_le.2 long)⟩
    rw [List.length_append, List.length_replicate]
    omega
  · next long =>
    rw [String.toList_append, String.toList_ofList]
    refine ⟨?_, fun short => absurd short long, fun _ => rfl⟩
    rw [List.length_append, List.length_take]
    change min 9 _ + 3 = 12
    omega

/-- A bar starts in one of the first forty-nine columns or in the fiftieth, and it ends within the field. -/
theorem toList_bar (e : Entry) (start length : Nat) : ∃ further, min start 49 + (further + 1) ≤ 50 ∧
    (bar e start length).toList = List.replicate (min start 49) ' ' ++
      List.replicate further (fill e.status) ++ [if e.blocking then '|' else fill e.status] := by
  obtain ⟨further, width⟩ : ∃ n, min (max length 1) (50 - min start 49) = n + 1 :=
    ⟨_ - 1, (Nat.sub_add_cancel (by omega)).symm⟩
  refine ⟨further, by omega, ?_⟩
  have signs : (bar e start length).toList =
      let signs := List.replicate (min start 49) ' ' ++ List.replicate (further + 1) (fill e.status)
      if e.blocking then signs.dropLast ++ ['|'] else signs := by
    rw [← width]
    exact String.toList_ofList
  dsimp only at signs
  rw [signs, List.replicate_succ', ← List.append_assoc]
  cases e.blocking with
  | false => rfl
  | true => rw [if_pos rfl, if_pos rfl, List.dropLast_concat]

theorem length_bar_le (e : Entry) (start length : Nat) : (bar e start length).length ≤ chartWidth := by
  obtain ⟨further, within, signs⟩ := toList_bar e start length
  rw [← String.length_toList, signs]
  simp only [List.length_append, List.length_replicate, List.length_singleton]
  exact within

theorem isBar_bar (e : Entry) (start length : Nat) :
    IsBar e.status e.blocking (min start 49) (padEnd chartWidth (bar e start length)).toList := by
  obtain ⟨further, within, signs⟩ := toList_bar e start length
  refine ⟨further, 50 - (min start 49 + (further + 1)), by omega, ?_⟩
  rw [toList_padEnd, signs]
  simp only [List.length_append, List.length_replicate, List.length_singleton]
  rfl

/-! ## Lines -/

/-- A number is written without a line break. -/
theorem newline_not_mem_fixedText (places : Nat) (x : Float) : '\n' ∉ (Decimal.fixedText places x).toList := by
  have digits (n : Nat) : '\n' ∉ Decimal.padZeros (places + 1) (Nat.toDigits 10 n) := fun mem =>
    absurd ((Decimal.digits_zeros _).append (Decimal.digits_toDigits n) _ mem) (by decide)
  have sign : '\n' ∉ (if negativeSign x then "-" else "").toList := by split <;> decide
  unfold Decimal.fixedText
  split
  · decide
  dsimp only
  split
  · next finite =>
    specialize digits (Decimal.inUnits places (Binary.ofFloat x))
    generalize Decimal.padZeros (places + 1) _ = ds at digits
    have whole : '\n' ∉ ds.take (ds.length - places) := fun mem => digits (List.mem_of_mem_take mem)
    have rest : '\n' ∉ ds.drop (ds.length - places) := fun mem => digits (List.mem_of_mem_drop mem)
    rw [String.toList_append, String.toList_ofList, List.mem_append, List.mem_append, not_or, not_or]
    refine ⟨sign, whole, ?_⟩
    split
    · simp
    · simp [rest]
  · rw [String.toList_append, List.mem_append, not_or]
    exact ⟨sign, by decide⟩

theorem newline_not_mem_label {stepId label : List Char} (h : IsLabel stepId label) (unbroken : '\n' ∉ stepId) :
    '\n' ∉ label := by
  rcases Nat.lt_or_ge 12 stepId.length with long | short
  · rw [h.cut long, List.mem_append, not_or]
    exact ⟨fun mem => unbroken (List.mem_of_mem_take mem), by decide⟩
  · obtain ⟨blanks, rfl⟩ := h.whole short
    rw [List.mem_append, not_or]
    exact ⟨unbroken, fun mem => absurd (List.eq_of_mem_replicate mem) (by decide)⟩

theorem newline_not_mem_bar {status : StepStatus} {blocking : Bool} {start : Nat} {field : List Char}
    (h : IsBar status blocking start field) : '\n' ∉ field := by
  obtain ⟨further, after, -, rfl⟩ := h
  have sign : fill status ≠ '\n' := by cases status <;> decide
  have last : (if blocking then '|' else fill status) ≠ '\n' := by
    split
    · decide
    · exact sign
  simp [sign.symm, last.symm]

/-- **A row is one line with the columns of its step**, wherever the bar is to start and however long it is to be. -/
theorem row_eq (e : Entry) (start length : Nat) (unbroken : '\n' ∉ e.stepId.toList) :
    ∃ line, (row e start length).toList = line ++ ['\n'] ∧ '\n' ∉ line ∧
      IsRow e.stepId e.status e.blocking (min start 49) line := by
  have isLabel := isLabel_label e.stepId
  have isBar := isBar_bar e start length
  have numeral := newline_not_mem_fixedText 1 e.duration
  refine ⟨(label e.stepId).toList ++ [' ', '|'] ++ (padEnd chartWidth (bar e start length)).toList ++
    '|' :: (" (".toList ++ (millis e.duration).toList ++ [')']), ?_, ?_, _, _, _, isLabel, isBar, rfl⟩
  · simp [row]
  · simp [newline_not_mem_label isLabel unbroken, newline_not_mem_bar isBar, millis, numeral]

/-- Lines with an end behind each, and others after them. -/
theorem intercalate_append (lines rest : List (List Char)) (some : rest ≠ []) :
    ['\n'].intercalate (lines ++ rest) = lines.flatMap (· ++ ['\n']) ++ ['\n'].intercalate rest := by
  induction lines with
  | nil => rfl
  | cons line lines ih =>
    rw [List.cons_append, List.flatMap_cons, List.append_assoc, List.append_assoc, ← ih]
    have more : lines ++ rest ≠ [] := by simp [some]
    generalize lines ++ rest = others at more
    cases others with
    | nil => exact absurd rfl more
    | cons other others => simp [List.intercalate]

/-! ## Charts -/

theorem not_le_zero_of_pos {x : Float} (pos : 0.0 < x) : ¬ x ≤ 0.0 := by
  have zero : (0.0 : Float).toModel.unpack = .zero .positive := rfl
  change decide (((0.0 : Float).toModel.unpack.compare x.toModel.unpack == some .lt) = true) = true at pos
  change ¬ decide ((x.toModel.unpack.compare (0.0 : Float).toModel.unpack).any (·.isLE) = true) = true
  rw [zero] at pos ⊢
  generalize x.toModel.unpack = u at pos ⊢
  rcases u with ⟨_ | _⟩ | _ | s | ⟨_ | _, m, e, some⟩ <;> first | (cases pos; done) | nofun

variable {t : Timeline}

/-- Where time was spent, a chart has a row for every step. -/
theorem chart_of_pos (pos : 0.0 < t.total) : chart t =
    heading ++ String.join (t.map (rowOf (50.0 / t.total))) ++ "\nTotal: " ++ millis t.total ++ "\n" := by
  have some : t.isEmpty = false := by
    cases t with
    | nil => exact absurd pos (by decide)
    | cons => rfl
  have spent : decide (t.total ≤ 0.0) = false := decide_eq_false (not_le_zero_of_pos pos)
  unfold chart
  dsimp only
  rw [some, spent, Bool.or_false, if_neg Bool.false_ne_true]

/-- The row of a step without the line break at its end. -/
def lineOf (scale : Float) (e : Entry) : List Char := (rowOf scale e).toList.dropLast

theorem lineOf_eq (scale : Float) {e : Entry} (unbroken : '\n' ∉ e.stepId.toList) :
    (rowOf scale e).toList = lineOf scale e ++ ['\n'] ∧ '\n' ∉ lineOf scale e ∧
      ∃ start, IsRow e.stepId e.status e.blocking start (lineOf scale e) := by
  obtain ⟨line, whole, one, isRow⟩ := row_eq e (characters scale e.offset) (characters scale e.duration) unbroken
  have same : lineOf scale e = line := by
    unfold lineOf rowOf
    rw [whole, List.dropLast_concat]
  rw [same]
  exact ⟨whole, one, _, isRow⟩

/-- The lines of records are the rows of their steps. -/
theorem isRow_ofRecords (scale : Float) (origin : Time) {records : List StepRecord}
    (unbroken : ∀ r ∈ records, '\n' ∉ r.stepId.toList) :
    List.Forall₂ (fun r line => ∃ start, IsRow r.stepId r.status r.blocking start line) records
      ((ofRecords origin records).map (lineOf scale)) := by
  unfold ofRecords
  rw [List.forall₂_map_right_iff, List.forall₂_map_right_iff, List.forall₂_same]
  exact fun r mem => (lineOf_eq scale (e := entryOf origin r) (unbroken r mem)).2.2

/-- The lines of a chart, the last one being empty. -/
def chartLines (t : Timeline) : List (List Char) :=
  [] :: "Execution Timeline:".toList :: [] :: t.map (lineOf (50.0 / t.total)) ++
    [[], ("Total: " ++ millis t.total).toList, []]

/-- **A chart is made of lines.** -/
theorem toList_chart (pos : 0.0 < t.total) (unbroken : ∀ e ∈ t, '\n' ∉ e.stepId.toList) :
    (chart t).toList = ['\n'].intercalate (chartLines t) := by
  have rows : (String.join (t.map (rowOf (50.0 / t.total)))).toList =
      (t.map (lineOf (50.0 / t.total))).flatMap (· ++ ['\n']) := by
    rw [String.toList_join, List.flatMap_map, List.flatMap_map]
    exact List.flatMap_congr fun e mem => (lineOf_eq _ (unbroken e mem)).1
  have before := intercalate_append ([] :: "Execution Timeline:".toList :: [] :: t.map (lineOf (50.0 / t.total)))
    [[], ("Total: " ++ millis t.total).toList, []] (List.cons_ne_nil _ _)
  rw [chart_of_pos pos, chartLines, before]
  simp [rows, heading, List.intercalate]

theorem newline_not_mem_chartLines (unbroken : ∀ e ∈ t, '\n' ∉ e.stepId.toList) :
    ∀ line ∈ chartLines t, '\n' ∉ line := by
  have numeral := newline_not_mem_fixedText 1 t.total
  have rows : ∀ line ∈ t.map (lineOf (50.0 / t.total)), '\n' ∉ line :=
    List.forall_mem_map.2 fun e mem => (lineOf_eq _ (unbroken e mem)).2.1
  have total : '\n' ∉ ("Total: " ++ millis t.total).toList := by simp [millis, numeral]
  intro line mem
  rcases List.mem_append.1 mem with mem | mem
  · rcases List.mem_cons.1 mem with rfl | mem
    · simp
    rcases List.mem_cons.1 mem with rfl | mem
    · decide
    rcases List.mem_cons.1 mem with rfl | mem
    · simp
    · exact rows line mem
  · simp only [List.mem_cons, List.not_mem_nil, or_false] at mem
    rcases mem with rfl | rfl | rfl
    · simp
    · exact total
    · simp

/-- **The layout of charts.** A row is one line with its label and its bar, of which nothing is beyond the field,
wherever the bar is to start and however long it is to be; it starts within the field, so that there is room left. The
chart of an execution in which time was spent has one such line for every record, in order, between a heading and a
total. -/
theorem chart_layout :
    (fill .succeeded = '#' ∧ fill .failed = 'x') ∧
    (∀ (e : Entry) (start length : Nat), '\n' ∉ e.stepId.toList →
      min start (chartWidth - 1) < chartWidth ∧ (bar e start length).length ≤ chartWidth ∧
      ∃ line, (row e start length).toList = line ++ ['\n'] ∧ '\n' ∉ line ∧
        IsRow e.stepId e.status e.blocking (min start (chartWidth - 1)) line) ∧
    ∀ e : Execution, 0.0 < (ofExecution e).total → (∀ r ∈ e.records, '\n' ∉ r.stepId.toList) →
      ∃ rows, (chart (ofExecution e)).toList.splitOn '\n' = [] :: "Execution Timeline:".toList :: [] :: rows ++
          [[], ("Total: " ++ millis (ofExecution e).total).toList, []] ∧
        List.Forall₂ (fun r line => ∃ start, IsRow r.stepId r.status r.blocking start line) e.records rows := by
  refine ⟨⟨rfl, rfl⟩, fun e start length unbroken => ?_, fun e pos unbroken => ?_⟩
  · have inside : min start (chartWidth - 1) < chartWidth :=
      lt_of_le_of_lt (Nat.min_le_right _ _) (by decide)
    exact ⟨inside, length_bar_le e start length, row_eq e start length unbroken⟩
  · have unbroken' : ∀ entry ∈ ofExecution e, '\n' ∉ entry.stepId.toList :=
      List.forall_mem_map.2 unbroken
    refine ⟨(ofExecution e).map (lineOf (50.0 / (ofExecution e).total)), ?_, ?_⟩
    · rw [toList_chart pos unbroken']
      exact List.splitOn_intercalate _ (newline_not_mem_chartLines unbroken') (List.cons_ne_nil _ _)
    · exact isRow_ofRecords _ e.startedAt unbroken

namespace Sample

/-- A step that waited at the end of an execution, with a long name of which two letters are not ASCII. -/
def review : StepRecord :=
  ⟨"r1", "überprüfung-lang", .succeeded, true, true, none, none, none, ⟨4.5, by decide⟩, ⟨1, 0⟩, ⟨1, 0⟩⟩

/-- An execution with that step alone, a second after its start. -/
def reviewed : Execution where
  id := "e1"
  workflowId := "release"
  workflowName := "Release"
  status := .paused
  currentStep := some "überprüfung-lang"
  successes := 1
  failures := 0
  error := none
  startedAt := ⟨0, 0⟩
  finishedAt := none
  triggeredBy := none
  trigger := none
  entityType := "release"
  entityId := "1"
  entityName := none
  entity := {}
  records := [review]
  decisions := {}

end Sample

/-- The chart of the sample, and a row whose bar starts behind the field. -/
theorem chart_layout_review :
    (0.0 < (ofExecution Sample.reviewed).total ∧ '\n' ∉ Sample.review.stepId.toList) ∧
    (∃ rows, (chart (ofExecution Sample.reviewed)).toList.splitOn '\n' =
        [] :: "Execution Timeline:".toList :: [] :: rows ++
          [[], ("Total: " ++ millis (ofExecution Sample.reviewed).total).toList, []] ∧
      List.Forall₂ (fun r line => ∃ start, IsRow r.stepId r.status r.blocking start line) [Sample.review] rows) ∧
    ∃ line, (row (entryOf ⟨0, 0⟩ Sample.review) 70 0).toList = line ++ ['\n'] ∧ '\n' ∉ line ∧
      IsRow "überprüfung-lang" .succeeded true 49 line := by
  have spent : 0.0 < (ofExecution Sample.reviewed).total := by decide +kernel
  have unbroken : '\n' ∉ Sample.review.stepId.toList := by decide
  obtain ⟨-, rows, charts⟩ := chart_layout
  refine ⟨⟨spent, unbroken⟩, charts Sample.reviewed spent (List.forall_mem_singleton.2 unbroken), ?_⟩
  exact (rows (entryOf ⟨0, 0⟩ Sample.review) 70 0 unbroken).2.2

end Timeline

end Workflows
