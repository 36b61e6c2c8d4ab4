import Workflows.Proofs.Json.Grammar
import Workflows.Proofs.Text.Search

/-!
# Between quotes and outside

* `Json.Place`: where a character of a document stands; `Place.next`: where the next one stands;
* `Place.Apart`: of two readers one stands between quotes; `Apart.after`: and so it stays;
  `Place.quoted_after_ne`: characters that lead from outside to outside do not do so from between quotes;
* `Writes.outside`: what is written ends outside quotes, as it starts;
* `Value.texts`: the texts and names of a value; **`Writes.exists_text`**: a word that starts with a low line and
  occurs in what is written occurs in one of them.
-/

namespace Workflows

/-! ## Texts -/

namespace Value

mutual

/-- The texts of a value and the names of its members. -/
def texts : Value → List String
  | .text s => [s]
  | .list items => textsOfItems items
  | .object members => textsOfMembers members
  | _ => []

def textsOfItems : List Value → List String
  | [] => []
  | v :: rest => texts v ++ textsOfItems rest

def textsOfMembers : List (String × Value) → List String
  | [] => []
  | (k, v) :: rest => k :: texts v ++ textsOfMembers rest

end

end Value

namespace Json

/-- The texts and names in a part of a document. -/
def Part.texts : Part → List String
  | .value v | .padded v => v.texts
  | .items vs => Value.textsOfItems vs
  | .member k v => k :: v.texts
  | .members ms => Value.textsOfMembers ms

/-- Where a character stands: outside quotes, between them, or behind a backslash. -/
inductive Place where
  | outside
  | quoted
  | escaped
  deriving DecidableEq

namespace Place

/-- Where the next character stands. A backslash and a low line stand between quotes only. -/
def next : Place → Char → Option Place
  | outside, c => if c = '"' then some quoted else if c = '\\' || c = '_' then none else some outside
  | quoted, c => some (if c = '"' then outside else if c = '\\' then escaped else quoted)
  | escaped, _ => some quoted

/-- Where the character behind `cs` stands. -/
def after (p : Place) (cs : List Char) : Option Place := cs.foldlM next p

variable {cs ds : List Char} {p q : Place}

@[simp] theorem after_nil (p : Place) : p.after [] = some p := rfl

@[simp] theorem after_cons (p : Place) (c : Char) (cs : List Char) :
    p.after (c :: cs) = (p.next c).bind (·.after cs) := by
  rw [after, List.foldlM_cons]
  rfl

theorem after_append (p : Place) (cs ds : List Char) : p.after (cs ++ ds) = (p.after cs).bind (·.after ds) := by
  rw [after, List.foldlM_append]
  rfl

/-- Characters that lead nowhere where they stand outside quotes. -/
def Plain (c : Char) : Prop := c ≠ '"' ∧ c ≠ '\\' ∧ c ≠ '_'

theorem after_plain (plain : ∀ c ∈ cs, Plain c) : outside.after cs = some outside := by
  induction cs with
  | nil => rfl
  | cons c cs ih =>
    obtain ⟨quote, escape, line⟩ := plain c List.mem_cons_self
    have stays : outside.next c = some outside := by simp [next, quote, escape, line]
    rw [after_cons, stays, Option.bind_some, ih fun c mem => plain c (List.mem_cons_of_mem _ mem)]

/-- One of two characters stands between quotes and the other one outside. -/
def Apart (p q : Place) : Prop := (p = outside ∧ q = quoted) ∨ (p = quoted ∧ q = outside)

theorem Apart.symm (apart : Apart p q) : Apart q p := Or.symm (apart.imp And.symm And.symm)

/-- A backslash or a low line cannot be read outside quotes, a quote changes both places. -/
theorem Apart.next {c : Char} {p' q' : Place} (apart : Apart p q) (first : p.next c = some p')
    (second : q.next c = some q') : Apart p' q' := by
  have step {o i : Place} (out : outside.next c = some o) (inn : quoted.next c = some i) : Apart o i := by
    by_cases quote : c = '"'
    · simp only [Place.next, quote, if_true, Option.some.injEq] at out inn
      exact .inr ⟨out.symm, inn.symm⟩
    · by_cases escape : c = '\\'
      · subst escape
        cases out
      · simp only [Place.next, quote, escape, if_false, Option.some.injEq] at inn
        simp only [Place.next, quote, if_false, Option.ite_none_left_eq_some, Option.some.injEq] at out
        exact .inl ⟨out.2.symm, inn.symm⟩
  obtain ⟨rfl, rfl⟩ | ⟨rfl, rfl⟩ := apart
  · exact step first second
  · exact (step second first).symm

/-- Two readers of the same characters that start apart end apart. -/
theorem Apart.after (apart : Apart p q) {p' q' : Place} (first : p.after cs = some p')
    (second : q.after cs = some q') : Apart p' q' := by
  induction cs generalizing p q with
  | nil =>
    cases first
    cases second
    exact apart
  | cons c cs ih =>
    rw [after_cons] at first second
    obtain ⟨p₁, step, first⟩ := Option.bind_eq_some_iff.1 first
    obtain ⟨q₁, step', second⟩ := Option.bind_eq_some_iff.1 second
    exact ih (apart.next step step') first second

/-- **Characters that lead from outside to outside do not lead there from between quotes.** -/
theorem quoted_after_ne (first : outside.after cs = some outside) : quoted.after cs ≠ some outside := fun second => by
  obtain ⟨-, ⟨⟩⟩ | ⟨⟨⟩, -⟩ := Apart.after (.inl ⟨rfl, rfl⟩) first second

end Place

/-! ## What is written -/

variable {cs s : List Char} {part : Part}

theorem plain_of_hex4? {a b c d : Char} {n : Nat} (hex : hex4? a b c d = some n) :
    ∀ x ∈ [a, b, c, d], Place.Plain x := by
  have digit {x : Char} {k : Nat} (hex : hexValue? x = some k) : Place.Plain x := by
    refine ⟨?_, ?_, ?_⟩ <;> rintro rfl <;> cases hex
  simp only [hex4?, Option.bind_eq_bind, Option.bind_eq_some_iff] at hex
  obtain ⟨_, first, _, second, _, third, _, fourth, -⟩ := hex
  simpa using ⟨digit first, digit second, digit third, digit fourth⟩

/-- A spelled text ends between the quotes that it stands between. -/
theorem Spells.quoted (spells : Spells cs s) : Place.quoted.after cs = some .quoted := by
  induction spells with
  | nil => rfl
  | plain quote escape visible next ih => simp [Place.next, quote, escape, ih]
  | letter stands next ih => simp [Place.next, ih]
  | code hex high low next ih =>
    have digits := plain_of_hex4? hex
    simp only [List.forall_mem_cons, Place.Plain] at digits
    simp [Place.next, digits, ih]
  | codes hex high hex' low next ih =>
    have digits := plain_of_hex4? hex
    have digits' := plain_of_hex4? hex'
    simp only [List.forall_mem_cons, Place.Plain] at digits digits'
    simp [Place.next, digits, digits', ih]

theorem Space.outside (space : Space cs) : Place.outside.after cs = some .outside :=
  Place.after_plain fun c mem => by
    obtain rfl | rfl | rfl | rfl := eq_of_isSpace (space c mem) <;> exact ⟨by decide, by decide, by decide⟩

theorem Numeral.outside (m : Numeral) : Place.outside.after m.chars = some .outside :=
  Place.after_plain fun c mem => by
    refine ⟨?_, ?_, ?_⟩ <;> rintro rfl <;> exact absurd (m.of_mem_chars mem) (by decide)

/-- **What is written ends outside quotes, as it starts.** -/
theorem Writes.outside (writes : Writes part cs) : Place.outside.after cs = some .outside := by
  induction writes with
  | null | isTrue | isFalse => rfl
  | @number m n amount => exact m.outside
  | text spells => simp [Place.after_append, Place.next, spells.quoted]
  | emptyList space | emptyObject space => simp [Place.after_append, Place.next, space.outside]
  | list items ih | object members ih => simp [Place.after_append, Place.next, ih]
  | padded before core after ih => simp [Place.after_append, before.outside, ih, after.outside]
  | lastItem item ih | lastMember member ih => exact ih
  | item item others ih ih' | members member others ih ih' => simp [Place.after_append, Place.next, ih, ih']
  | member before spells between value ih =>
    simp [Place.after_append, Place.next, before.outside, spells.quoted, between.outside, ih]

/-! ## Words that need quotes -/

/-- The characters that stand around texts and between the parts of a document. -/
def marks : List Char := ['"', '\\', ',', ':', ']', '\x7d', ' ', '\n', '\t', '\r']

theorem mem_marks_of_isSpace {c : Char} (blank : isSpace c) : c ∈ marks := by
  obtain rfl | rfl | rfl | rfl := eq_of_isSpace blank <;> decide

section

variable {w p : List Char}

/-- A word without a backslash is spelled as it is. -/
theorem Spells.starts (spells : Spells cs s) (plain : '\\' ∉ p) (found : p <+: cs) : p <+: s := by
  induction spells generalizing p with
  | nil => exact found
  | plain quote escape visible next ih =>
    cases p with
    | nil => exact List.nil_prefix
    | cons c p =>
      obtain ⟨rfl, behind⟩ := List.cons_prefix_cons.1 found
      exact List.cons_prefix_cons.2 ⟨rfl, ih (fun mem => plain (List.mem_cons_of_mem _ mem)) behind⟩
  | letter | code | codes =>
    cases p with
    | nil => exact List.nil_prefix
    | cons c p =>
      obtain ⟨rfl, -⟩ := List.cons_prefix_cons.1 found
      exact absurd List.mem_cons_self plain

/-- A word that starts with a low line is spelled as it is, wherever it stands. -/
theorem Spells.occurs (spells : Spells cs s) (plain : '\\' ∉ '_' :: w) (found : '_' :: w <:+: cs) :
    '_' :: w <:+: s := by
  have code {a b c d : Char} {n : Nat} (hex : hex4? a b c d = some n) : '_' ∉ ['\\', 'u', a, b, c, d] := by
    have digits := fun x mem => (plain_of_hex4? hex x mem).2.2
    rw [List.mem_cons, List.mem_cons, not_or, not_or]
    exact ⟨by decide, by decide, fun mem => digits _ mem rfl⟩
  induction spells with
  | nil => exact found
  | plain quote escape visible next ih =>
    -- a word that starts here has no backslash, so its characters stand for themselves
    obtain here | later := List.infix_cons_iff.1 found
    · exact ((Spells.plain quote escape visible next).starts plain here).isInfix
    · exact List.infix_cons (ih later)
  | @letter c e cs s stands next ih =>
    have apart : '_' ∉ ['\\', c] := by
      simp only [List.mem_cons, List.not_mem_nil, or_false, not_or]
      refine ⟨by decide, ?_⟩
      rintro rfl
      cases stands
    exact List.infix_cons (ih (Text.infix_of_infix_append apart found))
  | code hex high low next ih => exact List.infix_cons (ih (Text.infix_of_infix_append (code hex) found))
  | codes hex high hex' low next ih =>
    have later := Text.infix_of_infix_append (code hex) found
    exact List.infix_cons (ih (Text.infix_of_infix_append (code hex') later))

/-- **A word that starts with a low line and occurs in what is written occurs in a text or a name.** -/
theorem Writes.exists_text (writes : Writes part cs) (apart : ∀ c ∈ marks, c ∉ '_' :: w)
    (found : '_' :: w <:+: cs) : ∃ s ∈ part.texts, '_' :: w <:+: s.toList := by
  have low {gap : List Char} (space : Space gap) : '_' ∉ gap := fun mem => absurd (space _ mem) (by decide)
  have none {gap : List Char} (space : Space gap) : ¬ '_' :: w <:+: gap := fun found =>
    low space (found.subset List.mem_cons_self)
  have inside {o c : Char} {cs : List Char} (opens : '_' ∉ [o]) (closes : c ∈ marks)
      (found : '_' :: w <:+: o :: (cs ++ [c])) : '_' :: w <:+: cs :=
    Text.infix_of_infix_concat (apart c closes) (Text.infix_of_infix_append opens found)
  induction writes with
  | null | isTrue | isFalse => exact absurd (found.subset List.mem_cons_self) (by decide)
  | @number m n amount => exact absurd (m.of_mem_chars (found.subset List.mem_cons_self)) (by decide)
  | @text s cs spells =>
    have spelled := inside (by decide) (by decide) found
    exact ⟨s, List.mem_cons_self, spells.occurs (apart '\\' (by decide)) spelled⟩
  | emptyList space | emptyObject space => exact absurd (inside (by decide) (by decide) found) (none space)
  | list items ih | object members ih => exact ih (inside (by decide) (by decide) found)
  | @padded v lead cs trail before core after ih =>
    have behind := Text.infix_of_infix_append (low before) found
    cases trail with
    | nil => exact ih (List.append_nil cs ▸ behind)
    | cons c trail =>
      have mark := mem_marks_of_isSpace (after c List.mem_cons_self)
      obtain here | later := Text.infix_of_infix_apart (apart c mark) behind
      · exact ih here
      · exact absurd later (none fun x mem => after x (List.mem_cons_of_mem _ mem))
  | lastItem item ih =>
    obtain ⟨s, mem, inside⟩ := ih found
    exact ⟨s, List.mem_append_left _ mem, inside⟩
  | item item others ih ih' =>
    obtain here | later := Text.infix_of_infix_apart (apart ',' (by decide)) found
    · obtain ⟨s, mem, inside⟩ := ih here
      exact ⟨s, List.mem_append_left _ mem, inside⟩
    · obtain ⟨s, mem, inside⟩ := ih' later
      exact ⟨s, List.mem_append_right _ mem, inside⟩
  | @member k v lead cs gap ds before spells between value ih =>
    have key : '_' :: w <:+: ['"'] ++ (cs ++ '"' :: (gap ++ ':' :: ds)) := Text.infix_of_infix_append (low before) found
    obtain here | later := Text.infix_of_infix_apart (apart '"' (by decide))
      (Text.infix_of_infix_append (by decide) key)
    · exact ⟨k, List.mem_cons_self, spells.occurs (apart '\\' (by decide)) here⟩
    · have colon : '_' :: w <:+: [':'] ++ ds := Text.infix_of_infix_append (low between) later
      obtain ⟨s, mem, inside⟩ := ih (Text.infix_of_infix_append (by decide) colon)
      exact ⟨s, List.mem_cons_of_mem _ mem, inside⟩
  | lastMember member ih =>
    obtain ⟨s, mem, inside⟩ := ih found
    exact ⟨s, List.mem_append_left _ mem, inside⟩
  | members member others ih ih' =>
    obtain here | later := Text.infix_of_infix_apart (apart ',' (by decide)) found
    · obtain ⟨s, mem, inside⟩ := ih here
      exact ⟨s, List.mem_append_left _ mem, inside⟩
    · obtain ⟨s, mem, inside⟩ := ih' later
      exact ⟨s, List.mem_append_right _ mem, inside⟩

end

end Json

end Workflows
