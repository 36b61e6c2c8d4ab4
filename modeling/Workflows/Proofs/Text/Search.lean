import Mathlib.Data.List.Infix
import Workflows.Text.Search

/-!
# Occurrences

* `Text.infix_of_infix_apart`, `Text.infix_of_infix_append`: where an occurrence stands;
* `Text.Cut`: a text cut at the occurrences of a pattern, from left to right; `Text.cut`: every text is;
* `Text.replaceFrom_hit`, `Text.replaceFrom_miss`: replacing, cut by cut; `Text.replaceFrom_apart`: the texts on the
  two sides of a character that is not in the pattern are replaced for themselves;
* **`Text.replaceAll_eq_self_iff`**: when replacing changes nothing;
* `Text.IsLast`: an occurrence after which there is no other; `Text.afterLastFrom_of_isLast`: it is the one that
  is found.
-/

namespace Workflows

namespace Text

variable {p r cs rest : List Char} {c x : Char}

/-! ## Replacing -/

/-- A text cut at the occurrences of a pattern, from left to right. -/
inductive Cut (p : List Char) : List Char → Prop
  | nil : Cut p []
  | hit {rest : List Char} (next : Cut p rest) : Cut p (p ++ rest)
  | miss {c : Char} {rest : List Char} (other : ¬ p <+: c :: rest) (next : Cut p rest) : Cut p (c :: rest)

theorem cut (some : p ≠ []) (cs : List Char) : Cut p cs := by
  induction length : cs.length using Nat.strong_induction_on generalizing cs with
  | h n ih =>
    cases cs with
    | nil => exact .nil
    | cons c rest =>
      by_cases found : p <+: c :: rest
      · obtain ⟨after, whole⟩ := found
        have shorter : after.length < n := by
          have pos := List.length_pos_iff.2 some
          have sum := congrArg List.length whole
          rw [List.length_append] at sum
          omega
        rw [← whole]
        exact .hit (ih _ shorter after rfl)
      · exact .miss found (ih _ (by simp [← length]) rest rfl)

theorem replaceFrom_skip (skipped rest : List Char) :
    replaceFrom p r skipped.length (skipped ++ rest) = replaceFrom p r 0 rest := by
  induction skipped with
  | nil => rfl
  | cons c skipped ih => exact ih

theorem replaceFrom_hit (some : p ≠ []) (rest : List Char) :
    replaceFrom p r 0 (p ++ rest) = r ++ replaceFrom p r 0 rest := by
  cases p with
  | nil => exact absurd rfl some
  | cons c p =>
    have here : (c :: p).isPrefixOf (c :: (p ++ rest)) := by simp
    rw [List.cons_append, replaceFrom, if_pos here, List.length_cons, Nat.add_sub_cancel, replaceFrom_skip]

theorem replaceFrom_miss (other : ¬ p <+: c :: rest) :
    replaceFrom p r 0 (c :: rest) = c :: replaceFrom p r 0 rest := by
  rw [replaceFrom, if_neg fun found => other (List.isPrefixOf_iff_prefix.1 found)]

/-- An occurrence at the start of a text ends before a character that is not in the pattern. -/
theorem prefix_of_prefix_apart (apart : x ∉ p) (found : p <+: cs ++ x :: rest) : p <+: cs := by
  refine List.prefix_of_prefix_length_le found (List.prefix_append cs _) (Nat.le_of_not_lt fun longer => apart ?_)
  have inside : cs ++ [x] <+: p :=
    List.prefix_of_prefix_length_le ⟨rest, by simp⟩ found (by simpa using Nat.succ_le_of_lt longer)
  exact inside.subset (by simp)

/-- An occurrence stands on one side of a character that is not in the pattern. -/
theorem infix_of_infix_apart (apart : x ∉ p) (found : p <:+: cs ++ x :: rest) : p <:+: cs ∨ p <:+: rest := by
  induction cs with
  | nil =>
    refine (List.infix_cons_iff.1 found).imp (fun here => ?_) id
    have nothing : p <+: [] := prefix_of_prefix_apart apart here
    exact nothing.isInfix
  | cons c cs ih =>
    obtain here | later := List.infix_cons_iff.1 found
    · exact .inl (prefix_of_prefix_apart apart here).isInfix
    · exact (ih later).imp List.infix_cons id

theorem infix_of_infix_concat (apart : x ∉ p) (found : p <:+: cs ++ [x]) : p <:+: cs :=
  (infix_of_infix_apart apart found).elim id fun nothing => List.infix_nil.1 nothing ▸ List.nil_infix

/-- An occurrence stands behind characters that it does not start with. -/
theorem infix_of_infix_append {lead : List Char} (other : x ∉ lead) (found : x :: p <:+: lead ++ cs) :
    x :: p <:+: cs := by
  induction lead with
  | nil => exact found
  | cons c lead ih =>
    rw [List.mem_cons, not_or] at other
    refine ih other.2 ((List.infix_cons_iff.1 found).resolve_left fun here => ?_)
    exact other.1 (List.cons_prefix_cons.1 here).1

/-- The texts on the two sides of a character that is not in the pattern are replaced for themselves. -/
theorem replaceFrom_apart (some : p ≠ []) (apart : x ∉ p) (cs rest : List Char) :
    replaceFrom p r 0 (cs ++ x :: rest) = replaceFrom p r 0 cs ++ x :: replaceFrom p r 0 rest := by
  induction cut some cs with
  | nil =>
    refine replaceFrom_miss fun found => some ?_
    have nothing : p <+: [] := prefix_of_prefix_apart apart found
    exact List.prefix_nil.1 nothing
  | hit next ih => rw [List.append_assoc, replaceFrom_hit some, ih, replaceFrom_hit some, List.append_assoc]
  | miss other next ih =>
    rw [replaceFrom_miss other, List.cons_append, List.cons_append, ← ih]
    exact replaceFrom_miss fun found => other (prefix_of_prefix_apart apart found)

/-- How long a text is afterwards, by how often the pattern was replaced. -/
theorem length_replaceFrom (some : p ≠ []) (cs : List Char) : ∃ k,
    (replaceFrom p r 0 cs).length + k * p.length = cs.length + k * r.length ∧ (0 < k ↔ p <:+: cs) := by
  induction cut some cs with
  | nil => exact ⟨0, by simp [replaceFrom], by simp [some]⟩
  | hit next ih =>
    obtain ⟨k, length, -⟩ := ih
    refine ⟨k + 1, ?_, iff_of_true k.succ_pos (List.prefix_append p _).isInfix⟩
    rw [replaceFrom_hit some, List.length_append, List.length_append, Nat.add_mul, Nat.add_mul]
    omega
  | miss other next ih =>
    obtain ⟨k, length, found⟩ := ih
    refine ⟨k, ?_, by rw [found, List.infix_cons_iff, or_iff_right other]⟩
    rw [replaceFrom_miss other, List.length_cons, List.length_cons]
    omega

theorem replaceFrom_self (some : p ≠ []) (cs : List Char) : replaceFrom p p 0 cs = cs := by
  induction cut some cs with
  | nil => rfl
  | hit next ih => rw [replaceFrom_hit some, ih]
  | miss other next ih => rw [replaceFrom_miss other, ih]

theorem replaceFrom_of_not_infix (some : p ≠ []) (none : ¬ p <:+: cs) : replaceFrom p r 0 cs = cs := by
  induction cut some cs with
  | nil => rfl
  | hit next ih => exact absurd (List.prefix_append p _).isInfix none
  | miss other next ih =>
    rw [List.infix_cons_iff, not_or] at none
    rw [replaceFrom_miss other, ih none.2]

/-- A text that stays as it is lacks the pattern, or the pattern is replaced by itself. -/
theorem replaceFrom_eq_self_iff (some : p ≠ []) :
    replaceFrom p r 0 cs = cs ↔ ¬ p <:+: cs ∨ r = p := by
  constructor
  · intro same
    by_cases found : p <:+: cs
    · refine .inr ?_
      obtain ⟨k, length, pos⟩ := length_replaceFrom (r := r) some cs
      rw [same, Nat.add_left_cancel_iff] at length
      -- the text is as long as before, so what is put in is as long as what it is put in for
      have equal : r.length = p.length := (Nat.eq_of_mul_eq_mul_left (pos.2 found) length).symm
      clear length pos
      induction cut some cs with
      | nil => exact absurd (List.infix_nil.1 found) some
      | hit next ih =>
        rw [replaceFrom_hit some] at same
        exact (List.append_inj same equal).1
      | miss other next ih =>
        rw [replaceFrom_miss other, List.cons.injEq] at same
        exact ih same.2 ((List.infix_cons_iff.1 found).resolve_left other)
    · exact .inl found
  · rintro (none | rfl)
    · exact replaceFrom_of_not_infix some none
    · exact replaceFrom_self some cs

/-- **Replacing changes nothing just where the pattern does not occur, or is replaced by itself.** -/
theorem replaceAll_eq_self_iff {pattern replacement s : String} (some : pattern ≠ "") :
    replaceAll pattern replacement s = s ↔
      ¬ pattern.toList <:+: s.toList ∨ replacement = pattern := by
  have some' : pattern.toList ≠ [] := by simpa using some
  rw [← String.toList_inj, replaceAll, String.toList_ofList, replaceFrom_eq_self_iff some', String.toList_inj]

/-! ## The last occurrence -/

/-- After an occurrence of a mark, with what follows it, there is no other. -/
def IsLast (mark post : List Char) : Prop := ¬ mark <:+: (mark ++ post).tail

variable {mark post : List Char}

theorem afterLastFrom_of_not_infix (found : Option (List Char)) (none : ¬ mark <:+: cs) :
    afterLastFrom mark found cs = found := by
  induction cs with
  | nil => rfl
  | cons c rest ih =>
    rw [List.infix_cons_iff, not_or, ← List.isPrefixOf_iff_prefix] at none
    rw [afterLastFrom, if_neg none.1, ih none.2]

/-- What follows the last occurrence is found. -/
theorem afterLastFrom_of_isLast (some : mark ≠ []) (last : IsLast mark post) (found : Option (List Char))
    (pre : List Char) : afterLastFrom mark found (pre ++ (mark ++ post)) = Option.some post := by
  induction pre generalizing found with
  | nil =>
    cases mark with
    | nil => exact absurd rfl some
    | cons c mark =>
      have here : (c :: mark).isPrefixOf (c :: (mark ++ post)) := by simp
      have later : ¬ (c :: mark) <:+: mark ++ post := last
      rw [List.nil_append, List.cons_append, afterLastFrom, if_pos here, afterLastFrom_of_not_infix _ later,
        ← List.cons_append, List.drop_left]
  | cons c pre ih => exact ih _

/-- A mark that occurs has a last occurrence. -/
theorem exists_isLast (some : mark ≠ []) (found : mark <:+: cs) :
    ∃ pre post, cs = pre ++ (mark ++ post) ∧ IsLast mark post := by
  induction cs with
  | nil => exact absurd (List.infix_nil.1 found) some
  | cons c rest ih =>
    by_cases later : mark <:+: rest
    · obtain ⟨pre, post, whole, last⟩ := ih later
      exact ⟨c :: pre, post, by rw [whole, List.cons_append], last⟩
    · obtain ⟨post, whole⟩ := (List.infix_cons_iff.1 found).resolve_right later
      exact ⟨[], post, whole.symm, by rwa [IsLast, whole]⟩

end Text

end Workflows
