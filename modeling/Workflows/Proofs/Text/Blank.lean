import Mathlib.Data.List.DropRight
import Mathlib.Data.List.TakeWhile
import Workflows.Text.Blank

/-!
# Trimmed text

* `Text.exists_trimmed`: a text is blanks, the trimmed text and blanks;
* `Text.trimChars_append`: what is left of a text between blanks;
* `Text.trim_trim`: trimming a trimmed text leaves it as it is;
* `Text.isBlank_trim`: a text is blank just where it is when trimmed;
* `Text.nonBlank?_of_nonBlank?`: a text that is kept is kept again as it is.
-/

namespace Workflows

namespace Text

theorem trimEnd_eq (cs : List Char) : trimEnd cs = cs.rdropWhile isBlankChar := rfl

/-- A text is what is left of it when it is trimmed, between blanks. -/
theorem exists_trimmed (cs : List Char) : ∃ lead trail, cs = lead ++ (trimChars cs ++ trail) ∧
    (∀ c ∈ lead, isBlankChar c) ∧ ∀ c ∈ trail, isBlankChar c := by
  have inner := congrArg List.reverse
    (List.takeWhile_append_dropWhile (p := isBlankChar) (l := (cs.dropWhile isBlankChar).reverse))
  rw [List.reverse_append, List.reverse_reverse] at inner
  refine ⟨cs.takeWhile isBlankChar, ((cs.dropWhile isBlankChar).reverse.takeWhile isBlankChar).reverse, ?_,
    fun c mem => List.mem_takeWhile_imp mem, fun c mem => List.mem_takeWhile_imp (List.mem_reverse.1 mem)⟩
  rw [trimChars, trimEnd, inner, List.takeWhile_append_dropWhile]

/-- A character that is not blank is not trimmed away. -/
theorem mem_trimChars {c : Char} {cs : List Char} (visible : isBlankChar c = false) :
    c ∈ trimChars cs ↔ c ∈ cs := by
  have kept (ds : List Char) : c ∈ ds.dropWhile isBlankChar ↔ c ∈ ds := by
    conv_rhs => rw [← List.takeWhile_append_dropWhile (p := isBlankChar) (l := ds)]
    rw [List.mem_append]
    refine ⟨.inr, fun mem => mem.resolve_left fun dropped => ?_⟩
    rw [List.mem_takeWhile_imp dropped] at visible
    cases visible
  rw [trimChars, trimEnd, List.mem_reverse, kept, List.mem_reverse, kept]

theorem dropWhile_trimChars (cs : List Char) : (trimChars cs).dropWhile isBlankChar = trimChars cs := by
  rw [List.dropWhile_eq_self_iff]
  intro long
  have first := List.rdropWhile_prefix isBlankChar (cs.dropWhile isBlankChar)
  have some : 0 < (cs.dropWhile isBlankChar).length := Nat.lt_of_lt_of_le long first.length_le
  have same : (trimChars cs)[0] = (cs.dropWhile isBlankChar)[0] := first.getElem long
  rw [same]
  exact List.dropWhile_get_zero_not isBlankChar cs some

theorem dropWhile_of_head {cs : List Char} (first : ∀ c ∈ cs.head?, isBlankChar c = false) :
    cs.dropWhile isBlankChar = cs := by
  cases cs with
  | nil => rfl
  | cons c cs => exact List.dropWhile_cons_of_neg (Bool.eq_false_iff.1 (first c rfl))

/-- Blanks around a text that has none at its ends are trimmed away. -/
theorem trimChars_append {lead cs trail : List Char} (some : cs ≠ []) (before : ∀ c ∈ lead, isBlankChar c)
    (first : ∀ c ∈ cs.head?, isBlankChar c = false) (last : ∀ c ∈ cs.getLast?, isBlankChar c = false)
    (after : ∀ c ∈ trail, isBlankChar c) : trimChars (lead ++ (cs ++ trail)) = cs := by
  have start : (cs ++ trail).dropWhile isBlankChar = cs ++ trail := by
    refine dropWhile_of_head fun c mem => first c ?_
    rwa [List.head?_append_of_ne_nil _ some] at mem
  have stop : cs.reverse.dropWhile isBlankChar = cs.reverse :=
    dropWhile_of_head fun c mem => last c (by rwa [List.head?_reverse] at mem)
  rw [trimChars, List.dropWhile_append_of_pos before, start, trimEnd, List.reverse_append,
    List.dropWhile_append_of_pos fun c mem => after c (List.mem_reverse.1 mem), stop, List.reverse_reverse]

/-- **Trimming a trimmed text leaves it as it is.** -/
theorem trimChars_trimChars (cs : List Char) : trimChars (trimChars cs) = trimChars cs := by
  rw [trimChars, dropWhile_trimChars, trimEnd_eq, trimChars, trimEnd_eq]
  exact List.rdropWhile_idempotent isBlankChar _

@[simp] theorem trim_trim (s : String) : trim (trim s) = trim s := by
  simp only [trim, String.toList_ofList, trimChars_trimChars]

@[simp] theorem isBlank_trim (s : String) : isBlank (trim s) = isBlank s := by
  rw [Bool.eq_iff_iff]
  simp only [isBlank, trim, String.toList_ofList, List.all_eq_true]
  constructor
  · intro all c mem
    by_contra visible
    exact visible (all c ((mem_trimChars (Bool.eq_false_iff.2 visible)).2 mem))
  · intro all c mem
    by_contra visible
    exact visible (all c ((mem_trimChars (Bool.eq_false_iff.2 visible)).1 mem))

/-- A text that is kept, trimmed, is kept again as it is. -/
theorem nonBlank?_of_nonBlank? {s t : String} (kept : nonBlank? s = some t) : nonBlank? t = some t := by
  unfold nonBlank? at kept ⊢
  split at kept
  · cases kept
  · next visible =>
    cases kept
    rw [isBlank_trim, if_neg visible, trim_trim]

end Text

end Workflows
