import Mathlib.Data.List.TakeWhile
import WorkflowQueue.Text.Blank

namespace WorkflowQueue.Text

/-!
# White space at the ends

What a reader that skips white space makes of a text with white space in front,
and what trimming leaves of a text.
-/

/-- A text that holds nothing but white space. -/
def Blank
    (text : List Char) :
    Prop :=
  ∀ c ∈ text, isWhiteSpace c = true

theorem skipWhiteSpace_append
    {before : List Char}
    (blank : Blank before)
    (text : List Char) :
    skipWhiteSpace (before ++ text) = skipWhiteSpace text :=
  List.dropWhile_append_of_pos blank

/-- Nothing is skipped in front of a visible character. -/
theorem skipWhiteSpace_of_visible
    {text : List Char}
    (visible : ∀ c ∈ text.head?, isWhiteSpace c = false) :
    skipWhiteSpace text = text := by
  cases text with
  | nil => rfl
  | cons c rest => simp [skipWhiteSpace, visible c rfl]

/-- What is trimmed off a text is the white space around it. -/
theorem trim_append
    {before core after : List Char}
    (blankBefore : Blank before)
    (blankAfter : Blank after)
    (visible : ∀ c ∈ core, isWhiteSpace c = false) :
    trim (before ++ (core ++ after)) = core := by
  have blankReversed : Blank after.reverse := fun c isIn =>
    blankAfter c (List.mem_reverse.mp isIn)
  have visibleReversed :
      ∀ c ∈ core.reverse.head?, isWhiteSpace c = false := fun c isFirst =>
    visible c (List.mem_reverse.mp (List.mem_of_mem_head? isFirst))
  have visibleFirst :
      ∀ c ∈ core.head?, isWhiteSpace c = false := fun c isFirst =>
    visible c (List.mem_of_mem_head? isFirst)
  cases core with
  | nil =>
      have allBlank : Blank (before ++ after) :=
        List.forall_mem_append.mpr ⟨blankBefore, blankAfter⟩
      have nothing := skipWhiteSpace_append allBlank []
      rw [List.append_nil] at nothing
      rw [List.nil_append, trim, nothing]
      rfl
  | cons first rest =>
      have skipped : skipWhiteSpace ((first :: rest) ++ after) =
          (first :: rest) ++ after :=
        skipWhiteSpace_of_visible fun c isFirst => visibleFirst c isFirst
      have trimmed :
          (after.reverse ++ (first :: rest).reverse).dropWhile isWhiteSpace =
          (first :: rest).reverse :=
        (skipWhiteSpace_append blankReversed _).trans
          (skipWhiteSpace_of_visible visibleReversed)
      rw [trim, skipWhiteSpace_append blankBefore, skipped, List.reverse_append,
        trimmed, List.reverse_reverse]

/--
Every text is what is left of it after trimming, with white space around it.
-/
theorem exists_blanks_trim
    (text : List Char) :
    ∃ before after, text = before ++ (trim text ++ after) ∧ Blank before ∧
      Blank after := by
  let skipped := skipWhiteSpace text
  refine ⟨text.takeWhile isWhiteSpace,
    (skipped.reverse.takeWhile isWhiteSpace).reverse, ?_, ?_, ?_⟩
  · have split : trim text ++ (skipped.reverse.takeWhile isWhiteSpace).reverse =
        skipped := by
      rw [trim, ← List.reverse_append, List.takeWhile_append_dropWhile,
        List.reverse_reverse]
    rw [split]
    exact List.takeWhile_append_dropWhile.symm
  · intro c isTaken
    exact List.mem_takeWhile_imp isTaken
  · intro c isTaken
    exact List.mem_takeWhile_imp (List.mem_reverse.mp isTaken)

theorem isAllBlank_eq_false_iff
    {text : List Char} :
    isAllBlank text = false ↔ ∃ c ∈ text, isWhiteSpace c = false := by
  simp [isAllBlank]

end WorkflowQueue.Text
