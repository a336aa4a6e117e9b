import WorkflowQueue.Text.Split

namespace WorkflowQueue.Text

/-!
# Pieces that are put together

Texts that are joined by a separator are split into the pieces of both, and a
text without the separator is its only piece.
-/

variable
  {separator : Char}

theorem splitAfter_append_separator
    (separator : Char)
    (piece first second : List Char) :
    splitAfter separator piece (first ++ separator :: second) =
      splitAfter separator piece first ++ splitOn separator second := by
  induction first generalizing piece with
  | nil =>
      simp [splitAfter, splitOn]
  | cons c rest inductionHypothesis =>
      simp only [List.cons_append, splitAfter]
      split
      · rw [inductionHypothesis, List.cons_append]
      · exact inductionHypothesis _

/-- A separator ends the pieces of the text before it. -/
theorem splitOn_append_separator
    (separator : Char)
    (first second : List Char) :
    splitOn separator (first ++ separator :: second) =
      splitOn separator first ++ splitOn separator second :=
  splitAfter_append_separator separator [] first second

theorem splitAfter_of_undivided
    {text : List Char}
    (undivided : separator ∉ text)
    (piece : List Char) :
    splitAfter separator piece text = [piece.reverse ++ text] := by
  induction text generalizing piece with
  | nil => rw [splitAfter, List.append_nil]
  | cons c rest inductionHypothesis =>
      have notSeparator : c ≠ separator :=
        (List.ne_of_not_mem_cons undivided).symm
      rw [splitAfter, if_neg notSeparator,
        inductionHypothesis (List.not_mem_of_not_mem_cons undivided),
        List.reverse_cons, List.append_assoc, List.singleton_append]

/-- A text without separators is one piece. -/
theorem splitOn_of_undivided
    {text : List Char}
    (undivided : separator ∉ text) :
    splitOn separator text = [text] :=
  splitAfter_of_undivided undivided []

theorem undivided_of_mem_splitAfter
    {piece part text : List Char}
    (undivided : separator ∉ piece)
    (member : part ∈ splitAfter separator piece text) :
    separator ∉ part := by
  induction text generalizing piece with
  | nil =>
      rw [splitAfter, List.mem_singleton] at member
      rw [member, List.mem_reverse]
      exact undivided
  | cons c rest inductionHypothesis =>
      rw [splitAfter] at member
      split at member
      · rcases List.mem_cons.mp member with isFirst | later
        · rw [isFirst, List.mem_reverse]
          exact undivided
        · exact inductionHypothesis List.not_mem_nil later
      · next notSeparator =>
          refine inductionHypothesis ?_ member
          rw [List.mem_cons, not_or]
          exact ⟨fun same => notSeparator same.symm, undivided⟩

/-- No piece holds the separator. -/
theorem undivided_of_mem_splitOn
    {part text : List Char}
    (member : part ∈ splitOn separator text) :
    separator ∉ part :=
  undivided_of_mem_splitAfter List.not_mem_nil member

end WorkflowQueue.Text
