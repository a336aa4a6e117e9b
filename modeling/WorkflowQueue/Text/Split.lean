namespace WorkflowQueue.Text

/-!
# Pieces of texts

A text between occurrences of a separator. There is always one piece more than
there are separators, and pieces may be empty.
-/

/--
The pieces of a text; `piece` holds the current one, last character first.
-/
def splitAfter
    (separator : Char)
    (piece : List Char) :
    List Char →
    List (List Char)
  | [] => [piece.reverse]
  | c :: rest =>
      if c = separator then piece.reverse :: splitAfter separator [] rest
      else splitAfter separator (c :: piece) rest

/-- The pieces of a text between separators. -/
def splitOn
    (separator : Char)
    (text : List Char) :
    List (List Char) :=
  splitAfter separator [] text

end WorkflowQueue.Text
