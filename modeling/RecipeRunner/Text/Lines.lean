import RecipeRunner.Text.Blank
/-!
# Lines

A text is cut into lines at line feeds; a carriage return before the line feed belongs to the
line end.  The items of a text are its lines without blanks around them, empty ones left out.
-/

namespace RecipeRunner.Text

/-- Cuts at every line feed.  A text of `n` line feeds has `n + 1` pieces. -/
def cutLines : List Char → List (List Char)
  | [] => [[]]
  | c :: rest =>
    if c = '\n' then [] :: cutLines rest
    else
      match cutLines rest with
      | [] => [[c]]
      | line :: more => (c :: line) :: more

/-- Removes one carriage return at the end. -/
def dropReturn (line : List Char) : List Char :=
  if line.getLast? = some '\r' then line.dropLast else line

/-- The lines of a text: pieces that end in a line feed lose a carriage return, and what
follows the last line feed is a line only if it is not empty. -/
def lines (text : List Char) : List (List Char) :=
  let cut := cutLines text
  cut.dropLast.map dropReturn ++ (cut.getLast?.toList.filter fun line => !line.isEmpty)

/-- The trimmed lines that are not empty, in order. -/
def items (text : List Char) : List (List Char) :=
  ((lines text).map trim).filter fun line => !line.isEmpty

theorem cutLines_ne_nil (text : List Char) : cutLines text ≠ [] := by
  cases text with
  | nil => simp [cutLines]
  | cons c rest =>
    simp only [cutLines]
    split
    · simp
    · split <;> simp

/-- No line holds a line feed. -/
theorem newline_not_mem_of_mem_cutLines {text line : List Char} (h : line ∈ cutLines text) :
    '\n' ∉ line := by
  induction text generalizing line with
  | nil =>
    simp only [cutLines, List.mem_singleton] at h
    simp [h]
  | cons c rest ih =>
    simp only [cutLines] at h
    split at h
    · rcases List.mem_cons.1 h with rfl | h
      · simp
      · exact ih h
    · next hc =>
      split at h
      · rw [List.mem_singleton.1 h]
        simpa using fun hn => hc hn.symm
      · next first more heq =>
        rcases List.mem_cons.1 h with rfl | h
        · have : '\n' ∉ first := ih (by simp [heq])
          simpa [this] using fun hn => hc hn.symm
        · exact ih (by simp [heq, h])

/-- No item is empty. -/
theorem ne_nil_of_mem_items {text item : List Char} (h : item ∈ items text) : item ≠ [] := by
  simp only [items, List.mem_filter] at h
  intro hnil
  simp [hnil] at h

end RecipeRunner.Text
