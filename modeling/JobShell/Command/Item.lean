import JobShell.Text.Blank

/-!
# The items of a command line

A line is a sequence of items with blanks between them where they are needed. An item is a quoted
span, which runs from a single quote to the next one and holds anything else verbatim, or a bare
word, which begins with neither a blank nor a quote and runs to the next blank. A quote inside a
bare word is an ordinary character, and a quoted span ends its item even if no blank follows. The
only line that has no items is one with a quote at the start of an item that is never closed.
-/

namespace JobShell.Command

/-- An item of a command line, with its content. -/
inductive Item
  | quoted (content : List Char)
  | bare (content : List Char)
  deriving DecidableEq

/-- The content without the quotes. -/
def Item.content : Item → List Char
  | quoted content | bare content => content

/-- The single quote. -/
def quote : Char := '\x27'

/-- The characters up to the first quote, and those after it; nothing if there is no quote. -/
def splitAtQuote? : List Char → Option (List Char × List Char)
  | [] => none
  | c :: cs =>
    if c = quote then some ([], cs)
    else (splitAtQuote? cs).map fun (content, rest) ↦ (c :: content, rest)

theorem eq_of_splitAtQuote? {cs content rest : List Char}
    (h : splitAtQuote? cs = some (content, rest)) : cs = content ++ quote :: rest := by
  induction cs generalizing content with
  | nil => simp [splitAtQuote?] at h
  | cons c cs ih =>
    unfold splitAtQuote? at h
    split at h
    · next hc => simp_all
    · obtain ⟨⟨content', rest'⟩, hs, heq⟩ := Option.map_eq_some_iff.1 h
      obtain ⟨rfl, rfl⟩ := Prod.mk.injEq .. ▸ heq
      simp [ih hs]

theorem length_of_splitAtQuote? {cs content rest : List Char}
    (h : splitAtQuote? cs = some (content, rest)) : rest.length < cs.length := by
  rw [eq_of_splitAtQuote? h]
  simp
  omega

/-- The characters of a bare word at the start of `cs`. -/
def word (cs : List Char) : List Char := cs.takeWhile fun c ↦ !Text.isBlank c

/-- What follows the bare word at the start of `cs`. -/
def afterWord (cs : List Char) : List Char := cs.dropWhile fun c ↦ !Text.isBlank c

theorem word_append_afterWord (cs : List Char) : word cs ++ afterWord cs = cs :=
  List.takeWhile_append_dropWhile

theorem length_afterWord_le (cs : List Char) : (afterWord cs).length ≤ cs.length := by
  have := congrArg List.length (word_append_afterWord cs)
  simp only [List.length_append] at this
  omega

/-- The items of a line, if every quote that opens an item is closed. -/
def items? : List Char → Option (List Item)
  | [] => some []
  | c :: cs =>
    if Text.isBlank c then items? cs
    else if c = quote then
      match _h : splitAtQuote? cs with
      | none => none
      | some (content, rest) => (items? rest).map (Item.quoted content :: ·)
    else (items? (afterWord cs)).map (Item.bare (c :: word cs) :: ·)
termination_by cs => cs.length
decreasing_by
  · simp
  · have := length_of_splitAtQuote? _h
    simp only [List.length_cons]
    omega
  · have := length_afterWord_le cs
    simp only [List.length_cons]
    omega

end JobShell.Command
