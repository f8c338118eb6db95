import Mathlib.Data.List.Basic
import JobShell.Proofs.Rendering

/-!
# Joining arguments again

The arguments of a command, joined with single spaces, make a line that can always be read. It need
not ask for the same arguments, since the quotes around them are gone: what is read are their
fields, the runs of characters between blanks. No field begins with a quote, because a quoted
argument holds none and one that was written bare is its own only field. So every field stands as a
bare word.
-/

namespace JobShell

namespace Text

/-- The runs of characters between blanks. -/
def fieldsOf (cs : List Char) : List (List Char) :=
  (cs.splitOnP isBlank).filter fun field ↦ !field.isEmpty

/-- The fields of a text. -/
def fields (text : String) : List String := (fieldsOf text.toList).map String.ofList

/-- A blank divides the fields before it from those after it. -/
theorem fieldsOf_append_cons {c : Char} (h : isBlank c = true) (before after : List Char) :
    fieldsOf (before ++ c :: after) = fieldsOf before ++ fieldsOf after := by
  rw [fieldsOf, List.splitOnP_append_cons before after h, List.filter_append]
  rfl

theorem fieldsOf_cons {c : Char} (h : isBlank c = true) (cs : List Char) :
    fieldsOf (c :: cs) = fieldsOf cs := fieldsOf_append_cons h [] cs

/-- What is free of blanks is one field. -/
theorem fieldsOf_eq_singleton {cs : List Char} (hne : cs ≠ [])
    (h : ∀ c ∈ cs, isBlank c = false) : fieldsOf cs = [cs] := by
  rw [fieldsOf, List.splitOnP_eq_singleton h, List.filter_cons_of_pos (by simpa using hne),
    List.filter_nil]

theorem fields_eq_singleton {text : String} (hne : text ≠ "")
    (h : ∀ c ∈ text.toList, isBlank c = false) : fields text = [text] := by
  have hcs : text.toList ≠ [] := by simpa using hne
  rw [fields, fieldsOf_eq_singleton hcs h, List.map_singleton, String.ofList_toList]

/-- The fields hold what is no blank, in order. -/
theorem flatten_fieldsOf (cs : List Char) :
    (fieldsOf cs).flatten = cs.filter fun c ↦ !isBlank c := by
  rw [fieldsOf, List.flatten_filter_not_isEmpty]
  induction cs with
  | nil => rfl
  | cons c cs ih =>
    obtain ⟨first, rest, hsplit⟩ := List.exists_cons_of_ne_nil (List.splitOnP_ne_nil isBlank cs)
    rw [hsplit] at ih
    rw [List.splitOnP_cons_eq_if_modifyHead, hsplit]
    cases hc : isBlank c with
    | true =>
      rw [if_pos rfl, List.filter_cons_of_neg (by simp [hc]), ← ih]
      rfl
    | false =>
      rw [if_neg Bool.false_ne_true, List.filter_cons_of_pos (by simp [hc]), ← ih]
      rfl

theorem mem_of_mem_fieldsOf {cs field : List Char} (h : field ∈ fieldsOf cs) {c : Char}
    (hc : c ∈ field) : c ∈ cs := by
  have hflat : c ∈ (fieldsOf cs).flatten := List.mem_flatten.2 ⟨field, h, hc⟩
  rw [flatten_fieldsOf] at hflat
  exact (List.mem_filter.1 hflat).1

/-- Blanks at the end do not matter. -/
theorem fieldsOf_append_blanks {cs gap : List Char} (h : ∀ c ∈ gap, isBlank c = true) :
    fieldsOf (cs ++ gap) = fieldsOf cs := by
  cases gap with
  | nil => rw [List.append_nil]
  | cons c gap =>
    obtain ⟨hc, hgap⟩ := List.forall_mem_cons.1 h
    have hnil : fieldsOf gap = [] := by
      clear h hc
      induction gap with
      | nil => rfl
      | cons c gap ih =>
        obtain ⟨hc, hgap⟩ := List.forall_mem_cons.1 hgap
        rw [fieldsOf_cons hc, ih hgap]
    rw [fieldsOf_append_cons hc, hnil, List.append_nil]

/-- The fields of texts with a space between them are those of each text, in order. -/
theorem fieldsOf_intercalate (texts : List String) :
    fieldsOf (" ".intercalate texts).toList = texts.flatMap fun text ↦ fieldsOf text.toList := by
  induction texts with
  | nil => rfl
  | cons text texts ih =>
    cases texts with
    | nil => simp
    | cons next texts =>
      have hline : (" ".intercalate (text :: next :: texts)).toList =
          text.toList ++ ' ' :: (" ".intercalate (next :: texts)).toList := by
        simp [String.intercalate_cons_cons]
      rw [hline, fieldsOf_append_cons (by decide), ih]
      rfl

end Text

namespace Command

/-! ### Lines without quotes at the start of a field -/

/-- The first field of what does not begin with a blank is the word there. -/
theorem fieldsOf_eq_cons {c : Char} (h : Text.isBlank c = false) (cs : List Char) :
    Text.fieldsOf (c :: cs) = (c :: word cs) :: Text.fieldsOf (afterWord cs) := by
  have hword : Text.fieldsOf (c :: word cs) = [c :: word cs] := by
    refine Text.fieldsOf_eq_singleton (List.cons_ne_nil _ _) (List.forall_mem_cons.2 ⟨h, ?_⟩)
    intro other hmem
    simpa using List.mem_takeWhile_imp hmem
  have hwhole : c :: cs = (c :: word cs) ++ afterWord cs := by
    rw [List.cons_append, word_append_afterWord]
  rw [hwhole]
  cases hafter : afterWord cs with
  | nil => rw [List.append_nil, hword]; rfl
  | cons d rest =>
    have hd : Text.isBlank d = true := isBlank_of_mem_head?_afterWord (by rw [hafter]; rfl)
    rw [Text.fieldsOf_append_cons hd, hword, Text.fieldsOf_cons hd]
    rfl

/-- If no field begins with a quote, each of them is a bare word of the line. -/
theorem items?_eq_fieldsOf {cs : List Char}
    (h : ∀ field ∈ Text.fieldsOf cs, field.head? ≠ some quote) :
    items? cs = some ((Text.fieldsOf cs).map Item.bare) := by
  fun_induction items? cs with
  | case1 => rfl
  | case2 c cs hblank ih =>
    rw [Text.fieldsOf_cons hblank] at h ⊢
    exact ih h
  | case3 cs hblank _ =>
    rw [fieldsOf_eq_cons isBlank_quote] at h
    exact absurd rfl (h _ List.mem_cons_self)
  | case4 cs content rest hsplit hblank _ =>
    rw [fieldsOf_eq_cons isBlank_quote] at h
    exact absurd rfl (h _ List.mem_cons_self)
  | case5 c cs hblank _ ih =>
    rw [fieldsOf_eq_cons (by simpa using hblank)] at h ⊢
    rw [ih fun field hmem ↦ h field (List.mem_cons_of_mem _ hmem)]
    rfl

/-- No field of an argument that can be written begins with a quote. -/
theorem IsWritable.head?_ne_of_mem_fieldsOf {arg : String} (h : IsWritable arg)
    {field : List Char} (hmem : field ∈ Text.fieldsOf arg.toList) : field.head? ≠ some quote := by
  rcases h with hquote | ⟨hne, hhead, hblank⟩
  · intro hhead
    exact hquote (Text.mem_of_mem_fieldsOf hmem (List.mem_of_mem_head? hhead))
  · rw [Text.fieldsOf_eq_singleton hne hblank, List.mem_singleton] at hmem
    rwa [hmem]

/-- Arguments that can be written make, joined with spaces, a line that is read as their fields. -/
theorem parse_intercalate {argv : List String} (h : ∀ arg ∈ argv, IsWritable arg) :
    parse (" ".intercalate argv) =
      .ok (ofWords (Text.trimLineEnd (" ".intercalate argv)) (argv.flatMap Text.fields)) := by
  obtain ⟨ending, hline, hending, -⟩ := exists_trimLineEnd (" ".intercalate argv)
  -- Line ends are blanks, so to trim them off takes no field away.
  have hfields : Text.fieldsOf (Text.trimLineEnd (" ".intercalate argv)).toList =
      argv.flatMap fun arg ↦ Text.fieldsOf arg.toList := by
    rw [← Text.fieldsOf_intercalate, hline,
      Text.fieldsOf_append_blanks fun c hc ↦ Text.isBlank_of_isLineEnd (hending c hc)]
  have hitems : items? (Text.trimLineEnd (" ".intercalate argv)).toList =
      some ((argv.flatMap fun arg ↦ Text.fieldsOf arg.toList).map Item.bare) := by
    rw [← hfields]
    refine items?_eq_fieldsOf fun field hmem ↦ ?_
    rw [hfields] at hmem
    obtain ⟨arg, harg, hfield⟩ := List.mem_flatMap.1 hmem
    exact (h arg harg).head?_ne_of_mem_fieldsOf hfield
  have hwords : ((argv.flatMap fun arg ↦ Text.fieldsOf arg.toList).map Item.bare).map
      (fun item ↦ String.ofList item.content) = argv.flatMap Text.fields := by
    rw [List.map_map, List.map_flatMap]
    rfl
  simp only [parse, hitems, hwords]

/-! ### Commands -/

/-- The words that make the command: its arguments, and an ampersand if it is to run beside the
shell. -/
def words (command : Command) : List String :=
  command.argv ++ if command.background then [backgroundMark] else []

theorem words_ofWords (input : String) (words : List String) :
    (ofWords input words).words = words := by
  unfold ofWords Command.words
  split
  · next hlast =>
    obtain ⟨before, rfl⟩ := List.getLast?_eq_some_iff.1 hlast
    rw [List.dropLast_concat]
    rfl
  · exact List.append_nil words

/-- **Joined again, the arguments of a command are read as their fields.** Whatever line was read,
its arguments with single spaces between them make a line that can be read too, and its words are
the runs of characters between blanks in these arguments, in order. If none of the arguments is
empty or holds a blank, then the words are the arguments themselves: the same arguments are asked
for in the foreground, unless the last of them is an ampersand, which then asks for the
background. -/
theorem parse_rejoined {line : String} {command : Command} (h : parse line = .ok command) :
    ∃ again, parse (" ".intercalate command.argv) = .ok again ∧
      again.words = command.argv.flatMap Text.fields ∧
      ((∀ arg ∈ command.argv, arg ≠ "" ∧ ∀ c ∈ arg.toList, Text.isBlank c = false) →
        again.words = command.argv ∧
          (command.argv.getLast? ≠ some backgroundMark →
            again.argv = command.argv ∧ again.background = false) ∧
          (command.argv.getLast? = some backgroundMark →
            again.argv = command.argv.dropLast ∧ again.background = true)) := by
  refine ⟨_, parse_intercalate (isExpressible_of_parse h).1, words_ofWords _ _, fun hplain ↦ ?_⟩
  have hfields : command.argv.flatMap Text.fields = command.argv := by
    calc command.argv.flatMap Text.fields
        = command.argv.flatMap fun arg ↦ [arg] := List.flatMap_congr fun arg harg ↦
          Text.fields_eq_singleton (hplain arg harg).1 (hplain arg harg).2
      _ = command.argv := List.flatMap_singleton' _
  rw [hfields]
  refine ⟨words_ofWords _ _, fun hlast ↦ ?_, fun hlast ↦ ?_⟩
  · rw [ofWords, if_neg hlast]
    exact ⟨rfl, rfl⟩
  · rw [ofWords, if_pos hlast]
    exact ⟨rfl, rfl⟩

/-- A line whose arguments do not come back: one has blanks inside, one is empty, and the last is an
ampersand. -/
def scattered : String := "run \x27one\u2003 two\n\x27it\x27s \x27\x27 & \x27&\x27\n"

theorem parse_rejoined_scattered :
    parse scattered = .ok ⟨"run \x27one\u2003 two\n\x27it\x27s \x27\x27 & \x27&\x27",
        ["run", "one\u2003 two\n", "it\x27s", "", "&"], true⟩ ∧
      ∃ again, parse "run one\u2003 two\n it\x27s  &" = .ok again ∧
        again.words = ["run", "one", "two", "it\x27s", "&"] := by
  have hparse : parse scattered = .ok ⟨"run \x27one\u2003 two\n\x27it\x27s \x27\x27 & \x27&\x27",
      ["run", "one\u2003 two\n", "it\x27s", "", "&"], true⟩ := by decide +kernel
  obtain ⟨again, hagain, hwords, -⟩ := parse_rejoined hparse
  refine ⟨hparse, again, ?_, ?_⟩
  · rw [← hagain]
    decide +kernel
  · rw [hwords]
    decide +kernel

-- Nothing is lost of a command whose arguments were all written bare.
example : parse (" ".intercalate ["sleep", "5", "x\x27y"]) =
    .ok ⟨"sleep 5 x\x27y", ["sleep", "5", "x\x27y"], false⟩ := by decide +kernel

end Command

end JobShell
