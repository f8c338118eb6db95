import JobShell.Command
import Mathlib.Data.List.TakeWhile

/-!
# The grammar of command lines

A line is divided into items, with a gap of blanks before each of them and after the last one. What
may stand as an item depends on what follows: a quoted span holds no quote and may be followed by
anything, and a bare word goes on to the next blank or to the end of the line. `Division` is such a
way to divide a line, written without regard to how a line is read. Reading finds the division of
every line that has one, no line has two, and a line that has none is refused.
-/

namespace JobShell.Command

/-- A gap is a run of blanks, possibly an empty one. -/
def IsGap (cs : List Char) : Prop := ∀ c ∈ cs, Text.isBlank c = true

namespace Item

/-- The item as it stands in a line. -/
def written : Item → List Char
  | quoted content => quote :: (content ++ [quote])
  | bare content => content

/-- The item may stand in a line before `rest`. -/
def Precedes (rest : List Char) : Item → Prop
  | quoted content => quote ∉ content
  | bare content => content ≠ [] ∧ content.head? ≠ some quote ∧
      (∀ c ∈ content, Text.isBlank c = false) ∧ ∀ c ∈ rest.head?, Text.isBlank c = true

end Item

/-- Items with a gap before each of them, and a last gap. -/
inductive Division
  | last (gap : List Char)
  | cons (gap : List Char) (item : Item) (rest : Division)
  deriving DecidableEq

namespace Division

/-- The line that is divided. -/
def text : Division → List Char
  | last gap => gap
  | cons gap item rest => gap ++ (item.written ++ rest.text)

/-- The items, in order. -/
def items : Division → List Item
  | last _ => []
  | cons _ item rest => item :: rest.items

/-- The contents of the items, in order. -/
def words (d : Division) : List String := d.items.map fun item ↦ String.ofList item.content

/-- The gaps are gaps, and each item may stand before what follows it. -/
def IsProper : Division → Prop
  | last gap => IsGap gap
  | cons gap item rest => IsGap gap ∧ item.Precedes rest.text ∧ rest.IsProper

/-- The division is one of the line `cs`. -/
def Divides (cs : List Char) (d : Division) : Prop := d.IsProper ∧ d.text = cs

-- The tests on characters are named so that they run over the list and not over all characters.
instance (cs : List Char) : Decidable (IsGap cs) :=
  List.decidableBAll _ cs

instance (rest : List Char) : (item : Item) → Decidable (item.Precedes rest)
  | .quoted content => inferInstanceAs (Decidable (quote ∉ content))
  | .bare content =>
    have : Decidable (∀ c ∈ content, Text.isBlank c = false) := List.decidableBAll _ content
    have : Decidable (∀ c ∈ rest.head?, Text.isBlank c = true) :=
      Option.decidableForallMem rest.head?
    inferInstanceAs (Decidable (content ≠ [] ∧ content.head? ≠ some quote ∧
      (∀ c ∈ content, Text.isBlank c = false) ∧ ∀ c ∈ rest.head?, Text.isBlank c = true))

instance decidableIsProper : (d : Division) → Decidable d.IsProper
  | last gap => inferInstanceAs (Decidable (IsGap gap))
  | cons gap item rest =>
    have := decidableIsProper rest
    inferInstanceAs (Decidable (IsGap gap ∧ item.Precedes rest.text ∧ rest.IsProper))

instance (cs : List Char) (d : Division) : Decidable (d.Divides cs) :=
  inferInstanceAs (Decidable (d.IsProper ∧ d.text = cs))

/-- The division with one more character in its first gap. -/
def indent (c : Char) : Division → Division
  | last gap => last (c :: gap)
  | cons gap item rest => cons (c :: gap) item rest

/-- Indenting a division changes the gap in front of it and no item. -/
theorem items_indent (c : Char) (d : Division) : (d.indent c).items = d.items := by
  cases d <;> rfl

/-- A division of a text is, indented, one of the text with a blank in front. -/
theorem Divides.indent {c : Char} {cs : List Char} {d : Division} (h : d.Divides cs)
    (hc : Text.isBlank c = true) : (d.indent c).Divides (c :: cs) := by
  obtain ⟨hproper, rfl⟩ := h
  cases d with
  | last gap => exact ⟨List.forall_mem_cons.2 ⟨hc, hproper⟩, rfl⟩
  | cons gap item rest =>
    obtain ⟨hgap, hrest⟩ := hproper
    exact ⟨⟨List.forall_mem_cons.2 ⟨hc, hgap⟩, hrest⟩, rfl⟩

end Division

/-! ### Reading the parts of a line -/

theorem isBlank_quote : Text.isBlank quote = false := by decide

/-- Up to the first quotation mark, all is content. -/
theorem splitAtQuote?_append {content : List Char} (h : quote ∉ content) (rest : List Char) :
    splitAtQuote? (content ++ quote :: rest) = some (content, rest) := by
  induction content with
  | nil => simp [splitAtQuote?]
  | cons c content ih =>
    obtain ⟨hc, hcontent⟩ := List.ne_and_not_mem_of_not_mem_cons h
    rw [List.cons_append, splitAtQuote?, if_neg (Ne.symm hc), ih hcontent]
    rfl

/-- What stands before the first quotation mark holds none. -/
theorem not_mem_of_splitAtQuote? {cs content rest : List Char}
    (h : splitAtQuote? cs = some (content, rest)) : quote ∉ content := by
  induction cs generalizing content with
  | nil => cases h
  | cons c cs ih =>
    unfold splitAtQuote? at h
    split at h
    · obtain ⟨rfl, -⟩ := Prod.mk.inj (Option.some.inj h)
      exact List.not_mem_nil
    · next hc =>
      obtain ⟨⟨content', rest'⟩, hsplit, heq⟩ := Option.map_eq_some_iff.1 h
      obtain ⟨rfl, rfl⟩ := Prod.mk.inj heq
      exact List.not_mem_cons_of_ne_of_not_mem (Ne.symm hc) (ih hsplit)

/-- A bare word is read up to the blank or the end that follows it. -/
theorem word_append {content rest : List Char} (h : ∀ c ∈ content, Text.isBlank c = false)
    (hrest : ∀ c ∈ rest.head?, Text.isBlank c = true) :
    word (content ++ rest) = content ∧ afterWord (content ++ rest) = rest := by
  have hcontent : ∀ c ∈ content, (!Text.isBlank c) = true := by simpa using h
  have hstop : rest.takeWhile (fun c ↦ !Text.isBlank c) = [] ∧
      rest.dropWhile (fun c ↦ !Text.isBlank c) = rest := by
    cases rest with
    | nil => exact ⟨rfl, rfl⟩
    | cons c rest => simp [hrest c rfl]
  unfold word afterWord
  rw [List.takeWhile_append_of_pos hcontent, List.dropWhile_append_of_pos hcontent, hstop.1,
    hstop.2, List.append_nil]
  exact ⟨rfl, rfl⟩

/-- What follows a word begins with a blank, if anything follows it. -/
theorem isBlank_of_mem_head?_afterWord {cs : List Char} {c : Char}
    (h : c ∈ (afterWord cs).head?) : Text.isBlank c = true := by
  have hhead := List.head?_dropWhile_not (fun c ↦ !Text.isBlank c) cs
  rw [show (cs.dropWhile fun c ↦ !Text.isBlank c).head? = some c from h] at hhead
  simpa using hhead

/-- A gap is skipped. -/
theorem items?_gap_append {gap : List Char} (h : IsGap gap) (cs : List Char) :
    items? (gap ++ cs) = items? cs := by
  induction gap with
  | nil => rfl
  | cons c gap ih =>
    obtain ⟨hc, hgap⟩ := List.forall_mem_cons.1 h
    rw [List.cons_append, items?, if_pos hc, ih hgap]

/-- An item that what follows does not run into is read as it is written. -/
theorem items?_written_append {item : Item} {rest : List Char} (h : item.Precedes rest) :
    items? (item.written ++ rest) = (items? rest).map (item :: ·) := by
  cases item with
  | quoted content =>
    have hsplit := splitAtQuote?_append h rest
    rw [Item.written, List.cons_append, List.append_assoc, List.singleton_append, items?,
      if_neg (by rw [isBlank_quote]; decide), if_pos rfl]
    split
    · next hnone => rw [hsplit] at hnone; cases hnone
    · next hsome =>
      obtain ⟨rfl, rfl⟩ := Prod.mk.inj (Option.some.inj (hsplit.symm.trans hsome))
      rfl
  | bare content =>
    obtain ⟨hne, hquote, hblank, hrest⟩ := h
    obtain ⟨c, content, rfl⟩ := List.exists_cons_of_ne_nil hne
    obtain ⟨hc, hcontent⟩ := List.forall_mem_cons.1 hblank
    obtain ⟨hword, hafter⟩ := word_append hcontent hrest
    have hbare : c ≠ quote := by simpa using hquote
    rw [Item.written, List.cons_append, items?, if_neg (by rw [hc]; decide), if_neg hbare, hword,
      hafter]

/-! ### Lines and divisions -/

/-- The items of a divided line are read off it. -/
theorem Division.Divides.items?_eq {cs : List Char} {d : Division} (h : d.Divides cs) :
    items? cs = some d.items := by
  obtain ⟨hproper, rfl⟩ := h
  induction d with
  | last gap =>
    have hgap := items?_gap_append hproper []
    rw [List.append_nil, items?] at hgap
    exact hgap
  | cons gap item rest ih =>
    obtain ⟨hgap, hitem, hrest⟩ := hproper
    rw [text, items?_gap_append hgap, items?_written_append hitem, ih hrest]
    rfl

/-- A line whose items can be read can be divided into them. -/
theorem exists_divides_of_items? {cs : List Char} {items : List Item} (h : items? cs = some items) :
    ∃ d : Division, d.Divides cs ∧ d.items = items := by
  fun_induction items? cs generalizing items with
  | case1 => exact ⟨.last [], ⟨nofun, rfl⟩, Option.some.inj h⟩
  | case2 c cs hblank ih =>
    obtain ⟨d, hd, hitems⟩ := ih h
    exact ⟨d.indent c, hd.indent hblank, (d.items_indent c).trans hitems⟩
  | case3 => cases h
  | case4 cs content rest hsplit _ ih =>
    obtain ⟨others, hothers, rfl⟩ := Option.map_eq_some_iff.1 h
    obtain ⟨d, ⟨hproper, rfl⟩, rfl⟩ := ih hothers
    refine ⟨.cons [] (.quoted content) d,
      ⟨⟨nofun, not_mem_of_splitAtQuote? hsplit, hproper⟩, ?_⟩, rfl⟩
    rw [eq_of_splitAtQuote? hsplit]
    simp [Division.text, Item.written]
  | case5 c cs hblank hquote ih =>
    obtain ⟨others, hothers, rfl⟩ := Option.map_eq_some_iff.1 h
    obtain ⟨d, ⟨hproper, htext⟩, rfl⟩ := ih hothers
    have hword : ∀ other ∈ c :: word cs, Text.isBlank other = false := by
      refine List.forall_mem_cons.2 ⟨by simpa using hblank, fun other hmem ↦ ?_⟩
      simpa using List.mem_takeWhile_imp hmem
    have hprecedes : (Item.bare (c :: word cs)).Precedes d.text := by
      refine ⟨List.cons_ne_nil _ _, by simpa using hquote, hword, ?_⟩
      rw [htext]
      exact fun other ↦ isBlank_of_mem_head?_afterWord
    refine ⟨.cons [] (.bare (c :: word cs)) d, ⟨⟨nofun, hprecedes, hproper⟩, ?_⟩, rfl⟩
    simp [Division.text, Item.written, htext, word_append_afterWord]

/-! ### No line has two divisions -/

/-- What does not begin with a blank. -/
def IsFlush (cs : List Char) : Prop := ∀ c ∈ cs.head?, Text.isBlank c = false

/-- A gap ends where the blanks do. -/
theorem gap_unique {gap gap' cs cs' : List Char} (hgap : IsGap gap) (hgap' : IsGap gap')
    (hcs : IsFlush cs) (hcs' : IsFlush cs') (h : gap ++ cs = gap' ++ cs') :
    gap = gap' ∧ cs = cs' := by
  have hall : ∀ {gap cs : List Char}, IsGap gap → IsFlush cs →
      (gap ++ cs).takeWhile Text.isBlank = gap := by
    intro gap cs hgap hcs
    rw [List.takeWhile_append_of_pos hgap]
    cases cs with
    | nil => exact List.append_nil gap
    | cons c cs => rw [List.takeWhile_cons_of_neg (by simp [hcs c rfl]), List.append_nil]
  have hfirst : gap = gap' := by rw [← hall hgap hcs, h, hall hgap' hcs']
  exact ⟨hfirst, List.append_cancel_left (hfirst ▸ h)⟩

/-- A written item begins with no blank. -/
theorem Item.isFlush_written_append {item : Item} {rest : List Char} (h : item.Precedes rest) :
    item.written ++ rest ≠ [] ∧ IsFlush (item.written ++ rest) := by
  cases item with
  | quoted content =>
    refine ⟨List.cons_ne_nil _ _, fun c hc ↦ ?_⟩
    obtain rfl := Option.some.inj hc
    exact isBlank_quote
  | bare content =>
    obtain ⟨hne, -, hblank, -⟩ := h
    obtain ⟨first, content, rfl⟩ := List.exists_cons_of_ne_nil hne
    refine ⟨List.cons_ne_nil _ _, fun c hc ↦ ?_⟩
    obtain rfl := Option.some.inj hc
    exact hblank _ List.mem_cons_self

/-- An item ends where what is written of it does. -/
theorem Item.unique {item item' : Item} {rest rest' : List Char} (h : item.Precedes rest)
    (h' : item'.Precedes rest') (heq : item.written ++ rest = item'.written ++ rest') :
    item = item' ∧ rest = rest' := by
  have hmixed : ∀ {content content' rest rest' : List Char}, (Item.bare content').Precedes rest' →
      (Item.quoted content).written ++ rest ≠ content' ++ rest' := by
    rintro content content' rest rest' ⟨hne, hquote, -⟩ heq
    obtain ⟨first, content', rfl⟩ := List.exists_cons_of_ne_nil hne
    obtain rfl := (List.cons.inj heq).1
    exact hquote rfl
  cases item with
  | quoted content =>
    cases item' with
    | quoted content' =>
      simp only [written, List.cons_append, List.append_assoc, List.nil_append, List.cons.injEq,
        true_and] at heq
      -- Both spans end at the first quote, so what is read of one is what is read of the other.
      have hsplit := splitAtQuote?_append h rest
      rw [heq, splitAtQuote?_append h' rest'] at hsplit
      obtain ⟨rfl, rfl⟩ := Prod.mk.inj (Option.some.inj hsplit)
      exact ⟨rfl, rfl⟩
    | bare content' => exact absurd heq (hmixed h')
  | bare content =>
    cases item' with
    | quoted content' => exact absurd heq.symm (hmixed h)
    | bare content' =>
      obtain ⟨-, -, hblank, hrest⟩ := h
      obtain ⟨-, -, hblank', hrest'⟩ := h'
      obtain ⟨hword, hafter⟩ := word_append hblank hrest
      obtain ⟨hword', hafter'⟩ := word_append hblank' hrest'
      replace heq : content ++ rest = content' ++ rest' := heq
      rw [heq, hword'] at hword
      rw [heq, hafter'] at hafter
      exact ⟨congrArg Item.bare hword.symm, hafter.symm⟩

/-- A text has one proper division at most: gaps and items are found from the left. -/
theorem Division.unique {d d' : Division} (h : d.IsProper) (h' : d'.IsProper)
    (htext : d.text = d'.text) : d = d' := by
  have hmixed : ∀ {gap gap' : List Char} {item : Item} {rest : Division}, IsGap gap →
      (cons gap' item rest).IsProper → gap ≠ (cons gap' item rest).text := by
    rintro gap gap' item rest hgap ⟨hgap', hitem, -⟩ heq
    obtain ⟨hne, hflush⟩ := Item.isFlush_written_append hitem
    rw [text, ← List.append_nil gap] at heq
    have hnone : ∀ c ∈ ([] : List Char).head?, Text.isBlank c = false :=
      fun _ hc ↦ absurd hc (Option.not_mem_none _)
    exact hne (gap_unique hgap hgap' hnone hflush heq).2.symm
  induction d generalizing d' with
  | last gap =>
    cases d' with
    | last gap' => exact congrArg last htext
    | cons gap' item' rest' => exact absurd htext (hmixed h h')
  | cons gap item rest ih =>
    cases d' with
    | last gap' => exact absurd htext.symm (hmixed h' h)
    | cons gap' item' rest' =>
      obtain ⟨hgap, hitem, hrest⟩ := h
      obtain ⟨hgap', hitem', hrest'⟩ := h'
      obtain ⟨rfl, htail⟩ := gap_unique hgap hgap' (Item.isFlush_written_append hitem).2
        (Item.isFlush_written_append hitem').2 htext
      obtain ⟨rfl, hafter⟩ := Item.unique hitem hitem' htail
      rw [ih hrest hrest' hafter]

/-! ### Commands -/

/-- The command that words make: a last ampersand is dropped and asks for the background. -/
inductive Makes (input : String) : List String → Command → Prop
  | foreground {words : List String} (h : words.getLast? ≠ some backgroundMark) :
    Makes input words ⟨input, words, false⟩
  | background (words : List String) :
    Makes input (words ++ [backgroundMark]) ⟨input, words, true⟩

/-- The words of a line determine the command. -/
theorem makes_iff {input : String} {words : List String} {command : Command} :
    Makes input words command ↔ command = ofWords input words := by
  unfold ofWords
  constructor
  · rintro (h | words)
    · rw [if_neg h]
    · rw [if_pos (List.getLast?_concat ..), List.dropLast_concat]
  · rintro rfl
    split
    · next h =>
      obtain ⟨before, rfl⟩ := List.getLast?_eq_some_iff.1 h
      rw [List.dropLast_concat]
      exact .background before
    · next h => exact .foreground h

/-- What is trimmed off a line is its line ends, and all of them. -/
theorem exists_trimLineEnd (line : String) :
    ∃ ending, line.toList = (Text.trimLineEnd line).toList ++ ending ∧
      (∀ c ∈ ending, Text.isLineEnd c = true) ∧
        ∀ c ∈ (Text.trimLineEnd line).toList.getLast?, Text.isLineEnd c = false := by
  have hsplit := List.takeWhile_append_dropWhile (p := Text.isLineEnd) (l := line.toList.reverse)
  refine ⟨(line.toList.reverse.takeWhile Text.isLineEnd).reverse, ?_, fun c hmem ↦ ?_,
    fun c hc ↦ ?_⟩
  · rw [Text.toList_trimLineEnd, Text.dropLineEnds, ← List.reverse_append, hsplit,
      List.reverse_reverse]
  · exact List.mem_takeWhile_imp (List.mem_reverse.1 hmem)
  · rw [Text.toList_trimLineEnd, Text.dropLineEnds, List.getLast?_reverse] at hc
    have hhead := List.head?_dropWhile_not Text.isLineEnd line.toList.reverse
    rwa [show (line.toList.reverse.dropWhile Text.isLineEnd).head? = some c from hc] at hhead

/-- A text that can be divided is a command. -/
theorem parse_of_divides {line : String} {d : Division}
    (h : d.Divides (Text.trimLineEnd line).toList) :
    parse line = .ok (ofWords (Text.trimLineEnd line) d.words) := by
  simp only [parse, h.items?_eq]
  rfl

/-- A text that cannot be divided is malformed, and the error gives it trimmed. -/
theorem parse_of_not_divides {line : String}
    (h : ¬∃ d : Division, d.Divides (Text.trimLineEnd line).toList) :
    parse line = .error (.of (.malformedLine (Text.trimLineEnd line))) := by
  cases hitems : items? (Text.trimLineEnd line).toList with
  | none => simp only [parse, hitems]
  | some items =>
    obtain ⟨d, hd, -⟩ := exists_divides_of_items? hitems
    exact absurd ⟨d, hd⟩ h

/-- **Reading a line follows the grammar.** Let the line ends be trimmed off a line, and no more
than these. What is left has at most one division. If it has one, the line is read as the command
that the contents of its items make, and in no other way; if it has none, the line is refused with
an error that shows what was to be divided. -/
theorem parse_follows_grammar (line : String) :
    (∃ ending, line.toList = (Text.trimLineEnd line).toList ++ ending ∧
      (∀ c ∈ ending, Text.isLineEnd c = true) ∧
        ∀ c ∈ (Text.trimLineEnd line).toList.getLast?, Text.isLineEnd c = false) ∧
      (∀ d d' : Division, d.Divides (Text.trimLineEnd line).toList →
        d'.Divides (Text.trimLineEnd line).toList → d = d') ∧
      (∀ command, parse line = .ok command ↔ ∃ d : Division,
        d.Divides (Text.trimLineEnd line).toList ∧
          Makes (Text.trimLineEnd line) d.words command) ∧
      ∀ error, parse line = .error error ↔
        (¬∃ d : Division, d.Divides (Text.trimLineEnd line).toList) ∧
          error = .of (.malformedLine (Text.trimLineEnd line)) := by
  have hunique : ∀ d d' : Division, d.Divides (Text.trimLineEnd line).toList →
      d'.Divides (Text.trimLineEnd line).toList → d = d' := by
    rintro d d' ⟨hproper, htext⟩ ⟨hproper', htext'⟩
    exact Division.unique hproper hproper' (htext.trans htext'.symm)
  refine ⟨exists_trimLineEnd line, hunique, ?_⟩
  by_cases hdivides : ∃ d : Division, d.Divides (Text.trimLineEnd line).toList
  · obtain ⟨d, hd⟩ := hdivides
    rw [parse_of_divides hd]
    refine ⟨fun command ↦ ⟨fun h ↦ ?_, ?_⟩, fun error ↦ ⟨nofun, fun h ↦ absurd ⟨d, hd⟩ h.1⟩⟩
    · exact ⟨d, hd, makes_iff.2 (Except.ok.inj h).symm⟩
    · rintro ⟨d', hd', hmakes⟩
      rw [hunique d d' hd hd', makes_iff.1 hmakes]
  · rw [parse_of_not_divides hdivides]
    refine ⟨fun command ↦ ⟨nofun, ?_⟩, fun error ↦ ⟨fun h ↦ ?_, ?_⟩⟩
    · rintro ⟨d, hd, -⟩
      exact absurd ⟨d, hd⟩ hdivides
    · exact ⟨hdivides, (Except.error.inj h).symm⟩
    · rintro ⟨-, rfl⟩
      rfl

-- A span ends its item without a blank, and a quote inside a word is an ordinary character.
example : (Division.cons [] (.quoted "a b".toList)
    (.cons [] (.bare "c'd".toList) (.cons " ".toList (.bare "&".toList) (.last [])))).Divides
      "'a b'c'd &".toList := by decide +kernel

end JobShell.Command
