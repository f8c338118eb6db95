import JobShell.Proofs.CommandGrammar

/-!
# Writing commands

Which arguments a line can give a command, and a line for each of them. An argument that may stand
as a bare word is written as it is and every other one is written in quotes. What is written is read
back as the same arguments, so the image of the reader is described by what can be written: an
argument that is no bare word must do without quotes, since there is no way to escape one.

The lines are handled as items with a space before each of them (`spaced`). Such a list of items can
be read after anything that ends an item, and it ends as its last item does, so nothing is trimmed
off it.
-/

namespace JobShell.Command

/-! ### Writing -/

/-- The argument may stand in a line without quotes. -/
def IsBare (arg : String) : Prop :=
  arg.toList ≠ [] ∧ arg.toList.head? ≠ some quote ∧ ∀ c ∈ arg.toList, Text.isBlank c = false

instance (arg : String) : Decidable (IsBare arg) :=
  have : Decidable (∀ c ∈ arg.toList, Text.isBlank c = false) := List.decidableBAll _ arg.toList
  inferInstanceAs (Decidable (arg.toList ≠ [] ∧ arg.toList.head? ≠ some quote ∧
    ∀ c ∈ arg.toList, Text.isBlank c = false))

/-- The argument may stand in a line, with quotes or without. -/
def IsWritable (arg : String) : Prop := quote ∉ arg.toList ∨ IsBare arg

/-- An argument as it is written. -/
def renderArgument (arg : String) : String :=
  if IsBare arg then arg else String.singleton quote ++ arg ++ String.singleton quote

/-- The line for a command's arguments, with an ampersand after them if it is to run beside the
shell. -/
def render (argv : List String) (background : Bool) : String :=
  " ".intercalate (argv.map renderArgument) ++ if background then " &" else ""

/-- The item that is written for an argument. -/
def Item.ofArgument (arg : String) : Item :=
  if IsBare arg then .bare arg.toList else .quoted arg.toList

/-- The item holds the argument. -/
theorem Item.content_ofArgument (arg : String) : (ofArgument arg).content = arg.toList := by
  unfold ofArgument
  split <;> rfl

/-- And it is written as the argument is. -/
theorem Item.written_ofArgument (arg : String) :
    (ofArgument arg).written = (renderArgument arg).toList := by
  unfold ofArgument renderArgument
  split <;> simp [written]

/-! ### Where an item may stand -/

/-- What may stand at the end of a line may stand before a blank. -/
theorem Item.Precedes.of_nil {item : Item} {rest : List Char} (h : item.Precedes [])
    (hrest : ∀ c ∈ rest.head?, Text.isBlank c = true) : item.Precedes rest := by
  cases item with
  | quoted content => exact h
  | bare content =>
    obtain ⟨hne, hquote, hblank, -⟩ := h
    exact ⟨hne, hquote, hblank, hrest⟩

/-- The content of an item is an argument that can be written. -/
theorem Item.Precedes.isWritable {item : Item} {rest : List Char} (h : item.Precedes rest) :
    IsWritable (String.ofList item.content) := by
  unfold IsWritable IsBare
  rw [String.toList_ofList]
  cases item with
  | quoted content => exact .inl h
  | bare content =>
    obtain ⟨hne, hquote, hblank, -⟩ := h
    exact .inr ⟨hne, hquote, hblank⟩

/-- What can be written at all can be written at the end of a line. -/
theorem IsWritable.precedes {arg : String} (h : IsWritable arg) :
    (Item.ofArgument arg).Precedes [] := by
  unfold Item.ofArgument
  split
  · next hbare =>
    obtain ⟨hne, hquote, hblank⟩ := hbare
    exact ⟨hne, hquote, hblank, nofun⟩
  · next hbare => exact h.resolve_right hbare

/-- Every word of a line is an argument that can be written. -/
theorem Division.isWritable_of_mem_words {d : Division} (h : d.IsProper) :
    ∀ word ∈ d.words, IsWritable word := by
  induction d with
  | last gap => exact fun _ hmem ↦ absurd hmem List.not_mem_nil
  | cons gap item rest ih =>
    obtain ⟨-, hitem, hrest⟩ := h
    exact List.forall_mem_cons.2 ⟨hitem.isWritable, ih hrest⟩

/-! ### Items with a space before each of them -/

/-- Items with a space before each of them. -/
def spaced (items : List Item) : List Char := items.flatMap fun item ↦ ' ' :: item.written

theorem isBlank_of_mem_head?_spaced {items : List Item} {c : Char}
    (h : c ∈ (spaced items).head?) : Text.isBlank c = true := by
  cases items with
  | nil => exact absurd h (Option.not_mem_none c)
  | cons item items =>
    obtain rfl := Option.some.inj h
    decide

/-- Items with a space before each of them are read back. -/
theorem items?_spaced {items : List Item} (h : ∀ item ∈ items, item.Precedes []) :
    items? (spaced items) = some items := by
  induction items with
  | nil => rw [spaced, List.flatMap_nil, items?]
  | cons item items ih =>
    obtain ⟨hitem, hitems⟩ := List.forall_mem_cons.1 h
    have hgap : IsGap [' '] := by decide
    have hprecedes : item.Precedes (spaced items) := hitem.of_nil fun c ↦
      isBlank_of_mem_head?_spaced
    calc items? (spaced (item :: items))
        = items? ([' '] ++ (item.written ++ spaced items)) := by simp [spaced]
      _ = (items? (spaced items)).map (item :: ·) := by
          rw [items?_gap_append hgap, items?_written_append hprecedes]
      _ = some (item :: items) := by rw [ih hitems]; rfl

/-- What does not end with a blank. -/
def EndsFlush (cs : List Char) : Prop := ∀ c ∈ cs.getLast?, Text.isBlank c = false

/-- An item ends with its quote or with a character of its word, neither of which is blank. -/
theorem Item.Precedes.endsFlush {item : Item} {rest : List Char} (h : item.Precedes rest)
    (before : List Char) : EndsFlush (before ++ item.written) := by
  intro c hc
  cases item with
  | quoted content =>
    rw [written, ← List.cons_append, ← List.append_assoc, List.getLast?_concat] at hc
    obtain rfl := Option.some.inj hc
    exact isBlank_quote
  | bare content =>
    obtain ⟨hne, -, hblank, -⟩ := h
    rw [written, List.getLast?_append, List.getLast?_eq_some_getLast hne, Option.some_or] at hc
    obtain rfl := Option.some.inj hc
    exact hblank _ (List.getLast_mem hne)

/-- More items after a line end as the last of them does. -/
theorem EndsFlush.append_spaced {before : List Char} {items : List Item} (h : EndsFlush before)
    (hitems : ∀ item ∈ items, item.Precedes []) : EndsFlush (before ++ spaced items) := by
  induction items generalizing before with
  | nil => rwa [spaced, List.flatMap_nil, List.append_nil]
  | cons item items ih =>
    obtain ⟨hitem, hrest⟩ := List.forall_mem_cons.1 hitems
    have hfirst : before ++ spaced (item :: items) =
        (before ++ [' '] ++ item.written) ++ spaced items := by simp [spaced]
    rw [hfirst]
    exact ih (hitem.endsFlush _) hrest

/-- All line ends are blank, so none is trimmed off. -/
theorem trimLineEnd_of_endsFlush {line : String} (h : EndsFlush line.toList) :
    Text.trimLineEnd line = line := by
  have hhead : ∀ c ∈ line.toList.reverse.head?, Text.isLineEnd c = false := by
    intro c hc
    rw [List.head?_reverse] at hc
    refine Bool.eq_false_iff.2 fun hend ↦ ?_
    exact absurd ((h c hc).symm.trans (Text.isBlank_of_isLineEnd hend)) Bool.false_ne_true
  have hdrop : line.toList.reverse.dropWhile Text.isLineEnd = line.toList.reverse := by
    cases hcs : line.toList.reverse with
    | nil => rfl
    | cons c cs =>
      rw [List.dropWhile_cons_of_neg]
      rw [hhead c (by rw [hcs]; rfl)]
      decide
  rw [Text.trimLineEnd, Text.dropLineEnds, hdrop, List.reverse_reverse, String.ofList_toList]

/-! ### Reading what was written -/

/-- Arguments with spaces between them are a first item and more with a space before each. -/
theorem toList_intercalate_cons (arg : String) (argv : List String) :
    (" ".intercalate ((arg :: argv).map renderArgument)).toList =
      (Item.ofArgument arg).written ++ spaced (argv.map Item.ofArgument) := by
  induction argv generalizing arg with
  | nil => simp [spaced, Item.written_ofArgument]
  | cons next argv ih =>
    calc (" ".intercalate ((arg :: next :: argv).map renderArgument)).toList
        = (renderArgument arg).toList ++
            ' ' :: (" ".intercalate ((next :: argv).map renderArgument)).toList := by
          simp [String.intercalate_cons_cons]
      _ = _ := by rw [ih, ← Item.written_ofArgument]; simp [spaced]

/-- A line that holds the arguments, with a space between them, and then more items is read as all
of these, and nothing is trimmed off it. -/
theorem parse_of_toList {line : String} {argv : List String} {items : List Item}
    (hargv : ∀ arg ∈ argv, IsWritable arg) (hitems : ∀ item ∈ items, item.Precedes [])
    (h : line.toList = (" ".intercalate (argv.map renderArgument)).toList ++ spaced items) :
    parse line = .ok (ofWords line (argv ++ items.map fun item ↦ String.ofList item.content)) := by
  have hargs : ∀ {argv : List String}, (∀ arg ∈ argv, IsWritable arg) →
      ∀ item ∈ argv.map Item.ofArgument ++ items, item.Precedes [] := by
    intro argv hargv
    refine List.forall_mem_append.2 ⟨List.forall_mem_map.2 fun arg hmem ↦ ?_, hitems⟩
    exact (hargv arg hmem).precedes
  have hread : items? line.toList = some (argv.map Item.ofArgument ++ items) ∧
      EndsFlush line.toList := by
    rw [h]
    cases argv with
    | nil =>
      have hempty : EndsFlush [] := nofun
      exact ⟨items?_spaced hitems, hempty.append_spaced hitems⟩
    | cons arg argv =>
      obtain ⟨harg, hrest⟩ := List.forall_mem_cons.1 hargv
      have htail := hargs hrest
      rw [toList_intercalate_cons, List.append_assoc, spaced, spaced, ← List.flatMap_append,
        ← spaced]
      have hprecedes : (Item.ofArgument arg).Precedes
          (spaced (argv.map Item.ofArgument ++ items)) := harg.precedes.of_nil fun c ↦
        isBlank_of_mem_head?_spaced
      refine ⟨?_, (hprecedes.endsFlush []).append_spaced htail⟩
      rw [items?_written_append hprecedes, items?_spaced htail]
      rfl
  obtain ⟨hitems?, hflush⟩ := hread
  have hwords : (argv.map Item.ofArgument ++ items).map (fun item ↦ String.ofList item.content) =
      argv ++ items.map fun item ↦ String.ofList item.content := by
    simp [Function.comp_def, Item.content_ofArgument]
  simp only [parse, trimLineEnd_of_endsFlush hflush, hitems?, hwords]

/-- The item `&`, bare or quoted, is a mark. -/
theorem ofWords_append_mark (input : String) (argv : List String) :
    ofWords input (argv ++ [backgroundMark]) = ⟨input, argv, true⟩ :=
  (makes_iff.1 (.background argv)).symm

/-- The pair of arguments and background that a line can ask for. -/
def IsExpressible (argv : List String) (background : Bool) : Prop :=
  (∀ arg ∈ argv, IsWritable arg) ∧ (background = true ∨ argv.getLast? ≠ some backgroundMark)

theorem parse_render {argv : List String} {background : Bool} (h : IsExpressible argv background) :
    parse (render argv background) = .ok ⟨render argv background, argv, background⟩ := by
  obtain ⟨hargv, hlast⟩ := h
  cases background with
  | false =>
    have hline : (render argv false).toList =
        (" ".intercalate (argv.map renderArgument)).toList ++ spaced [] := by
      simp [render, spaced]
    rw [parse_of_toList hargv (List.forall_mem_nil _) hline, List.map_nil, List.append_nil, ofWords,
      if_neg (by simpa using hlast)]
  | true =>
    have hmark : ∀ item ∈ [Item.bare backgroundMark.toList], item.Precedes [] := by decide
    rw [parse_of_toList hargv hmark (by simp [render, spaced, Item.written, backgroundMark])]
    exact congrArg Except.ok (ofWords_append_mark ..)

theorem Makes.isExpressible {input : String} {words : List String} {command : Command}
    (h : Makes input words command) (hwords : ∀ word ∈ words, IsWritable word) :
    IsExpressible command.argv command.background := by
  cases h with
  | foreground hlast => exact ⟨hwords, .inr hlast⟩
  | background argv => exact ⟨(List.forall_mem_append.1 hwords).1, .inl rfl⟩

/-- What is read can be written. -/
theorem isExpressible_of_parse {line : String} {command : Command}
    (h : parse line = .ok command) : IsExpressible command.argv command.background := by
  by_cases hdivides : ∃ d : Division, d.Divides (Text.trimLineEnd line).toList
  · obtain ⟨d, hd⟩ := hdivides
    obtain rfl := Except.ok.inj ((parse_of_divides hd).symm.trans h)
    exact (makes_iff.2 rfl).isExpressible (Division.isWritable_of_mem_words hd.1)
  · cases (parse_of_not_divides hdivides).symm.trans h

theorem exists_parse_iff {argv : List String} {background : Bool} :
    (∃ line input, parse line = .ok ⟨input, argv, background⟩) ↔ IsExpressible argv background := by
  constructor
  · rintro ⟨line, input, h⟩
    exact isExpressible_of_parse h
  · exact fun h ↦ ⟨_, _, parse_render h⟩

/-- **What is written is read back, and nothing else can be read.** A line asks for some arguments,
in the foreground or beside the shell, if and only if each argument is free of quotes or may stand
bare, and in the foreground the last one is not an ampersand. The line that is written for such
arguments is read as these; so whatever was read can be written and read again. Of the arguments
that can be written, those and only those that end in an ampersand cannot be run in the foreground,
and an ampersand in quotes after some arguments runs them beside the shell as a bare one does. -/
theorem parse_render_exact :
    (∀ argv background, (∃ line input, parse line = .ok ⟨input, argv, background⟩) ↔
        (∀ arg ∈ argv, quote ∉ arg.toList ∨ IsBare arg) ∧
          (background = true ∨ argv.getLast? ≠ some backgroundMark)) ∧
      (∀ argv background, (∀ arg ∈ argv, quote ∉ arg.toList ∨ IsBare arg) →
        (background = true ∨ argv.getLast? ≠ some backgroundMark) →
          parse (render argv background) = .ok ⟨render argv background, argv, background⟩) ∧
      (∀ line command, parse line = .ok command →
        parse (render command.argv command.background) =
          .ok { command with input := render command.argv command.background }) ∧
      ∀ argv, (∀ arg ∈ argv, quote ∉ arg.toList ∨ IsBare arg) →
        ((¬∃ line input, parse line = .ok ⟨input, argv, false⟩) ↔
            argv.getLast? = some backgroundMark) ∧
          parse (render argv false ++ " \x27&\x27") =
            .ok ⟨render argv false ++ " \x27&\x27", argv, true⟩ := by
  refine ⟨fun argv background ↦ exists_parse_iff, fun argv background hargv hlast ↦ ?_,
    fun line command h ↦ ?_, fun argv hargv ↦ ⟨?_, ?_⟩⟩
  · exact parse_render ⟨hargv, hlast⟩
  · exact parse_render (isExpressible_of_parse h)
  · rw [exists_parse_iff, IsExpressible]
    constructor
    · intro hnot
      by_contra hlast
      exact hnot ⟨hargv, .inr hlast⟩
    · rintro hlast ⟨-, hfalse | hne⟩
      · cases hfalse
      · exact hne hlast
  · have hmark : ∀ item ∈ [Item.quoted backgroundMark.toList], item.Precedes [] := by decide
    rw [parse_of_toList hargv hmark (by simp [render, spaced, Item.written, backgroundMark, quote])]
    exact congrArg Except.ok (ofWords_append_mark ..)

-- An empty argument and one with a blank stand in quotes, and a quote inside a word does not.
example : render ["echo", "", "it\x27s", "a\nb"] true = "echo \x27\x27 it\x27s \x27a\nb\x27 &" := by
  decide +kernel

end JobShell.Command
