import ChainScript.Proofs.Trimming
import ChainScript.Pattern.Doc

/-! Cleaned documentation. Only blanks are dropped and only quotes are replaced, so all else is still there and in order;
and the lines that are left are such that cutting and cleaning them once more gives them again. -/

namespace ChainScript

namespace Text

theorem pieces_eq_splitOn (separator : Char) (text : List Char) :
    pieces (· = separator) text = text.splitOn separator := by
  induction text with
  | nil => rfl
  | cons c rest ih =>
    rw [pieces, ih, List.splitOn_cons_eq_if_modifyHead]
    by_cases cuts : c = separator
    · rw [if_pos (decide_eq_true cuts), if_pos (beq_iff_eq.mpr cuts)]
    · rw [if_neg (mt of_decide_eq_true cuts), if_neg (mt beq_iff_eq.mp cuts)]
      split
      next none => exact absurd none (List.splitOn_ne_nil _ _)
      next piece others made => rw [made, List.modifyHead_cons]

theorem sublist_of_mem_splitOn {separator : Char} {text piece : List Char} (member : piece ∈ text.splitOn separator) :
    piece.Sublist text ∧ separator ∉ piece := by
  induction text generalizing piece with
  | nil =>
    rw [List.splitOn_nil, List.mem_singleton] at member
    subst member
    exact ⟨.slnil, List.not_mem_nil⟩
  | cons c rest ih =>
    rw [List.splitOn_cons_eq_if_modifyHead] at member
    split at member
    next =>
      rcases List.mem_cons.mp member with rfl | later
      · exact ⟨List.nil_sublist _, List.not_mem_nil⟩
      · exact ⟨(ih later).1.cons c, (ih later).2⟩
    next uncut =>
      obtain ⟨first, others, made⟩ := List.exists_cons_of_ne_nil (List.splitOn_ne_nil separator rest)
      rw [made] at ih
      rw [made, List.modifyHead_cons] at member
      rcases List.mem_cons.mp member with rfl | later
      · obtain ⟨inside, whole⟩ := ih List.mem_cons_self
        have differs : separator ≠ c := fun same => uncut (beq_iff_eq.mpr same.symm)
        exact ⟨inside.cons_cons c, List.not_mem_cons_of_ne_of_not_mem differs whole⟩
      · obtain ⟨inside, whole⟩ := ih (List.mem_cons_of_mem first later)
        exact ⟨inside.cons c, whole⟩

theorem dropReturn_prefix (line : List Char) : dropReturn line <+: line := by
  unfold dropReturn
  split
  · exact List.dropLast_prefix line
  · exact List.prefix_rfl

theorem exists_of_mem_linesOf {pieces : List (List Char)} {line : List Char} (member : line ∈ linesOf pieces) :
    ∃ piece ∈ pieces, line <+: piece := by
  fun_induction linesOf pieces with
  | case1 => cases member
  | case2 => cases member
  | case3 last some =>
    rw [List.mem_singleton] at member
    exact ⟨last, List.mem_singleton_self last, member ▸ List.prefix_rfl⟩
  | case4 piece next rest ih =>
    rcases List.mem_cons.mp member with rfl | later
    · exact ⟨piece, List.mem_cons_self, dropReturn_prefix piece⟩
    · obtain ⟨other, found, inside⟩ := ih later
      exact ⟨other, List.mem_cons_of_mem piece found, inside⟩

/-- A line is part of the text, in order, and lies between two line feeds. -/
theorem sublist_of_mem_lines {text line : List Char} (member : line ∈ lines text) :
    line.Sublist text ∧ '\n' ∉ line := by
  obtain ⟨piece, found, inside⟩ := exists_of_mem_linesOf member
  rw [pieces_eq_splitOn] at found
  obtain ⟨within, whole⟩ := sublist_of_mem_splitOn found
  exact ⟨inside.sublist.trans within, fun broken => whole (inside.subset broken)⟩

/-- Lines that are not empty and without carriage returns are the lines among themselves. -/
theorem linesOf_eq_self {lines : List (List Char)} (each : ∀ line ∈ lines, line ≠ [] ∧ '\r' ∉ line) :
    linesOf lines = lines := by
  fun_induction linesOf lines with
  | case1 => rfl
  | case2 last none => exact absurd (List.isEmpty_iff.mp none) (each last List.mem_cons_self).1
  | case3 => rfl
  | case4 line next rest ih =>
    obtain ⟨first, others⟩ := List.forall_mem_cons.mp each
    have kept : dropReturn line = line := if_neg fun ends => first.2 (List.mem_of_getLast? ends)
    rw [kept, ih others]

theorem dark_flatten (texts : List (List Char)) : dark texts.flatten = (texts.map dark).flatten :=
  List.filter_flatten

theorem dark_trimStart (text : List Char) : dark (trimStart text) = dark text := by
  have margin : dark (text.takeWhile isBlank) = [] :=
    dark_eq_nil_iff.mpr fun c member => List.mem_takeWhile_imp member
  have whole := congrArg dark (@List.takeWhile_append_dropWhile _ isBlank text)
  rw [dark_append, margin, List.nil_append] at whole
  exact whole

theorem dark_dropReturn (line : List Char) : dark (dropReturn line) = dark line := by
  unfold dropReturn
  split
  next ends =>
    obtain ⟨front, rfl⟩ := List.getLast?_eq_some_iff.mp ends
    have blank : dark ['\r'] = [] := rfl
    rw [List.dropLast_concat, dark_append, blank, List.append_nil]
  next => rfl

theorem dark_linesOf (pieces : List (List Char)) : dark (linesOf pieces).flatten = dark pieces.flatten := by
  fun_induction linesOf pieces with
  | case1 => rfl
  | case2 last none => rw [List.isEmpty_iff.mp none]; rfl
  | case3 => rfl
  | case4 piece next rest ih =>
    rw [List.flatten_cons, dark_append, dark_dropReturn, ih, ← dark_append, ← List.flatten_cons]

theorem dark_intercalate (lines : List (List Char)) : dark (['\n'].intercalate lines) = dark lines.flatten := by
  induction lines with
  | nil => rfl
  | cons line rest ih =>
    cases rest with
    | nil => rw [List.intercalate_singleton, List.flatten_singleton]
    | cons next rest =>
      have blank : dark ['\n'] = [] := rfl
      rw [List.intercalate_cons_cons, dark_append, dark_append, blank, List.append_nil, ih, ← dark_append,
        ← List.flatten_cons]

/-- Cutting a text into lines drops nothing but blanks. -/
theorem dark_lines (text : List Char) : dark (lines text).flatten = dark text := by
  rw [lines, dark_linesOf, pieces_eq_splitOn, ← dark_intercalate, List.intercalate_splitOn]

end Text

namespace Doc
open Text

/-- A backquote for a quote. -/
def backquoted (c : Char) : Char :=
  if c = '"' then '\x60' else c

theorem isBlank_backquoted (c : Char) : isBlank (backquoted c) = isBlank c := by
  unfold backquoted
  split
  next quote => rw [quote]; rfl
  next => rfl

theorem backquoted_ne_quote (c : Char) : backquoted c ≠ '"' := by
  unfold backquoted
  split
  · decide
  · assumption

/-- What is in the text with quotes replaced was there before, backquotes apart. -/
theorem mem_of_mem_backquoted {text : List Char} {c : Char} (member : c ∈ text.map backquoted) (other : c ≠ '\x60') :
    c ∈ text := by
  obtain ⟨d, own, same⟩ := List.mem_map.mp member
  unfold backquoted at same
  split at same
  · exact absurd same.symm other
  · exact same ▸ own

theorem dark_backquoted (text : List Char) : dark (text.map backquoted) = (dark text).map backquoted := by
  have same : (fun c => !isBlank c) ∘ backquoted = fun c => !isBlank c :=
    funext fun c => congrArg (!·) (isBlank_backquoted c)
  rw [dark, List.filter_map, same]
  rfl

theorem dark_cleanLine (line : List Char) : dark (cleanLine line) = (dark line).map backquoted := by
  rw [← dark_trimStart line]
  exact dark_backquoted (trimStart line)

theorem dark_cleanLines (text : List Char) : dark (cleanLines text).flatten = (dark text).map backquoted := by
  rw [cleanLines, List.flatten_filter_not_isEmpty, dark_flatten, List.map_map, ← dark_lines text, dark_flatten,
    List.map_flatten, List.map_map]
  exact congrArg List.flatten (List.map_congr_left fun line _ => dark_cleanLine line)

/-- A line with something to see at its start. -/
def Flush (line : List Char) : Prop :=
  ∃ c rest, line = c :: rest ∧ isBlank c = false

/-- A line that cleaning leaves as it is. -/
structure Clean (line : List Char) : Prop where
  flush : Flush line
  unbroken : '\n' ∉ line
  unquoted : '"' ∉ line

theorem cleanLine_of_clean {line : List Char} (own : Clean line) : cleanLine line = line := by
  obtain ⟨c, rest, rfl, shown⟩ := own.flush
  have start : trimStart (c :: rest) = c :: rest :=
    List.dropWhile_cons_of_neg (Bool.eq_false_iff.mp shown)
  have same : ∀ d ∈ c :: rest, backquoted d = d := by
    intro d member
    apply if_neg
    rintro rfl
    exact own.unquoted member
  calc cleanLine (c :: rest)
      = (c :: rest).map backquoted := by rw [cleanLine, start]; rfl
    _ = c :: rest := by rw [List.map_congr_left same, List.map_id']

/-- A cleaned line is a part of the text with quotes replaced. -/
theorem exists_of_mem_cleanLines {text cleaned : List Char} (member : cleaned ∈ cleanLines text) :
    Clean cleaned ∧ ∃ line : List Char, line.Sublist text ∧ cleaned = line.map backquoted := by
  obtain ⟨made, filled⟩ := List.mem_filter.mp member
  obtain ⟨line, found, rfl⟩ := List.mem_map.mp made
  obtain ⟨within, whole⟩ := sublist_of_mem_lines found
  have inside : (trimStart line).Sublist line := List.dropWhile_sublist isBlank
  refine ⟨⟨?_, ?_, ?_⟩, trimStart line, inside.trans within, rfl⟩
  · cases start : trimStart line with
    | nil =>
      rw [cleanLine, start] at filled
      cases filled
    | cons c rest =>
      have shown : isBlank c = false := by
        have first := List.head?_dropWhile_not isBlank line
        unfold trimStart at start
        rw [start] at first
        exact first
      refine ⟨backquoted c, rest.map backquoted, ?_, (isBlank_backquoted c).trans shown⟩
      rw [cleanLine, start]
      rfl
  · exact fun broken => whole (inside.subset (mem_of_mem_backquoted broken (by decide)))
  · intro quoted
    obtain ⟨c, -, same⟩ := List.mem_map.mp quoted
    exact backquoted_ne_quote c same

theorem toList_clean (text : String) : (clean text).toList = ['\n'].intercalate (cleanLines text.toList) := by
  have same : String.toList ∘ String.ofList = id := funext fun _ => String.toList_ofList
  rw [clean, String.toList_intercalate, List.map_map, same, List.map_id]
  rfl

theorem splitOn_clean {text : String} (some : cleanLines text.toList ≠ []) :
    (clean text).toList.splitOn '\n' = cleanLines text.toList := by
  rw [toList_clean]
  exact List.splitOn_intercalate '\n' (fun line member => (exists_of_mem_cleanLines member).1.unbroken) some

/-- Without carriage returns, cleaned documentation is cut into the lines that it was made of. -/
theorem lines_clean {text : String} (plain : '\r' ∉ text.toList) :
    lines (clean text).toList = cleanLines text.toList := by
  by_cases some : cleanLines text.toList = []
  · rw [toList_clean, some]
    rfl
  · rw [lines, pieces_eq_splitOn, splitOn_clean some]
    refine linesOf_eq_self fun cleaned member => ?_
    obtain ⟨own, line, within, rfl⟩ := exists_of_mem_cleanLines member
    obtain ⟨c, rest, filled, -⟩ := own.flush
    refine ⟨filled ▸ List.cons_ne_nil c rest, fun returned => plain ?_⟩
    exact within.subset (mem_of_mem_backquoted returned (by decide))

theorem cleanLines_clean {text : String} (plain : '\r' ∉ text.toList) :
    cleanLines (clean text).toList = cleanLines text.toList := by
  have each : ∀ cleaned ∈ cleanLines text.toList, Clean cleaned :=
    fun cleaned member => (exists_of_mem_cleanLines member).1
  have fixed : (cleanLines text.toList).map cleanLine = cleanLines text.toList := by
    rw [List.map_congr_left fun cleaned member => cleanLine_of_clean (each cleaned member), List.map_id']
  rw [cleanLines, lines_clean plain, fixed, List.filter_eq_self]
  intro cleaned member
  obtain ⟨c, rest, rfl, -⟩ := (each cleaned member).flush
  rfl

/-- Every line of cleaned documentation has something to see at its start. It holds no quote, and what can be seen of it
is what can be seen of the original, with backquotes for quotes. Without carriage returns, cleaning it once more changes
nothing. -/
theorem clean_normal (text : String) :
    (clean text ≠ "" → ∀ line ∈ (clean text).toList.splitOn '\n', Flush line) ∧
      '"' ∉ (clean text).toList ∧ dark (clean text).toList = (dark text.toList).map backquoted ∧
      ('\r' ∉ text.toList → clean (clean text) = clean text) := by
  have shown : dark (clean text).toList = (dark text.toList).map backquoted := by
    rw [toList_clean, dark_intercalate, dark_cleanLines]
  refine ⟨?_, ?_, shown, ?_⟩
  · intro filled
    have some : cleanLines text.toList ≠ [] := by
      intro none
      apply filled
      rw [clean, none]
      rfl
    rw [splitOn_clean some]
    exact fun cleaned member => (exists_of_mem_cleanLines member).1.flush
  · intro quoted
    have seen : '"' ∈ dark (clean text).toList := List.mem_filter.mpr ⟨quoted, rfl⟩
    rw [shown] at seen
    obtain ⟨c, -, same⟩ := List.mem_map.mp seen
    exact backquoted_ne_quote c same
  · intro plain
    rw [clean, cleanLines_clean plain]
    rfl

/-- Wide blanks and empty lines go, blanks at the end of a line stay. -/
theorem clean_normal_quoted :
    let text := "\n\u2003#### Go\n   \n\n\t* \"Go <To>\" - moves \n    "
    clean text = "#### Go\n* \x60Go <To>\x60 - moves " ∧
      (∀ line ∈ (clean text).toList.splitOn '\n', Flush line) ∧ clean (clean text) = clean text := by
  intro text
  have made : clean text = "#### Go\n* \x60Go <To>\x60 - moves " := by decide +kernel
  have filled : clean text ≠ "" := by rw [made]; decide
  obtain ⟨flush, -, -, again⟩ := clean_normal text
  exact ⟨made, flush filled, again (by decide)⟩

/-- Of two carriage returns at the end of a line, one goes each time. -/
example : clean (clean "Go\r\r\nTo") ≠ clean "Go\r\r\nTo" := by decide +kernel

end Doc

end ChainScript
