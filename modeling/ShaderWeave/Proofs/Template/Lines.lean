import ShaderWeave.Proofs.Template.Indentation

/-! # Templates cut behind line breaks

A marker and all that goes with it lie on one line and the break at its end, and so does a keyword that opens no marker.
So a text may be cut behind any line feed: the parts are resolved like the whole, and every line as if it were alone.
-/

namespace ShaderWeave.Marker

variable {text front behind : List Char}

/-- Nothing, or text up to a line feed. -/
def WholeLines (text : List Char) : Prop := text = [] ∨ ['\n'] <:+ text

/-- The lines of a text, each with the line feed at its end. -/
def lines : List Char → List (List Char)
  | [] => []
  | char :: rest =>
    if char = '\n' then [char] :: lines rest
    else
      match lines rest with
      | [] => [[char]]
      | line :: others => (char :: line) :: others

/-! ## Cuts -/

theorem ends_of_append (ends : ['\n'] <:+ front ++ behind) (filled : behind ≠ []) : ['\n'] <:+ behind :=
  List.suffix_of_suffix_length_le ends (List.suffix_append ..) (List.length_pos_iff.2 filled)

theorem WholeLines.of_append (whole : WholeLines (front ++ behind)) : WholeLines behind := by
  by_cases filled : behind = []
  · exact .inl filled
  · rcases whole with empty | ends
    · exact .inl (List.append_eq_nil_iff.1 empty).2
    · exact .inr (ends_of_append ends filled)

theorem mem_of_ends (ends : ['\n'] <:+ text) : '\n' ∈ text :=
  ends.subset (List.mem_singleton_self _)

/-- A run of other characters ends in front of the line feed, whatever stands behind it. -/
theorem span_append_of_ends {p : Char → Bool} (feed : p '\n' = false) (ends : ['\n'] <:+ text) (more : List Char) :
    (text ++ more).takeWhile p = text.takeWhile p ∧ (text ++ more).dropWhile p = text.dropWhile p ++ more ∧
      ['\n'] <:+ text.dropWhile p := by
  have filled : text.dropWhile p ≠ [] := by
    rw [Ne, List.dropWhile_eq_nil_iff]
    intro inside
    simp [inside _ (mem_of_ends ends)] at feed
  have whole : text.takeWhile p ++ (text.dropWhile p ++ more) = text ++ more := by
    rw [← List.append_assoc, List.takeWhile_append_dropWhile]
  have stops : ∀ char ∈ (text.dropWhile p ++ more).head?, p char = false := by
    rw [List.head?_append_of_ne_nil _ filled]
    exact head?_dropWhile_eq_false
  obtain ⟨taken, left⟩ := span_append (fun _ => List.mem_takeWhile_imp) stops
  rw [whole] at taken left
  have split := (List.takeWhile_append_dropWhile (p := p) (l := text)).symm
  exact ⟨taken, left, ends_of_append (split ▸ ends) filled⟩

/-- What begins with `start` does so in front of the cut, for a line feed can only be the last of it. -/
theorem prefix_of_append {start more : List Char} (last : '\n' ∉ start.dropLast) (breaks : '\n' ∈ text)
    (begins : start <+: text ++ more) : start <+: text := by
  rcases List.prefix_or_prefix_of_prefix begins (List.prefix_append text more) with inside | ⟨rest, rfl⟩
  · exact inside
  · by_cases none : rest = []
    · rw [none, List.append_nil]
    · rw [List.dropLast_append_of_ne_nil none] at last
      exact absurd (List.mem_append_left _ breaks) last

/-! ## Reading up to a cut -/

theorem dropLineBreak_of_no_break (apart : ¬ (['\n'] <+: text ∨ ['\r', '\n'] <+: text)) :
    dropLineBreak text = (text.isEmpty, text) := by
  unfold dropLineBreak
  split
  · exact absurd (.inr ⟨_, rfl⟩) apart
  · exact absurd (.inl ⟨_, rfl⟩) apart
  · rfl

theorem dropLineBreak_append (breaks : '\n' ∈ text) (more : List Char) :
    dropLineBreak (text ++ more) = ((dropLineBreak text).1, (dropLineBreak text).2 ++ more) := by
  by_cases begins : ['\n'] <+: text ∨ ['\r', '\n'] <+: text
  · rcases begins with ⟨rest, rfl⟩ | ⟨rest, rfl⟩ <;> rfl
  · have apart : ¬ (['\n'] <+: text ++ more ∨ ['\r', '\n'] <+: text ++ more) :=
      mt (Or.imp (prefix_of_append (by decide) breaks) (prefix_of_append (by decide) breaks)) begins
    obtain ⟨char, rest, rfl⟩ := List.exists_cons_of_ne_nil (List.ne_nil_of_mem breaks)
    rw [dropLineBreak_of_no_break begins, dropLineBreak_of_no_break apart]
    rfl

/-- A marker in front of a cut is read without what stands behind the cut. -/
theorem readTail?_append (ends : ['\n'] <:+ behind) (more : List Char) :
    readTail? (behind ++ more) = (readTail? behind).map fun tail => { tail with rest := tail.rest ++ more } := by
  obtain ⟨-, trimmed, ends'⟩ := span_append_of_ends (p := isInlineBlank) (by decide) ends more
  obtain ⟨name, unnamed, ends''⟩ := span_append_of_ends (p := Text.isWordChar) (by decide) ends' more
  obtain ⟨-, bare, breaks⟩ := span_append_of_ends (p := isInlineBlank) (by decide) ends'' more
  have gap : ((behind.dropWhile isInlineBlank ++ more).length = (behind ++ more).length) ↔
      (behind.dropWhile isInlineBlank).length = behind.length := by simp
  simp only [readTail?, trimmed, name, unnamed, bare, dropLineBreak_append (mem_of_ends breaks), gap]
  split <;> rfl

private theorem dropStart?_eq_none_iff {start : List Char} : dropStart? start text = none ↔ ¬ start <+: text := by
  rw [dropStart?, ite_eq_right_iff, ← List.isPrefixOf_iff_prefix]
  simp

/-- The first keyword of a text stays the first one. -/
theorem splitAtKeyword_append_of_some (found : splitAtKeyword text = some (front, behind)) (more : List Char) :
    splitAtKeyword (text ++ more) = some (front, behind ++ more) := by
  induction text generalizing front with
  | nil => cases found
  | cons char rest ih =>
    obtain ⟨whole, -⟩ := eq_append_of_splitAtKeyword found
    rw [splitAtKeyword] at found
    rw [List.cons_append, splitAtKeyword]
    split at found
    · next opens =>
      obtain ⟨rfl, rfl⟩ := Prod.mk.inj (Option.some.inj found)
      rw [← List.cons_append, dropStart?_eq_some_iff.1 opens, List.append_assoc, dropStart?_eq_some_iff.2 rfl]
    · next apart =>
      obtain ⟨⟨passed, left⟩, later, same⟩ := Option.map_eq_some_iff.1 found
      obtain ⟨rfl, rfl⟩ := Prod.mk.inj same
      have long : keyword.length ≤ (char :: rest).length := by
        rw [whole]
        simp only [List.length_append]
        omega
      have closed : dropStart? keyword (char :: (rest ++ more)) = none := by
        rw [dropStart?_eq_none_iff] at apart ⊢
        exact fun begins => apart (List.prefix_of_prefix_length_le begins (List.prefix_append _ more) long)
      rw [closed, ih later]
      rfl

/-- Behind whole lines without a keyword, the first keyword is that of the rest. -/
theorem splitAtKeyword_append_of_none (none : splitAtKeyword text = none) (whole : WholeLines text) (more : List Char) :
    splitAtKeyword (text ++ more) = (splitAtKeyword more).map fun (front, behind) => (text ++ front, behind) := by
  induction text with
  | nil => exact (Option.map_id' ..).symm
  | cons char rest ih =>
    rw [splitAtKeyword] at none
    split at none
    · cases none
    · next apart =>
      have closed : dropStart? keyword (char :: (rest ++ more)) = Option.none := by
        rw [dropStart?_eq_none_iff] at apart ⊢
        have ends : ['\n'] <:+ char :: rest := whole.resolve_left (List.cons_ne_nil _ _)
        have inside : keyword <+: char :: rest ++ more → keyword <+: char :: rest :=
          prefix_of_append (by decide) (mem_of_ends ends)
        exact mt inside apart
      have later : WholeLines rest := WholeLines.of_append (show WholeLines ([char] ++ rest) from whole)
      rw [List.cons_append, splitAtKeyword, closed, ih (Option.map_eq_none_iff.1 none) later, Option.map_map]
      rfl

/-! ## Resolving part by part -/

/-- A marker has nothing to take from the lines above its own. -/
theorem keptFront_append (whole : WholeLines front) (more : List Char) (endsLine : Bool) :
    keptFront (front ++ more) endsLine = front ++ keptFront more endsLine := by
  have line : lastLine (front ++ more) = lastLine more := by
    by_cases breaks : '\n' ∈ more
    · exact lastLine_append_of_mem breaks
    · have above : lastLine front = [] := by
        rcases whole with rfl | ⟨lines, rfl⟩
        · rfl
        · exact lastLine_append_of_mem (List.mem_singleton_self _)
      rw [lastLine_append_of_free breaks, above, lastLine_eq_of_free breaks]
      rfl
  have kept : throughLastBreak (front ++ more) = front ++ throughLastBreak more := by
    have joint : throughLastBreak (front ++ more) ++ lastLine more = front ++ throughLastBreak more ++ lastLine more := by
      rw [List.append_assoc, throughLastBreak_append_lastLine, ← line, throughLastBreak_append_lastLine]
    exact List.append_cancel_right joint
  rw [keptFront, keptFront, line, kept, apply_ite (front ++ ·)]

/-- Whole lines do not end with the keyword. -/
theorem ends_of_splitAtKeyword (found : splitAtKeyword text = some (front, behind)) (whole : WholeLines text) :
    ['\n'] <:+ behind := by
  obtain ⟨rfl, -⟩ := eq_append_of_splitAtKeyword found
  have ends : ['\n'] <:+ keyword ++ behind := whole.of_append.resolve_left (by simp [keyword])
  refine ends_of_append ends ?_
  rintro rfl
  exact absurd (mem_of_ends ends) (by decide)

/-- Whole lines are resolved on their own, and so is what stands behind them. -/
theorem fill_pieces_append (whole : WholeLines text) (more : List Char) (code : String → Option String) :
    fill code (pieces (text ++ more)) = fill code (pieces text) ++ fill code (pieces more) := by
  induction text using pieces.induct with
  | case1 text none =>
    have joint := splitAtKeyword_append_of_none none whole more
    rw [pieces_of_none none]
    cases found : splitAtKeyword more with
    | none =>
      rw [found] at joint
      rw [pieces_of_none found, pieces_of_none joint]
      simp [fill, Piece.render]
    | some parts =>
      obtain ⟨front, behind⟩ := parts
      rw [found] at joint
      cases read : readTail? behind with
      | none =>
        rw [pieces_of_plain found read, pieces_of_plain joint read]
        simp [fill, Piece.render]
      | some tail =>
        rw [pieces_of_marker found read, pieces_of_marker joint read, keptFront_append whole]
        simp [fill, Piece.render]
  | case2 text front behind found plain ih =>
    have ends := ends_of_splitAtKeyword found whole
    have plain' : readTail? (behind ++ more) = none := by rw [readTail?_append ends, plain, Option.map_none]
    have later := ih (.inr ends)
    rw [pieces_of_plain found plain, pieces_of_plain (splitAtKeyword_append_of_some found more) plain']
    simp only [fill, List.flatMap_cons, List.append_assoc] at later ⊢
    rw [later]
  | case3 text front behind found tail read ih =>
    have ends := ends_of_splitAtKeyword found whole
    have read' := readTail?_append ends more
    rw [read, Option.map_some] at read'
    obtain ⟨cut, reads⟩ := exists_cut read front
    rw [reads.behind_eq] at ends
    have later := ih (WholeLines.of_append (.inr ends))
    rw [pieces_of_marker found read, pieces_of_marker (splitAtKeyword_append_of_some found more) read']
    simp only [fill, List.flatMap_cons, List.append_assoc] at later ⊢
    rw [later]

theorem resolve_append {first : String} (whole : WholeLines first.toList) (second : String) (slots : SlotBuffer) :
    resolve (first ++ second) slots = resolve first slots ++ resolve second slots := by
  rw [resolve, String.toList_append, fill_pieces_append whole, String.ofList_append]
  rfl

/-! ## Lines -/

/-- Lines are cut behind each line feed, and nowhere else. -/
theorem lines_spec (text : List Char) :
    (lines text).flatten = text ∧ (∀ line ∈ lines text, line ≠ [] ∧ '\n' ∉ line.dropLast) ∧
      ∀ line ∈ (lines text).dropLast, ['\n'] <:+ line := by
  induction text with
  | nil => simp [lines]
  | cons char rest ih =>
    obtain ⟨whole, cut, ends⟩ := ih
    rw [lines]
    split
    · next feed =>
      subst feed
      refine ⟨by simp [whole], List.forall_mem_cons.2 ⟨by simp, cut⟩, ?_⟩
      cases more : lines rest with
      | nil => simp
      | cons line others =>
        rw [List.dropLast_cons_cons]
        exact List.forall_mem_cons.2 ⟨List.suffix_rfl, more ▸ ends⟩
    · next apart =>
      cases more : lines rest with
      | nil =>
        rw [more] at whole
        simp [← whole]
      | cons line others =>
        rw [more] at whole cut ends
        obtain ⟨⟨filled, first⟩, cut⟩ := List.forall_mem_cons.1 cut
        refine ⟨by simp [← whole], List.forall_mem_cons.2 ⟨⟨List.cons_ne_nil _ _, ?_⟩, cut⟩, ?_⟩
        · rw [List.dropLast_cons_of_ne_nil filled, List.mem_cons, not_or]
          exact ⟨Ne.symm apart, first⟩
        · cases others with
          | nil => simp
          | cons second others =>
            rw [List.dropLast_cons_cons] at ends ⊢
            obtain ⟨here, ends⟩ := List.forall_mem_cons.1 ends
            exact List.forall_mem_cons.2 ⟨here.trans (List.suffix_cons ..), ends⟩

/-- Lines with a feed at the end of each are resolved one by one, and so is what stands behind them. -/
theorem fill_pieces_flatten {lines : List (List Char)} (ends : ∀ line ∈ lines, ['\n'] <:+ line) (last : List Char)
    (code : String → Option String) :
    fill code (pieces (lines.flatten ++ last)) =
      lines.flatMap (fun line => fill code (pieces line)) ++ fill code (pieces last) := by
  induction lines with
  | nil => rfl
  | cons line others ih =>
    obtain ⟨here, ends⟩ := List.forall_mem_cons.1 ends
    rw [List.flatten_cons, List.append_assoc, fill_pieces_append (.inr here), ih ends, List.flatMap_cons,
      List.append_assoc]

theorem fill_pieces_eq_flatMap_lines (text : List Char) (code : String → Option String) :
    fill code (pieces text) = (lines text).flatMap fun line => fill code (pieces line) := by
  obtain ⟨whole, -, ends⟩ := lines_spec text
  rcases List.eq_nil_or_concat (lines text) with none | ⟨front, last, split⟩
  · rw [none] at whole ⊢
    rw [← whole, List.flatten_nil, pieces_of_none rfl]
    rfl
  · rw [split] at whole ends ⊢
    rw [List.concat_eq_append, List.dropLast_concat] at ends
    simpa [← whole] using fill_pieces_flatten ends last code

/-- Templates are resolved line by line: cut behind any line feed, both parts are resolved on their own, and the
resolved text is that of its lines, one behind the other. -/
theorem resolve_linewise (slots : SlotBuffer) :
    (∀ first second : String, WholeLines first.toList →
      resolve (first ++ second) slots = resolve first slots ++ resolve second slots) ∧
    ∀ source : String, resolve source slots =
      String.join ((lines source.toList).map fun line => resolve (String.ofList line) slots) := by
  refine ⟨fun first second whole => resolve_append whole second slots, fun source => ?_⟩
  apply String.toList_inj.1
  rw [String.toList_join, resolve, String.toList_ofList, fill_pieces_eq_flatMap_lines]
  simp [List.flatMap_def, resolve, Function.comp_def]

/-- Neither the keyword that opens no marker nor the swallowed break reaches the next line. -/
theorem resolve_behind_keyword :
    WholeLines "#pragma SLOT \t #pragma SLOT pf\r\n".toList ∧
      resolve ("#pragma SLOT \t #pragma SLOT pf\r\n" ++ "  #pragma SLOT lightsf\n") (SlotBuffer.empty.add "pf" "X") =
        resolve "#pragma SLOT \t #pragma SLOT pf\r\n" (SlotBuffer.empty.add "pf" "X") ++
          resolve "  #pragma SLOT lightsf\n" (SlotBuffer.empty.add "pf" "X") :=
  have whole : WholeLines "#pragma SLOT \t #pragma SLOT pf\r\n".toList := .inr (by decide)
  ⟨whole, (resolve_linewise (SlotBuffer.empty.add "pf" "X")).1 _ _ whole⟩

end ShaderWeave.Marker
