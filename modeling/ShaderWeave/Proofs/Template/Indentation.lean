import ShaderWeave.Proofs.Template.Substitution

/-! # What goes with a marker

A marker that stands alone on its line takes the blanks in front of it along, any other one leaves them. The line is
read in the text that is still to be resolved. It begins behind the last marker, or behind the last keyword that opened
none, so that blanks between such a keyword and a marker at the end of the line go too.
-/

namespace ShaderWeave.Marker

variable {text front behind before after passed earlier blanks gap name last : List Char} {cut : Cut} {cuts : List Cut}
  {tail : Tail}

/-! ## Lines -/

/-- Nothing but blanks stands in front of the next line break, or of the end of the text. -/
def EndsLine (behind : List Char) : Prop :=
  ∃ blanks rest, behind = blanks ++ rest ∧ (∀ char ∈ blanks, isInlineBlank char = true) ∧
    (rest = [] ∨ ['\n'] <+: rest ∨ ['\r', '\n'] <+: rest)

/-- Nothing but blanks stands on the line, around what is between `before` and `behind`. -/
def StandsAlone (before behind : List Char) : Prop :=
  (∀ char ∈ lastLine before, isInlineBlank char = true) ∧ EndsLine behind

/-- At the end of a line, with nothing but blanks between a keyword and this place. -/
def BehindKeyword (before behind : List Char) : Prop :=
  EndsLine behind ∧ ∃ earlier blanks, before = earlier ++ (keyword ++ blanks) ∧ blanks ≠ [] ∧
    ∀ char ∈ blanks, isInlineBlank char = true

/-- The text has a marker between `before` and `behind`. -/
structure MarkerAt (text before gap name behind : List Char) : Prop where
  text_eq : text = before ++ (keyword ++ (gap ++ (name ++ behind)))
  isGap : gap ≠ [] ∧ ∀ char ∈ gap, isInlineBlank char = true
  isName : name ≠ [] ∧ ∀ char ∈ name, Text.isWordChar char = true
  ends : ∀ char ∈ behind.head?, Text.isWordChar char = false

/-- What goes with a marker between `before` and `behind`. The blanks and the line break behind it go. The blanks in
front of it go when it stands alone on its line, and otherwise stay, but where they are `lost`. -/
structure Trims (lost : List Char → List Char → Prop) (before behind : List Char) (cut : Cut) : Prop where
  alone : StandsAlone before behind → cut.indent = lastLine before
  inline : ¬ StandsAlone before behind → (cut.indent = [] ↔ ¬ lost before behind)
  trailing : cut.trailing = behind.takeWhile isInlineBlank
  lineBreak : cut.lineBreak = [] → ¬ ['\n'] <+: behind.dropWhile isInlineBlank ∧
    ¬ ['\r', '\n'] <+: behind.dropWhile isInlineBlank

/-- The cut is the one of the marker between `before` and `behind`. -/
structure Cut.Takes (cut : Cut) (cuts : List Cut) (last before gap name behind : List Char) : Prop where
  place : ∃ passed others, cuts = passed ++ cut :: others ∧
    before = passed.flatMap Cut.source ++ (cut.kept ++ cut.indent) ∧
    behind = cut.trailing ++ (cut.lineBreak ++ (others.flatMap Cut.source ++ last))
  gap : cut.gap = gap
  name : cut.name = name

/-- Resolving cuts the markers out of the text, and with each of them what `Trims` says. All other text stays. -/
def Resolves (lost : List Char → List Char → Prop) (source : String) : Prop :=
  ∃ cuts last, source.toList = cuts.flatMap Cut.source ++ last ∧ cuts.map Cut.name = names source.toList ∧
    (∀ slots, resolve source slots = String.ofList (cuts.flatMap (Cut.filled slots.get?) ++ last)) ∧
    ∀ before gap name behind, MarkerAt source.toList before gap name behind →
      ∃ cut : Cut, cut.Takes cuts last before gap name behind ∧ Trims lost before behind cut

/-! ## Last lines -/

theorem lastLine_append_of_free (free : '\n' ∉ behind) : lastLine (front ++ behind) = lastLine front ++ behind := by
  have kept : ∀ char ∈ behind.reverse, (char != '\n') = true := by
    intro char member
    exact bne_iff_ne.2 fun same => free (same ▸ List.mem_reverse.1 member)
  rw [lastLine, List.reverse_append, List.takeWhile_append_of_pos kept, List.reverse_append, List.reverse_reverse,
    lastLine]

theorem lastLine_eq_of_free (free : '\n' ∉ text) : lastLine text = text :=
  @lastLine_append_of_free [] text free

/-- What stands in front of a line break is not on the last line. -/
theorem lastLine_append_of_mem (breaks : '\n' ∈ behind) : lastLine (front ++ behind) = lastLine behind := by
  obtain ⟨line, lines, split, free⟩ := List.eq_append_cons_of_mem (List.mem_reverse.2 breaks)
  have kept : ∀ char ∈ line, (char != '\n') = true :=
    fun char member => bne_iff_ne.2 fun same => free (same ▸ member)
  have ends : ∀ others : List Char, ∀ char ∈ ('\n' :: others).head?, (char != '\n') = false := by
    rintro others char ⟨⟩
    rfl
  rw [lastLine, lastLine, List.reverse_append, split, List.append_assoc, List.cons_append,
    (span_append kept (ends _)).1, (span_append kept (ends _)).1]

/-! ## The first keyword -/

/-- No keyword begins in front of the first one. -/
theorem length_front_le (found : splitAtKeyword (before ++ (keyword ++ after)) = some (front, behind)) :
    front.length ≤ before.length := by
  induction before generalizing front with
  | nil =>
    have opens : splitAtKeyword (keyword ++ after) = some ([], after) := by
      change splitAtKeyword ('#' :: (keyword.tail ++ after)) = _
      rw [splitAtKeyword, show '#' :: (keyword.tail ++ after) = keyword ++ after from rfl,
        dropStart?_eq_some_iff.2 rfl]
    rw [List.nil_append, opens] at found
    cases found
    exact Nat.le_refl _
  | cons char before ih =>
    rw [List.cons_append, splitAtKeyword] at found
    split at found
    · cases found
      exact Nat.zero_le _
    · obtain ⟨⟨others, rest⟩, later, same⟩ := Option.map_eq_some_iff.1 found
      obtain ⟨rfl, rfl⟩ := Prod.mk.inj same
      exact Nat.succ_le_succ (ih later)

/-- There is no keyword in the text in front of the first one. -/
theorem front_ne (found : splitAtKeyword text = some (front, behind)) :
    front ≠ before ++ (keyword ++ after) := by
  rintro rfl
  obtain ⟨rfl, -⟩ := eq_append_of_splitAtKeyword found
  rw [List.append_assoc, List.append_assoc] at found
  have first := length_front_le found
  simp only [List.length_append, keyword, List.length_cons] at first
  omega

theorem free_of_blanks {char : Char} (isBlank : ∀ char ∈ blanks, isInlineBlank char = true)
    (inked : isInlineBlank char = false) : char ∉ blanks := by
  intro member
  rw [isBlank char member] at inked
  cases inked

/-- Of two keywords, only the last one has nothing but blanks behind it. -/
theorem eq_blanks_or_keyword (isBlank : ∀ char ∈ blanks, isInlineBlank char = true)
    (same : passed ++ (keyword ++ front) = earlier ++ (keyword ++ blanks)) :
    front = blanks ∨ ∃ between, front = between ++ (keyword ++ blanks) := by
  have free : '#' ∉ keyword.tail ++ blanks :=
    fun member => (List.mem_append.1 member).elim (by decide) (free_of_blanks isBlank (by decide))
  rcases List.append_eq_append_iff.1 same with ⟨more, rfl, ends⟩ | ⟨more, rfl, ends⟩
  · cases more with
    | nil => exact .inl (List.append_cancel_left ends)
    | cons char more =>
      have skips : keyword.tail ++ front = more ++ (keyword ++ blanks) := (List.cons.inj ends).2
      obtain ⟨between, -, split⟩ := skip_free (by decide) skips
      exact .inr ⟨between, split⟩
  · cases more with
    | nil => exact .inl (List.append_cancel_left ends).symm
    | cons char more =>
      have skips : keyword.tail ++ blanks = more ++ (keyword ++ front) := (List.cons.inj ends).2
      rw [skips] at free
      exact absurd (List.mem_append_right _ (List.mem_append_left _ (by decide))) free

/-! ## One marker -/

theorem dropLineBreak_fst_iff :
    (dropLineBreak text).1 = true ↔ text = [] ∨ ['\n'] <+: text ∨ ['\r', '\n'] <+: text := by
  unfold dropLineBreak
  split
  · exact iff_of_true rfl (.inr (.inr ⟨_, rfl⟩))
  · exact iff_of_true rfl (.inr (.inl ⟨_, rfl⟩))
  · next apart other =>
    rw [List.isEmpty_iff]
    refine ⟨.inl, ?_⟩
    rintro (empty | ⟨rest, rfl⟩ | ⟨rest, rfl⟩)
    · exact empty
    · exact absurd rfl (other rest)
    · exact absurd rfl (apart rest)

theorem length_dropLineBreak_lt (breaks : ['\n'] <+: text ∨ ['\r', '\n'] <+: text) :
    (dropLineBreak text).2.length < text.length := by
  rcases breaks with ⟨rest, rfl⟩ | ⟨rest, rfl⟩
  · exact Nat.lt_succ_self rest.length
  · exact Nat.lt_succ_of_lt (Nat.lt_succ_self rest.length)

theorem endsLine_iff (isBlank : ∀ char ∈ blanks, isInlineBlank char = true)
    (ends : ∀ char ∈ after.head?, isInlineBlank char = false) :
    EndsLine (blanks ++ after) ↔ (dropLineBreak after).1 = true := by
  rw [dropLineBreak_fst_iff]
  constructor
  · rintro ⟨others, rest, split, areBlank, breaks⟩
    have stops : ∀ char ∈ rest.head?, isInlineBlank char = false := by
      rcases breaks with rfl | ⟨more, rfl⟩ | ⟨more, rfl⟩
      · rintro char ⟨⟩
      · rintro char ⟨⟩
        decide
      · rintro char ⟨⟩
        decide
    obtain rfl : after = rest := by
      rw [← (span_append isBlank ends).2, split, (span_append areBlank stops).2]
    exact breaks
  · exact fun breaks => ⟨blanks, after, rfl, isBlank, breaks⟩

namespace Cut.Reads

variable (reads : cut.Reads front after tail)

include reads

theorem endsLine_iff : EndsLine (cut.trailing ++ (cut.lineBreak ++ tail.rest)) ↔ tail.endsLine = true := by
  rw [Marker.endsLine_iff cut.isTrailing reads.trailingEnds, reads.lineBreak]

/-- The blanks go if nothing else is on the line, as far as it is still to be read. -/
theorem indent_eq_of_blank (ends : EndsLine (cut.trailing ++ (cut.lineBreak ++ tail.rest)))
    (isBlank : ∀ char ∈ lastLine front, isInlineBlank char = true) : cut.indent = lastLine front := by
  have kept : cut.kept = throughLastBreak front := by
    rw [reads.kept, keptFront, reads.endsLine_iff.1 ends, List.all_eq_true.2 isBlank]
    rfl
  exact List.append_cancel_left ((kept ▸ reads.front_eq.symm).trans (throughLastBreak_append_lastLine front).symm)

theorem indent_eq_nil (stays : ¬ (EndsLine (cut.trailing ++ (cut.lineBreak ++ tail.rest)) ∧
    ∀ char ∈ lastLine front, isInlineBlank char = true)) : cut.indent = [] := by
  have kept : cut.kept = front := by
    rw [reads.kept, keptFront, if_neg]
    rwa [Bool.and_eq_true, List.all_eq_true, ← reads.endsLine_iff]
  exact List.self_eq_append_right.1 (kept ▸ reads.front_eq)

/-- The blanks and the line break behind the name go. -/
theorem behind_goes : cut.trailing = (cut.trailing ++ (cut.lineBreak ++ tail.rest)).takeWhile isInlineBlank ∧
    (cut.lineBreak = [] →
      ¬ ['\n'] <+: (cut.trailing ++ (cut.lineBreak ++ tail.rest)).dropWhile isInlineBlank ∧
      ¬ ['\r', '\n'] <+: (cut.trailing ++ (cut.lineBreak ++ tail.rest)).dropWhile isInlineBlank) := by
  obtain ⟨taken, left⟩ := span_append cut.isTrailing reads.trailingEnds
  refine ⟨taken.symm, fun empty => ?_⟩
  have dropped := reads.lineBreak
  rw [empty, List.nil_append] at dropped
  have none : ¬ (['\n'] <+: tail.rest ∨ ['\r', '\n'] <+: tail.rest) := by
    intro breaks
    have shorter := length_dropLineBreak_lt breaks
    rw [dropped] at shorter
    exact Nat.lt_irrefl _ shorter
  rw [left, empty, List.nil_append]
  exact not_or.1 none

/-- The whole line is still to be read. -/
theorem trims_of_lastLine_eq (same : lastLine (passed ++ front) = lastLine front)
    (kept : ¬ BehindKeyword (passed ++ front) (cut.trailing ++ (cut.lineBreak ++ tail.rest))) :
    Trims BehindKeyword (passed ++ front) (cut.trailing ++ (cut.lineBreak ++ tail.rest)) cut where
  alone := by
    rintro ⟨isBlank, ends⟩
    rw [same] at isBlank ⊢
    exact reads.indent_eq_of_blank ends isBlank
  inline := by
    intro company
    rw [StandsAlone, same] at company
    exact iff_of_true (reads.indent_eq_nil fun ⟨ends, isBlank⟩ => company ⟨isBlank, ends⟩) kept
  trailing := reads.behind_goes.1
  lineBreak := reads.behind_goes.2

/-- Another keyword stands on the line. -/
theorem trims_of_keyword (on : '#' ∈ lastLine (passed ++ front))
    (kept : cut.indent = [] ↔ ¬ BehindKeyword (passed ++ front) (cut.trailing ++ (cut.lineBreak ++ tail.rest))) :
    Trims BehindKeyword (passed ++ front) (cut.trailing ++ (cut.lineBreak ++ tail.rest)) cut where
  alone := fun ⟨isBlank, _⟩ => absurd on (free_of_blanks isBlank (by decide))
  inline := fun _ => kept
  trailing := reads.behind_goes.1
  lineBreak := reads.behind_goes.2

/-- On the first line of the text that is read, all blanks go or none. -/
theorem indent_eq_nil_iff (free : '\n' ∉ front) : cut.indent = [] ↔
    ¬ (EndsLine (cut.trailing ++ (cut.lineBreak ++ tail.rest)) ∧ front ≠ [] ∧
      ∀ char ∈ front, isInlineBlank char = true) := by
  have line : lastLine front = front := lastLine_eq_of_free free
  by_cases goes : EndsLine (cut.trailing ++ (cut.lineBreak ++ tail.rest)) ∧ ∀ char ∈ front, isInlineBlank char = true
  · rw [reads.indent_eq_of_blank goes.1 (line.symm ▸ goes.2), line]
    exact ⟨fun empty all => all.2.1 empty, fun stays => by_contra fun filled => stays ⟨goes.1, filled, goes.2⟩⟩
  · exact iff_of_true (reads.indent_eq_nil (line.symm ▸ goes)) fun all => goes ⟨all.1, all.2.2⟩

end Cut.Reads

/-! ## What stands in front of it -/

/-- The text that is still to be read begins where the whole text begins, behind a keyword that opened no marker, or
behind a marker. -/
inductive Opens : List Char → List Char → Prop where
  | start (text : List Char) : Opens [] text
  | keyword (earlier text : List Char) : Opens (earlier ++ keyword) text
  | marker (earlier : List Char) (cut : Cut) {text : List Char}
      (ends : cut.lineBreak = [] → ∀ char ∈ text.head?, isInlineBlank char = false) :
      Opens (earlier ++ (Marker.keyword ++ cut.tail)) text

theorem behindKeyword_keyword_iff (found : splitAtKeyword text = some (front, behind)) :
    BehindKeyword (earlier ++ keyword ++ front) after ↔
      EndsLine after ∧ front ≠ [] ∧ ∀ char ∈ front, isInlineBlank char = true := by
  rw [List.append_assoc]
  constructor
  · rintro ⟨ends, others, blanks, same, filled, isBlank⟩
    rcases eq_blanks_or_keyword isBlank same with rfl | ⟨between, split⟩
    · exact ⟨ends, filled, isBlank⟩
    · exact absurd split (front_ne found)
  · rintro ⟨ends, filled, isBlank⟩
    exact ⟨ends, earlier, front, rfl, filled, isBlank⟩

theorem not_behindKeyword_of_marker (found : splitAtKeyword text = some (front, behind)) (earlier : List Char)
    (cut : Cut) : ¬ BehindKeyword (earlier ++ (keyword ++ cut.tail) ++ front) after := by
  rintro ⟨-, others, blanks, same, -, isBlank⟩
  rw [List.append_assoc, List.append_assoc] at same
  rcases eq_blanks_or_keyword isBlank same with rfl | ⟨between, split⟩
  · obtain ⟨char, member⟩ := List.exists_mem_of_ne_nil _ cut.isName.1
    have inTail : char ∈ cut.tail ++ front := by
      simp only [Cut.tail, List.mem_append]
      exact .inl (.inr (.inl member))
    exact absurd inTail (free_of_blanks isBlank (not_isInlineBlank_of_isWordChar (cut.isName.2 char member)))
  · obtain ⟨further, -, later⟩ := skip_free cut.free_tail split
    exact front_ne found later

/-- A marker takes a line break along, or has no line feed at all. -/
theorem Cut.tail_eq_append_or_free (cut : Cut) :
    (∃ line, cut.tail = line ++ ['\n']) ∨ cut.lineBreak = [] ∧ '\n' ∉ cut.tail := by
  have isLineBreak := cut.isLineBreak
  simp only [List.mem_cons, List.not_mem_nil, or_false] at isLineBreak
  rcases isLineBreak with none | feed | both
  · refine .inr ⟨none, ?_⟩
    simp only [tail, none, List.mem_append, List.append_nil, not_or]
    exact ⟨free_of_blanks cut.isGap.2 (by decide), fun member => absurd (cut.isName.2 _ member) (by decide),
      free_of_blanks cut.isTrailing (by decide)⟩
  · exact .inl ⟨cut.gap ++ (cut.name ++ cut.trailing), by simp [tail, feed]⟩
  · exact .inl ⟨cut.gap ++ (cut.name ++ (cut.trailing ++ ['\r'])), by simp [tail, both]⟩

theorem Cut.Reads.trims_of_opens (reads : cut.Reads front behind tail)
    (found : splitAtKeyword text = some (front, behind)) (opens : Opens passed text) :
    Trims BehindKeyword (passed ++ front) (cut.trailing ++ (cut.lineBreak ++ tail.rest)) cut := by
  cases opens with
  | start => exact reads.trims_of_lastLine_eq rfl fun ⟨_, _, _, same, _⟩ => front_ne found same
  | keyword earlier =>
    -- Without a line break the keyword is on the line of the marker, and nobody looks at it.
    by_cases breaks : '\n' ∈ front
    · refine reads.trims_of_lastLine_eq (lastLine_append_of_mem breaks) ?_
      rw [behindKeyword_keyword_iff found]
      exact fun ⟨_, _, isBlank⟩ => absurd breaks (free_of_blanks isBlank (by decide))
    · have line : lastLine (earlier ++ keyword ++ front) = lastLine earlier ++ keyword ++ front := by
        rw [lastLine_append_of_free breaks, lastLine_append_of_free (by decide)]
      refine reads.trims_of_keyword ?_ ?_
      · rw [line]
        exact List.mem_append_left _ (List.mem_append_right _ (by decide))
      · rw [behindKeyword_keyword_iff found]
        exact reads.indent_eq_nil_iff breaks
  | marker earlier other ends =>
    have apart : ¬ BehindKeyword _ (cut.trailing ++ (cut.lineBreak ++ tail.rest)) :=
      not_behindKeyword_of_marker found earlier other
    by_cases breaks : '\n' ∈ front
    · exact reads.trims_of_lastLine_eq (lastLine_append_of_mem breaks) apart
    · rcases other.tail_eq_append_or_free with ⟨line, split⟩ | ⟨none, free⟩
      · refine reads.trims_of_lastLine_eq ?_ apart
        rw [lastLine_append_of_free breaks, lastLine_eq_of_free breaks, split, ← List.append_assoc,
          ← List.append_assoc, lastLine_append_of_mem (List.mem_singleton_self _)]
        rfl
      · refine reads.trims_of_keyword ?_ (iff_of_true ?_ apart)
        · rw [lastLine_append_of_free breaks, ← List.append_assoc, lastLine_append_of_free free,
            lastLine_append_of_free (by decide)]
          exact List.mem_append_left _ (List.mem_append_left _ (List.mem_append_right _ (by decide)))
        · refine (reads.indent_eq_nil_iff breaks).2 ?_
          rintro ⟨-, filled, isBlank⟩
          obtain ⟨char, rest, rfl⟩ := List.exists_cons_of_ne_nil filled
          obtain ⟨rfl, -⟩ := eq_append_of_splitAtKeyword found
          have inked := isBlank char (List.mem_cons_self ..)
          rw [ends none char rfl] at inked
          cases inked

/-! ## All markers -/

/-- A keyword begins at the first one, or behind it. -/
theorem eq_front_or_behind (found : splitAtKeyword text = some (front, behind))
    (same : text = before ++ (keyword ++ after)) :
    before = front ∧ after = behind ∨
      ∃ between, before = front ++ (keyword ++ between) ∧ behind = between ++ (keyword ++ after) := by
  have first : front.length ≤ before.length := length_front_le (same ▸ found)
  obtain ⟨split, -⟩ := eq_append_of_splitAtKeyword found
  obtain ⟨more, rfl⟩ : front <+: before :=
    List.prefix_of_prefix_length_le ⟨_, split.symm⟩ ⟨_, same.symm⟩ first
  have ends : keyword ++ behind = more ++ (keyword ++ after) := by
    rw [split, List.append_assoc] at same
    exact List.append_cancel_left same
  cases more with
  | nil => exact .inl ⟨List.append_nil _, (List.append_cancel_left ends).symm⟩
  | cons char more =>
    obtain ⟨rfl, skips⟩ :=
      List.cons.inj (show '#' :: (keyword.tail ++ behind) = char :: (more ++ (keyword ++ after)) from ends)
    obtain ⟨between, rfl, later⟩ := skip_free (by decide) skips
    exact .inr ⟨between, rfl, later⟩

theorem MarkerAt.nameAt?_eq (marker : MarkerAt text before gap name after) :
    nameAt? (keyword ++ (gap ++ (name ++ after))) = some name :=
  nameAt?_eq_some_iff.2 ⟨gap, after, rfl, marker.isGap, marker.isName, marker.ends⟩

/-- Where a marker begins, it is the only one. -/
theorem Cut.Reads.eq_of_markerAt (reads : cut.Reads front behind tail) (marker : MarkerAt text before gap name after)
    (same : gap ++ (name ++ after) = behind) :
    cut.gap = gap ∧ cut.name = name ∧ after = cut.trailing ++ (cut.lineBreak ++ tail.rest) := by
  have inked : ∀ {word : List Char}, (word ≠ [] ∧ ∀ char ∈ word, Text.isWordChar char = true) → ∀ rest : List Char,
      ∀ char ∈ (word ++ rest).head?, isInlineBlank char = false := by
    intro word isName rest char member
    rw [List.head?_append_of_ne_nil _ isName.1] at member
    exact not_isInlineBlank_of_isWordChar (isName.2 char (List.mem_of_mem_head? member))
  have here : gap ++ (name ++ after) = cut.gap ++ (cut.name ++ (cut.trailing ++ (cut.lineBreak ++ tail.rest))) := by
    rw [same, reads.behind_eq]
    simp only [Cut.tail, List.append_assoc]
  obtain ⟨gaps, named⟩ := span_append marker.isGap.2 (inked marker.isName after)
  obtain ⟨names, ends⟩ := span_append marker.isName.2 marker.ends
  obtain ⟨gaps', named'⟩ := span_append cut.isGap.2 (inked cut.isName (cut.trailing ++ (cut.lineBreak ++ tail.rest)))
  obtain ⟨names', ends'⟩ := span_append cut.isName.2 reads.nameEnds
  rw [here, gaps'] at gaps
  rw [here, named'] at named
  rw [← named, names'] at names
  rw [← named, ends'] at ends
  exact ⟨gaps, names, ends.symm⟩

/-- Text that is kept in front of the rest leaves every marker with its cut. -/
theorem Cut.Takes.kept (takes : cut.Takes cuts last before gap name after) (front : List Char) :
    ∃ other : Cut, other.Takes (keepFront front cuts last).1 (keepFront front cuts last).2 (front ++ before) gap name
      after ∧ other.indent = cut.indent ∧ other.trailing = cut.trailing ∧ other.lineBreak = cut.lineBreak := by
  obtain ⟨⟨earlier, others, rfl, rfl, rest⟩, gap, name⟩ := takes
  cases earlier with
  | nil => exact ⟨{ cut with kept := front ++ cut.kept }, ⟨⟨[], others, rfl, by simp, rest⟩, gap, name⟩, rfl, rfl, rfl⟩
  | cons first earlier =>
    refine ⟨cut, ⟨⟨{ first with kept := front ++ first.kept } :: earlier, others, rfl, ?_, rest⟩, gap, name⟩, rfl, rfl,
      rfl⟩
    simp only [List.flatMap_cons, Cut.source, Cut.tail, List.append_assoc]

theorem MarkerAt.mem_names (marker : MarkerAt text before gap name after) : name ∈ names text :=
  List.mem_filterMap.2 ⟨_, (List.mem_tails _ _).2 ⟨before, marker.text_eq.symm⟩, marker.nameAt?_eq⟩

theorem Cut.Takes.cons (takes : cut.Takes cuts last before gap name after) (other : Cut) :
    cut.Takes (other :: cuts) last (other.source ++ before) gap name after := by
  obtain ⟨⟨earlier, others, rfl, rfl, rest⟩, gap, name⟩ := takes
  refine ⟨⟨other :: earlier, others, rfl, ?_, rest⟩, gap, name⟩
  rw [List.flatMap_cons, List.append_assoc]

/-- Each marker of a text is taken by a cut. -/
theorem Scan.exists_takes (scan : Scan text cuts last) (opens : Opens passed text)
    (marker : MarkerAt text before gap name after) :
    ∃ cut : Cut, cut.Takes cuts last before gap name after ∧ Trims BehindKeyword (passed ++ before) after cut := by
  -- A scan does not know what it has passed, but lines may begin there: `passed` grows along the induction.
  induction scan generalizing passed before with
  | stop none =>
    have member := marker.mem_names
    rw [names_of_splitAtKeyword_eq_none none] at member
    cases member
  | @plain text front behind cuts last found unread _ ih =>
    rcases eq_front_or_behind found marker.text_eq with ⟨-, same⟩ | ⟨between, rfl, later⟩
    · have opened := marker.nameAt?_eq
      rw [same, nameAt?_keyword_append, unread] at opened
      cases opened
    · obtain ⟨cut, takes, trims⟩ := ih (.keyword (passed ++ front) behind) { marker with text_eq := later }
      obtain ⟨other, taken, indent, trailing, lineBreak⟩ := takes.kept (front ++ keyword)
      simp only [List.append_assoc] at taken trims
      refine ⟨other, by simpa only [List.append_assoc] using taken, ?_⟩
      exact { alone := indent ▸ trims.alone, inline := indent ▸ trims.inline, trailing := trailing ▸ trims.trailing,
              lineBreak := lineBreak ▸ trims.lineBreak }
  | @marker text front behind tail cut cuts last found read reads scan ih =>
    rcases eq_front_or_behind found marker.text_eq with ⟨rfl, same⟩ | ⟨between, rfl, later⟩
    · obtain ⟨gap, name, rfl⟩ := reads.eq_of_markerAt marker same
      refine ⟨cut, ⟨⟨[], cuts, rfl, reads.front_eq, ?_⟩, gap, name⟩, reads.trims_of_opens found opens⟩
      rw [← scan.cutsInto.source]
    · obtain ⟨more, rfl, rest⟩ := skip_free cut.free_tail (reads.behind_eq.symm.trans later)
      have ends : cut.lineBreak = [] → ∀ char ∈ tail.rest.head?, isInlineBlank char = false := by
        intro none
        simpa only [none, List.nil_append] using reads.trailingEnds
      obtain ⟨taker, takes, trims⟩ := ih (.marker (passed ++ front) cut ends) { marker with text_eq := rest }
      have moved := takes.cons cut
      rw [Cut.source, ← List.append_assoc cut.kept, ← reads.front_eq] at moved
      simp only [List.append_assoc] at moved trims
      exact ⟨taker, moved, trims⟩

/-- Every marker goes with the blanks and the line break behind it, and with the blanks in front of it exactly when it
stands alone on its line, or at the end of the line with nothing but blanks behind a keyword that opens no marker. -/
theorem resolve_trims (source : String) : Resolves BehindKeyword source := by
  obtain ⟨cuts, last, scan⟩ := exists_scan source.toList
  have into := scan.cutsInto
  exact ⟨cuts, last, into.source, into.names, fun slots => congrArg String.ofList (into.filled slots.get?),
    fun _ _ _ _ marker => scan.exists_takes (.start _) marker⟩

/-- The blank between the two keywords is lost, though the marker has company on its line. -/
theorem blank_is_lost_behind_keyword :
    resolve "#pragma SLOT #pragma SLOT pf\n" (SlotBuffer.empty.add "pf" "X") = "#pragma SLOTX" ∧
      ¬ Resolves (fun _ _ => False) "#pragma SLOT #pragma SLOT pf\n" := by
  have row : pieces "#pragma SLOT #pragma SLOT pf\n".toList = [.text keyword, .text [], .slot "pf", .text []] := by
    have first : splitAtKeyword "#pragma SLOT #pragma SLOT pf\n".toList =
        some ([], ' ' :: (keyword ++ " pf\n".toList)) := by decide
    have second : splitAtKeyword (' ' :: (keyword ++ " pf\n".toList)) = some ([' '], " pf\n".toList) := by decide
    have read : readTail? " pf\n".toList = some ⟨['p', 'f'], true, []⟩ := by decide
    rw [pieces_of_plain first (by decide), pieces_of_marker second read, pieces_of_none (by decide)]
    decide
  refine ⟨?_, ?_⟩
  · rw [resolve, row]
    decide
  · rintro ⟨cuts, last, -, named, resolved, takes⟩
    have marker : MarkerAt "#pragma SLOT #pragma SLOT pf\n".toList "#pragma SLOT ".toList [' '] ['p', 'f'] ['\n'] := by
      refine ⟨by decide, ⟨List.cons_ne_nil _ _, List.forall_mem_singleton.2 rfl⟩, ⟨List.cons_ne_nil _ _, ?_⟩, ?_⟩
      · exact List.forall_mem_cons.2 ⟨rfl, List.forall_mem_singleton.2 rfl⟩
      · rintro char ⟨⟩
        rfl
    obtain ⟨cut, ⟨⟨passed, others, rfl, before, -⟩, -, -⟩, trims⟩ := takes _ _ _ _ marker
    have company : ¬ StandsAlone "#pragma SLOT ".toList ['\n'] :=
      fun ⟨isBlank, _⟩ => absurd (isBlank '#' (by decide)) (by decide)
    have whole : cut.indent = [] := (trims.inline company).2 id
    have single : (passed ++ cut :: others).length = 1 := by
      rw [← List.length_map Cut.name, named]
      decide
    rw [List.length_append, List.length_cons] at single
    obtain rfl : passed = [] := List.length_eq_zero_iff.1 (by omega)
    obtain rfl : others = [] := List.length_eq_zero_iff.1 (by omega)
    have kept : cut.kept.length = 13 := by
      rw [whole, List.append_nil] at before
      exact (congrArg List.length before).symm
    have shown : cut.kept ++ last = keyword := by
      have bare := resolved SlotBuffer.empty
      rw [resolve, row] at bare
      simpa [fill, Piece.render, Cut.filled, SlotBuffer.get?, SlotBuffer.empty]
        using (String.ofList_injective bare).symm
    have short := congrArg List.length shown
    rw [List.length_append, kept, show keyword.length = 12 from rfl] at short
    omega

end ShaderWeave.Marker
