import StatementReader.Proofs.History.File

/-!
# Lines that are no record

Two things can be wrong with a line of a history file, and they have different effects. A line of
text that is no record is passed over: it is counted for the warning unless it is blank, and all
other lines are read as if it were not there. A line that is not even text ends the reading, and the
file is not loaded at all, whatever its other lines hold (`load_file`).

One step of the reading tells the two apart (`readLines_cons`). The lines that are read are those
before the first one that is not text.
-/

namespace StatementReader

namespace HistoryFile

variable {content line : Bytes} {lines : List Bytes} {limit : ℕ}

/-- The line is in UTF-8. -/
def isText (line : Bytes) : Bool := line.toText?.isSome

/-- A line of text that is neither blank nor a record. -/
def isMalformed (line : Bytes) : Bool :=
  line.toText?.any fun t => !Text.isAllBlank t && (HistoryRecord.decode? t).isNone

/-! ### Reading -/

/-- A line of text adds its record, if it is one, or else one to the count, unless it is blank. -/
theorem readLines_cons (line : Bytes) (lines : List Bytes) : readLines (line :: lines) =
    if isText line then
      (⟨(recordText? line).toList ++ (readLines lines).1.texts,
        (readLines lines).1.malformed + (isMalformed line).toNat⟩, (readLines lines).2)
    else (⟨[], 0⟩, some .notText) := by
  rw [readLines, isText, isMalformed, recordText?]
  rcases line.toText? with _ | t
  · rfl
  · rw [if_pos Option.isSome_some, Option.bind_some]
    dsimp only
    -- the line is blank, or a record, or malformed
    split
    · next hblank =>
      simp [hblank, HistoryRecord.decode?_of_isAllBlank hblank]
    · next hblank =>
      split
      · next hrecord => simp [hrecord]
      · next hrecord => simp [hrecord, hblank]

theorem malformed_readLines (lines : List Bytes) :
    (readLines lines).1.malformed = (lines.takeWhile isText).countP isMalformed := by
  induction lines with
  | nil => rfl
  | cons line lines ih =>
    rw [readLines_cons]
    by_cases htext : isText line
    · rw [if_pos htext, List.takeWhile_cons_of_pos htext, List.countP_cons, ← ih]
      cases isMalformed line <;> rfl
    · rw [if_neg htext, List.takeWhile_cons_of_neg htext]
      rfl

/-- Nothing else is wrong with a file that can be read. -/
theorem eq_notText_of_readLines {e : FileError} (h : (readLines lines).2 = some e) :
    e = .notText := by
  induction lines with
  | nil => cases h
  | cons line lines ih =>
    rw [readLines_cons] at h
    split at h
    · exact ih h
    · exact (Option.some.inj h).symm

/-! ### Loading -/

theorem load_file_snd (limit : ℕ) (content : Bytes) :
    (load limit (.file content)).2 = (content.lines.takeWhile isText).countP isMalformed := by
  -- the count is the same whether the reading came to the end or was broken off
  rw [← malformed_readLines]
  rcases hread : readLines content.lines with ⟨loaded, _ | e⟩ <;>
    simp only [load, FileState.content, hread]

theorem load_file_of_not_readable (limit : ℕ) (h : ¬ Readable content) :
    (load limit (.file content)).1 = .error .notText := by
  rw [Readable, ← readLines_snd_eq_none_iff] at h
  rcases hread : readLines content.lines with ⟨loaded, _ | e⟩
  · rw [hread] at h
    exact absurd rfl h
  · obtain rfl := eq_notText_of_readLines (congrArg Prod.snd hread)
    simp only [load, FileState.content, hread]

/-- What is loaded depends on the lines that are records, as long as all are text. -/
theorem load_file_congr {content' : Bytes} (hreadable : Readable content ↔ Readable content')
    (htexts : recordTexts content = recordTexts content') :
    (load limit (.file content)).1 = (load limit (.file content')).1 := by
  by_cases h : Readable content
  · rw [load_file_eq_ok_iff.2 ⟨h, rfl⟩, load_file_eq_ok_iff.2 ⟨hreadable.1 h, rfl⟩, htexts]
  · rw [load_file_of_not_readable limit h, load_file_of_not_readable limit (mt hreadable.2 h)]

/-- Lines of text that are no records might as well not be there. -/
theorem load_file_delete {before lines after : Bytes} (hbefore : before.Ended)
    (hlines : lines.Ended ∨ after = [])
    (hskip : ∀ line ∈ lines.lines, isText line ∧ recordText? line = none) :
    (load limit (.file (before ++ lines ++ after))).1 =
      (load limit (.file (before ++ after))).1 := by
  have hreadable : Readable lines := fun line hline => (hskip line hline).1
  have htexts : recordTexts lines = [] :=
    List.filterMap_eq_nil_iff.2 fun line hline => (hskip line hline).2
  rw [List.append_assoc]
  apply load_file_congr
  · -- the lines left out are text, so they decide nothing
    rw [readable_append_iff hbefore, readable_append_iff hbefore]
    refine and_congr_right fun _ => ?_
    obtain hended | rfl := hlines
    · rw [readable_append_iff hended]
      exact and_iff_right hreadable
    · rw [List.append_nil]
      exact iff_of_true hreadable (List.forall_mem_nil _)
  · -- and they have no record to lose
    rw [recordTexts_append hbefore, recordTexts_append hbefore]
    obtain hended | rfl := hlines
    · rw [recordTexts_append hended, htexts, List.nil_append]
    · rw [List.append_nil, htexts]
      rfl

/-- If every line is text, the file is loaded: the texts are those of its last records, and the
number of the other lines that are not blank is known. If some line is not text, the file is not
loaded. Lines of text that are no records make no difference to either. -/
theorem load_file (limit : ℕ) (content : Bytes) :
    (Readable content → load limit (.file content) =
      (.ok (takeLast limit (recordTexts content)), content.lines.countP isMalformed)) ∧
    (¬ Readable content → load limit (.file content) =
      (.error .notText, (content.lines.takeWhile isText).countP isMalformed)) ∧
    ∀ before lines after, content = before ++ lines ++ after → before.Ended →
      lines.Ended ∨ after = [] → (∀ line ∈ lines.lines, isText line ∧ recordText? line = none) →
        (load limit (.file content)).1 = (load limit (.file (before ++ after))).1 := by
  refine ⟨fun h => Prod.ext ?_ ?_, fun h => Prod.ext ?_ ?_, ?_⟩
  · exact load_file_eq_ok_iff.2 ⟨h, rfl⟩
  · -- every line is text, so all of them are reached
    have hall : content.lines.takeWhile isText = content.lines := List.takeWhile_eq_self_iff.2 h
    rw [load_file_snd, hall]
  · exact load_file_of_not_readable limit h
  · exact load_file_snd limit content
  · rintro before lines after rfl
    exact load_file_delete

/-- A record is followed by a line that holds only a byte that begins no character. -/
theorem not_forall_load_records : ¬ ∀ (limit : ℕ) (content : Bytes),
    (load limit (.file content)).1 = .ok (takeLast limit (recordTexts content)) := by
  intro h
  let content := lineOf ⟨"a".toList, true⟩ ++ [0xff, Bytes.lineFeed]
  have hended := ended_lineOf ⟨"a".toList, true⟩
  have hbyte : ¬ Readable content := by
    rw [readable_append_iff hended]
    intro hreadable
    exact absurd (hreadable.2 [0xff] (by decide)) (by decide)
  have hload := h 1 content
  rw [load_file_of_not_readable 1 hbyte] at hload
  cases hload

end HistoryFile

end StatementReader
