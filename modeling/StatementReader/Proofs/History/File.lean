import Mathlib.Data.List.DropRight
import StatementReader.History.File
import StatementReader.Proofs.History.Joined

/-!
# What a history file holds

The texts that are loaded from a file are those of its records (`load_file_eq_ok_iff`), so what
appending does to a file is what it does to its lines. Two laws follow from how a record is written,
as one line that is read back as that record.

Entries that are appended to a history that was missing or empty are all loaded again, whatever
their texts hold (`load_appended`).

A file of another origin may end in the middle of a line: it was edited by hand, or an earlier
append was cut short. Appending does not look at the file and so goes on with that line. It can be
parted from the lines before it (`Bytes.endedPart`, `Bytes.unended`), and whether the entry is kept
depends on it alone (`load_append`). The entry is lost unless the line holds nothing but space, and
a record on that line that could be read before is lost with it.
-/

namespace StatementReader

/-! ### Lines -/

namespace Bytes

/-- The last line is ended. -/
def Ended (b : Bytes) : Prop := ∀ byte ∈ b.getLast?, byte = lineFeed

/-- What stands after the last line feed. -/
def unended (b : Bytes) : Bytes := b.rtakeWhile (· ≠ lineFeed)

/-- What stands up to the last line feed. -/
def endedPart (b : Bytes) : Bytes := b.rdropWhile (· ≠ lineFeed)

variable {b b' line : Bytes}

/-- The ended lines and what follows them make up all bytes. -/
theorem endedPart_append_unended (b : Bytes) : b.endedPart ++ b.unended = b :=
  List.rdropWhile_append_rtakeWhile

/-- The ended part has no line that is still open. -/
theorem ended_endedPart (b : Bytes) : b.endedPart.Ended := by
  intro byte hbyte
  have hne : b.endedPart ≠ [] := by
    rintro hnil
    simp [hnil] at hbyte
  -- the last byte that is not dropped is no other than a line feed
  have hlast := List.rdropWhile_last_not (· ≠ lineFeed) b hne
  rw [List.getLast?_eq_some_getLast hne, Option.mem_some] at hbyte
  change ¬ decide (b.endedPart.getLast hne ≠ lineFeed) = true at hlast
  simpa [hbyte] using hlast

/-- What follows the last line feed has none. -/
theorem lineFeed_notMem_unended (b : Bytes) : lineFeed ∉ b.unended := fun h => by
  simpa using List.mem_rtakeWhile_imp h

/-- Without a line feed no line has ended. -/
theorem unended_of_notMem (h : lineFeed ∉ b) : b.unended = b := by
  rw [unended, List.rtakeWhile_eq_self_iff]
  intro byte hbyte
  simp only [ne_eq, decide_eq_true_eq]
  rintro rfl
  exact h hbyte

/-- So there is no ended part. -/
theorem endedPart_of_notMem (h : lineFeed ∉ b) : b.endedPart = [] := by
  have hparts := b.endedPart_append_unended
  rw [unended_of_notMem h] at hparts
  exact List.append_left_eq_self.1 hparts

/-- The lines of what comes after an ended line are read by themselves. -/
theorem lines_append (h : b.Ended) (b' : Bytes) : (b ++ b').lines = b.lines ++ b'.lines := by
  rcases hlast : b.getLast? with _ | byte
  · obtain rfl := List.getLast?_eq_none_iff.1 hlast
    simp [lines]
  · obtain rfl := h byte hlast
    obtain ⟨init, rfl⟩ := List.getLast?_eq_some_iff.1 hlast
    -- the first bytes end with a line feed, and the last line is that of the bytes after them
    have hne := List.splitOn_ne_nil lineFeed b'
    have hlastD : (init.splitOn lineFeed ++ b'.splitOn lineFeed).getLastD [] =
        (b'.splitOn lineFeed).getLastD [] := by
      rw [List.getLastD_eq_getLast?, List.getLastD_eq_getLast?,
        List.getLast?_append_of_ne_nil _ hne]
    simp only [lines, List.append_assoc, List.singleton_append, List.splitOn_append_cons_self,
      List.splitOn_nil, List.dropLast_append_of_ne_nil hne, hlastD, List.map_append,
      List.dropLast_concat]
    simp

/-- What holds no line feed is one line, or none if there is nothing. -/
theorem lines_of_notMem (h : lineFeed ∉ line) : line.lines = if line = [] then [] else [line] := by
  simp [lines, List.splitOn_eq_singleton h]

/-- What holds no line feed and ends in no carriage return is one line when it is ended. -/
theorem lines_concat (h : lineFeed ∉ line) (hreturn : line.getLast? ≠ some carriageReturn) :
    lines (line ++ [lineFeed]) = [line] := by
  have hsplit : (line ++ [lineFeed]).splitOn lineFeed = [line, []] := by
    rw [List.splitOn_append_cons_self, List.splitOn_eq_singleton h, List.splitOn_nil]
    rfl
  simp [lines, hsplit, hreturn]

/-! ### Texts -/

theorem ofText_append (s t : Text) : ofText (s ++ t) = ofText s ++ ofText t := List.flatMap_append

/-- The byte of a line feed is in the form of no other character. -/
theorem lineFeed_mem_utf8EncodeChar {c : Char} (h : lineFeed ∈ String.utf8EncodeChar c) :
    c = '\n' := by
  have hbyte (n : Nat) : lineFeed = UInt8.ofNat n ↔ n % 256 = 10 := by
    rw [← UInt8.toNat_inj, UInt8.toNat_ofNat']
    exact eq_comm
  -- of the bytes that make up a character only one that stands alone is below 128
  have hvalue : c.val.toNat = 10 := by
    unfold String.utf8EncodeChar at h
    dsimp only at h
    split_ifs at h
    all_goals
      simp only [List.mem_cons, List.not_mem_nil, or_false, hbyte] at h
      omega
  exact Char.ext (UInt32.toNat_inj.1 hvalue)

/-- The bytes of a text have a line feed only for a line break. -/
theorem lineFeed_notMem_ofText {t : Text} (h : '\n' ∉ t) : lineFeed ∉ ofText t := by
  intro hmem
  obtain ⟨c, hc, hbyte⟩ := List.mem_flatMap.1 hmem
  exact h (lineFeed_mem_utf8EncodeChar hbyte ▸ hc)

end Bytes

namespace HistoryFile

variable {b b' content : Bytes} {limit : Nat} {texts : List Text}

/-! ### Records -/

/-- The text of the record that a line holds. -/
def recordText? (line : Bytes) : Option Text :=
  line.toText?.bind fun t => (HistoryRecord.decode? t).map (·.text)

/-- The texts of all records, oldest first. -/
def recordTexts (content : Bytes) : List Text := content.lines.filterMap recordText?

/-- Every line is text. -/
def Readable (content : Bytes) : Prop := ∀ line ∈ content.lines, line.toText?.isSome

/-- The text of a record is read back from the bytes of its line. -/
theorem recordText?_ofText (t : Text) :
    recordText? (Bytes.ofText t) = (HistoryRecord.decode? t).map (·.text) := by
  rw [recordText?, Bytes.toText?_ofText]
  rfl

/-- The form of a record, on a line of its own, holds the text of the record. -/
theorem recordText?_ofText_encode (r : HistoryRecord) :
    recordText? (Bytes.ofText r.encode) = some r.text := by
  rw [recordText?_ofText, ← List.nil_append r.encode, r.decode?_encode (by simp)]
  rfl

/-- Records are found line by line, so bytes behind ended lines leave theirs as they are. -/
theorem recordTexts_append (h : b.Ended) (b' : Bytes) :
    recordTexts (b ++ b') = recordTexts b ++ recordTexts b' := by
  rw [recordTexts, Bytes.lines_append h, List.filterMap_append]
  rfl

/-- Bytes can be read line by line too. -/
theorem readable_append_iff (h : b.Ended) : Readable (b ++ b') ↔ Readable b ∧ Readable b' := by
  rw [Readable, Bytes.lines_append h, List.forall_mem_append]
  rfl

/-- Reading stops at the first line that is not text, and nowhere else. -/
theorem readLines_snd_eq_none_iff (lines : List Bytes) :
    (readLines lines).2 = none ↔ ∀ line ∈ lines, line.toText?.isSome := by
  induction lines with
  | nil => simp [readLines]
  | cons line lines ih =>
    rw [List.forall_mem_cons, ← ih]
    rcases ht : line.toText? with _ | t
    · simp [readLines, ht]
    · -- a line that is text may be a record or not, but reading goes on either way
      have hsnd : (readLines (line :: lines)).2 = (readLines lines).2 := by
        rw [readLines, ht]
        dsimp only
        split
        · rfl
        · split <;> rfl
      simp [hsnd]

/-- A blank line is no record either, so it makes no difference that it is told apart. -/
theorem texts_readLines {lines : List Bytes} (h : ∀ line ∈ lines, line.toText?.isSome) :
    (readLines lines).1.texts = lines.filterMap recordText? := by
  induction lines with
  | nil => rfl
  | cons line lines ih =>
    obtain ⟨hline, hlines⟩ := List.forall_mem_cons.1 h
    obtain ⟨t, ht⟩ := Option.isSome_iff_exists.1 hline
    rw [readLines, ht]
    dsimp only
    -- a line is blank, or a record, or it is malformed
    split
    · next hblank =>
      have hnone : recordText? line = none := by
        rw [recordText?, ht, Option.bind_some, HistoryRecord.decode?_of_isAllBlank hblank]
        rfl
      rw [List.filterMap_cons_none hnone]
      exact ih hlines
    · split
      · next record hrecord =>
        -- only a record adds a text
        have hsome : recordText? line = some record.text := by
          rw [recordText?, ht, Option.bind_some, hrecord]
          rfl
        rw [List.filterMap_cons_some hsome, ← ih hlines]
      · next hrecord =>
        have hnone : recordText? line = none := by
          rw [recordText?, ht, Option.bind_some, hrecord]
          rfl
        rw [List.filterMap_cons_none hnone]
        exact ih hlines

/-- A file is loaded if every line is text, and then the texts are those of its last records. -/
theorem load_file_eq_ok_iff : (load limit (.file content)).1 = .ok texts ↔
    Readable content ∧ texts = takeLast limit (recordTexts content) := by
  rw [Readable, ← readLines_snd_eq_none_iff]
  rcases hread : readLines content.lines with ⟨loaded, _ | e⟩
  · -- every line could be read, so loading takes the last of the texts
    have hload : load limit (.file content) =
        (.ok (takeLast limit loaded.texts), loaded.malformed) := by
      simp only [load, FileState.content, hread]
    have htext := (readLines_snd_eq_none_iff content.lines).1 (by rw [hread])
    have htexts : loaded.texts = recordTexts content := by
      rw [recordTexts, ← texts_readLines htext, hread]
    simp [hload, htexts, eq_comm]
  · have hload : load limit (.file content) = (.error e, loaded.malformed) := by
      simp only [load, FileState.content, hread]
    simp [hload]

/-- The last of a row are as many as are asked for, if there are so many. -/
theorem length_takeLast {α : Type} (limit : Nat) (l : List α) :
    (takeLast limit l).length = min limit l.length := by
  rw [takeLast, List.length_drop]
  omega

/-- A row that is no longer than that is kept whole. -/
theorem takeLast_of_length_le {α : Type} {l : List α} (h : l.length ≤ limit) :
    takeLast limit l = l := by
  rw [takeLast, Nat.sub_eq_zero_of_le h, List.drop_zero]

/-! ### Appending -/

/-- A record has no line break in it, so it fits on one line. -/
theorem lineFeed_notMem_ofText_encode (r : HistoryRecord) :
    Bytes.lineFeed ∉ Bytes.ofText r.encode :=
  Bytes.lineFeed_notMem_ofText r.lineFeed_notMem_encode

/-- The line of a record is its text with a line feed behind it. -/
theorem lineOf_eq (r : HistoryRecord) : lineOf r = Bytes.ofText r.encode ++ [Bytes.lineFeed] :=
  Bytes.ofText_append _ _

/-- The line of a record is ended. -/
theorem ended_lineOf (r : HistoryRecord) : (lineOf r).Ended := by
  intro byte hbyte
  rw [lineOf_eq, List.getLast?_concat, Option.mem_some] at hbyte
  exact hbyte.symm

/-- A record that is appended makes one line with what stands before it on its line. -/
theorem lines_append_lineOf {before : Bytes} (h : Bytes.lineFeed ∉ before) (r : HistoryRecord) :
    (before ++ lineOf r).lines = [before ++ Bytes.ofText r.encode] := by
  rw [lineOf_eq, ← List.append_assoc]
  refine Bytes.lines_concat ?_ ?_
  · rw [List.mem_append, not_or]
    exact ⟨h, lineFeed_notMem_ofText_encode r⟩
  · -- a record ends in a brace, so no carriage return is dropped before the line feed
    obtain ⟨init, hinit⟩ := List.getLast?_eq_some_iff.1 r.getLast?_encode
    have hbrace : Bytes.ofText ['\x7d'] = [125] := by decide
    rw [hinit, Bytes.ofText_append, hbrace, ← List.append_assoc, List.getLast?_concat]
    decide

/-- Appending adds one line, unless the last line is not ended: then that line goes on. -/
theorem recordTexts_append_lineOf (content : Bytes) (r : HistoryRecord) :
    recordTexts (content ++ lineOf r) = recordTexts content.endedPart ++
      (recordText? (content.unended ++ Bytes.ofText r.encode)).toList := by
  conv_lhs => rw [← content.endedPart_append_unended, List.append_assoc]
  rw [recordTexts_append content.ended_endedPart]
  congr 1
  rw [recordTexts, lines_append_lineOf content.lineFeed_notMem_unended, List.filterMap_cons]
  cases recordText? (content.unended ++ Bytes.ofText r.encode) <;> rfl

/-- What is loaded is in the ended lines, or on the last one, which is not ended. -/
theorem recordTexts_eq (content : Bytes) : recordTexts content =
    recordTexts content.endedPart ++ (recordText? content.unended).toList := by
  conv_lhs => rw [← content.endedPart_append_unended]
  rw [recordTexts_append content.ended_endedPart]
  congr 1
  -- the unended part is one line, or none if it is empty
  rw [recordTexts, Bytes.lines_of_notMem content.lineFeed_notMem_unended]
  split
  · next hnil =>
    rw [hnil]
    rfl
  · rw [List.filterMap_cons]
    cases recordText? content.unended <;> rfl

/-- What stands on an unended line is text, if the file is. -/
theorem exists_unended_eq (h : Readable content) : ∃ t, content.unended = Bytes.ofText t := by
  rw [← content.endedPart_append_unended, readable_append_iff content.ended_endedPart, Readable,
    Readable, Bytes.lines_of_notMem content.lineFeed_notMem_unended] at h
  by_cases hnil : content.unended = []
  · exact ⟨[], hnil⟩
  · rw [if_neg hnil, List.forall_mem_singleton] at h
    obtain ⟨t, ht⟩ := Option.isSome_iff_exists.1 h.2
    exact ⟨t, Bytes.toText?_eq_some_iff.1 ht⟩

/-- A readable file can still be read after a record has been appended, since its last line was
text. -/
theorem readable_append_lineOf (h : Readable content) (r : HistoryRecord) :
    Readable (content ++ lineOf r) := by
  obtain ⟨t, ht⟩ := exists_unended_eq h
  have hended := content.ended_endedPart
  rw [← content.endedPart_append_unended, readable_append_iff hended] at h
  rw [← content.endedPart_append_unended, List.append_assoc, readable_append_iff hended]
  -- the record continues the last line, which was text, so the two are text together
  refine ⟨h.1, ?_⟩
  rw [Readable, lines_append_lineOf content.lineFeed_notMem_unended, List.forall_mem_singleton, ht,
    ← Bytes.ofText_append, Bytes.toText?_ofText]
  rfl

/-! ### A history of appended entries -/

/-- The lines of entries that were appended one after the other. -/
def linesOf (entries : List HistoryEntry) : Bytes :=
  entries.flatMap fun e => lineOf (.ofEntry e)

/-- Appending entries one by one writes their lines one behind the other. -/
theorem foldlM_append (content : Bytes) (entries : List HistoryEntry) :
    entries.foldlM (fun f e => append e f) (.file content) =
      .ok (.file (content ++ linesOf entries)) := by
  induction entries generalizing content with
  | nil =>
    rw [linesOf, List.flatMap_nil, List.append_nil]
    rfl
  | cons e entries ih =>
    rw [linesOf, List.flatMap_cons, ← List.append_assoc]
    exact ih (content ++ lineOf (.ofEntry e))

/-- Each entry has a line of its own. -/
theorem lines_linesOf (entries : List HistoryEntry) : (linesOf entries).lines =
    entries.map fun e => Bytes.ofText (HistoryRecord.ofEntry e).encode := by
  induction entries with
  | nil => rfl
  | cons e entries ih =>
    have hline := lines_append_lineOf (List.not_mem_nil (a := Bytes.lineFeed)) (.ofEntry e)
    rw [List.nil_append, List.nil_append] at hline
    rw [linesOf, List.flatMap_cons, Bytes.lines_append (ended_lineOf _), hline]
    exact congrArg (_ :: ·) ih

/-- The texts of the entries are read back in order. -/
theorem recordTexts_linesOf (entries : List HistoryEntry) :
    recordTexts (linesOf entries) = entries.map (·.text) := by
  rw [recordTexts, lines_linesOf, List.filterMap_map, ← List.filterMap_eq_map]
  refine List.filterMap_congr fun e _ => ?_
  rw [Function.comp_apply, recordText?_ofText_encode]
  rfl

/-- What has been written for entries can be read. -/
theorem readable_linesOf (entries : List HistoryEntry) : Readable (linesOf entries) := by
  rw [Readable, lines_linesOf, List.forall_mem_map]
  intro e _
  rw [Bytes.toText?_ofText]
  rfl

/-- Entries appended to a history that has none are loaded again as they are, the newest of them at
any limit, oldest first. -/
theorem load_appended {f : FileState} (hf : f = .missing ∨ f = .file [])
    (entries : List HistoryEntry) (limit : Nat) :
    ∃ g older texts, entries.foldlM (fun f e => append e f) f = .ok g ∧
      (load limit g).1 = .ok texts ∧ entries.map (·.text) = older ++ texts ∧
      texts.length = min limit entries.length := by
  have hload : (load limit (.file (linesOf entries))).1 =
      .ok (takeLast limit (entries.map (·.text))) :=
    load_file_eq_ok_iff.2 ⟨readable_linesOf entries, by rw [recordTexts_linesOf]⟩
  have happend := foldlM_append [] entries
  rw [List.nil_append] at happend
  have hlength : (takeLast limit (entries.map (·.text))).length = min limit entries.length := by
    rw [length_takeLast, List.length_map]
  have hsplit :=
    List.take_append_drop ((entries.map (·.text)).length - limit) (entries.map (·.text))
  obtain rfl | rfl := hf
  · -- the first append makes the file, and without any there is nothing to load
    cases entries with
    | nil => exact ⟨.missing, [], [], rfl, rfl, rfl, by simp⟩
    | cons e entries => exact ⟨_, _, _, happend, hload, hsplit.symm, hlength⟩
  · exact ⟨_, _, _, happend, hload, hsplit.symm, hlength⟩

/-- Of two entries, the first of them of two lines, the second is loaded. -/
theorem load_appended_two : ∃ g,
    [⟨"1 +\r\n2".toList, .accepted⟩, ⟨"\"\\".toList, .rejected⟩].foldlM
      (fun f e => append e f) FileState.missing = .ok g ∧
    (load 1 g).1 = .ok ["\"\\".toList] := by
  obtain ⟨g, older, texts, happend, hload, hsplit, hlength⟩ := load_appended (.inl rfl)
    [⟨"1 +\r\n2".toList, .accepted⟩, ⟨"\"\\".toList, .rejected⟩] 1
  obtain ⟨text, rfl⟩ := List.length_eq_one_iff.1 hlength
  have hparts : ["1 +\r\n2".toList] ++ ["\"\\".toList] = older ++ [text] := hsplit
  obtain ⟨-, htext⟩ := List.append_inj' hparts rfl
  rw [← htext] at hload
  exact ⟨g, happend, hload⟩

/-! ### Appending to any file -/

/-- Loading after a record has been appended never fails for a readable file. -/
theorem load_append_lineOf (h : Readable content) (r : HistoryRecord) (n : Nat) :
    (load n (.file (content ++ lineOf r))).1 =
      .ok (takeLast n (recordTexts (content ++ lineOf r))) :=
  load_file_eq_ok_iff.2 ⟨readable_append_lineOf h r, rfl⟩

/-- A record alone can be read, with its line not ended. -/
theorem readable_ofText_encode (r : HistoryRecord) : Readable (Bytes.ofText r.encode) := by
  intro line hline
  rw [Bytes.lines_of_notMem (lineFeed_notMem_ofText_encode r)] at hline
  split at hline
  · cases hline
  · rw [List.mem_singleton.1 hline, Bytes.toText?_ofText]
    rfl

/-- A record is read without the end of its line. -/
theorem load_ofText_encode (r : HistoryRecord) (hlimit : 1 ≤ limit) :
    (load limit (.file (Bytes.ofText r.encode))).1 = .ok [r.text] := by
  have hfeed := lineFeed_notMem_ofText_encode r
  have htexts : recordTexts (Bytes.ofText r.encode) = [r.text] := by
    rw [recordTexts_eq, Bytes.endedPart_of_notMem hfeed, Bytes.unended_of_notMem hfeed,
      recordText?_ofText_encode]
    rfl
  refine load_file_eq_ok_iff.2 ⟨readable_ofText_encode r, ?_⟩
  rw [htexts, takeLast_of_length_le hlimit]

/-- A record behind a record is not read, and neither is the one before it. -/
theorem load_ofText_encode_append (r r' : HistoryRecord) (n : Nat) :
    (load n (.file (Bytes.ofText r.encode ++ lineOf r'))).1 = .ok [] := by
  have hfeed := lineFeed_notMem_ofText_encode r
  have hbrace : ∃ c ∈ r.encode, ¬ JsonToken.isSpace c :=
    ⟨'\x7d', List.mem_of_getLast? r.getLast?_encode, by decide⟩
  rw [load_append_lineOf (readable_ofText_encode r), recordTexts_append_lineOf,
    Bytes.endedPart_of_notMem hfeed, Bytes.unended_of_notMem hfeed, ← Bytes.ofText_append,
    recordText?_ofText, HistoryRecord.decode?_append_encode hbrace]
  -- both records are on one line, which is none
  show Except.ok (takeLast n []) = _
  rw [takeLast, List.drop_nil]

/-- What is lost and what is kept where an entry is appended to a file that can be loaded. The entry
is added to what was there if the last line is ended, or holds only space so far. Otherwise the
entry makes one line with what stands there, and that line is no record: the entry is lost, and so
is the record of that line, if it was one. -/
theorem load_append {content : Bytes} {limit : Nat} {texts : List Text}
    (hload : (load limit (.file content)).1 = .ok texts) (hall : texts.length < limit)
    (e : HistoryEntry) :
    ∃ f t, append e (.file content) = .ok f ∧ content.unended = Bytes.ofText t ∧
      if t.all JsonToken.isSpace then
        ∀ n > texts.length, (load n f).1 = .ok (texts ++ [e.text])
      else
        texts = recordTexts content.endedPart ++ (recordText? content.unended).toList ∧
          ∀ n ≥ texts.length, (load n f).1 = .ok (recordTexts content.endedPart) := by
  obtain ⟨hread, htexts⟩ := load_file_eq_ok_iff.1 hload
  have hlength : (recordTexts content).length < limit := by
    rw [htexts, length_takeLast] at hall
    omega
  rw [takeLast_of_length_le hlength.le, recordTexts_eq] at htexts
  obtain ⟨t, ht⟩ := exists_unended_eq hread
  refine ⟨_, t, rfl, ht, ?_⟩
  have hline := recordText?_ofText (t ++ (HistoryRecord.ofEntry e).encode)
  rw [Bytes.ofText_append, ← ht] at hline
  have happended := recordTexts_append_lineOf content (.ofEntry e)
  by_cases hspace : t.all JsonToken.isSpace
  · -- space on the last line was no record before, and is skipped before the new one
    rw [if_pos hspace]
    rw [List.all_eq_true] at hspace
    have hblank : Text.isAllBlank t :=
      List.all_eq_true.2 fun c hc => JsonToken.isBlank_of_isSpace (hspace c hc)
    have hnone : recordText? content.unended = none := by
      rw [ht, recordText?_ofText, HistoryRecord.decode?_of_isAllBlank hblank]
      rfl
    rw [HistoryRecord.decode?_encode _ hspace] at hline
    rw [hnone, Option.toList_none, List.append_nil] at htexts
    rw [hline, ← htexts] at happended
    intro n hn
    rw [load_append_lineOf hread, happended, takeLast_of_length_le]
    · rfl
    · rw [List.length_append]
      exact hn
  · -- whether the last line was a record or not, it is none with another record behind it
    rw [if_neg hspace]
    have hother : ∃ c ∈ t, ¬ JsonToken.isSpace c := by
      simpa only [List.all_eq_true, not_forall, exists_prop] using hspace
    rw [HistoryRecord.decode?_append_encode hother] at hline
    rw [hline, Option.map_none, Option.toList_none, List.append_nil] at happended
    refine ⟨htexts, fun n hn => ?_⟩
    rw [htexts, List.length_append] at hn
    rw [load_append_lineOf hread, happended, takeLast_of_length_le (by omega)]

/-- An entry is appended behind a record that is cut short of the end of its line, and both are
lost. -/
theorem load_append_behind_record : ∃ f,
    append ⟨"b".toList, .accepted⟩
      (.file (Bytes.ofText (HistoryRecord.encode ⟨"a".toList, true⟩))) = .ok f ∧
    ∀ n ≥ 1, (load n f).1 = .ok [] := by
  let r : HistoryRecord := ⟨"a".toList, true⟩
  have hfeed := lineFeed_notMem_ofText_encode r
  obtain ⟨f, t, happend, ht, hlost⟩ :=
    load_append (load_ofText_encode r (by decide : 1 ≤ 2)) (by decide) ⟨"b".toList, .accepted⟩
  -- the last line ends with a brace, which is no space
  have hbrace : ¬ t.all JsonToken.isSpace := by
    intro hspace
    rw [List.all_eq_true] at hspace
    rw [Bytes.unended_of_notMem hfeed] at ht
    have htext := congrArg Bytes.toText? ht
    rw [Bytes.toText?_ofText, Bytes.toText?_ofText, Option.some_inj] at htext
    have hlast := hspace '\x7d' (htext ▸ List.mem_of_getLast? r.getLast?_encode)
    cases hlast
  rw [if_neg hbrace, Bytes.endedPart_of_notMem hfeed] at hlost
  exact ⟨f, happend, hlost.2⟩

/-- Appending does not always add to what was there. -/
theorem not_forall_load_append : ¬ ∀ (content : Bytes) (limit : Nat) (texts : List Text)
    (e : HistoryEntry) (f : FileState), (load limit (.file content)).1 = .ok texts →
      texts.length < limit → append e (.file content) = .ok f →
        ∃ n, (load n f).1 = .ok (texts ++ [e.text]) := by
  intro h
  obtain ⟨n, hn⟩ := h (Bytes.ofText (HistoryRecord.encode ⟨"a".toList, true⟩)) 2 ["a".toList]
    ⟨"b".toList, .accepted⟩ _ (load_ofText_encode _ (by decide)) (by decide) rfl
  rw [load_ofText_encode_append] at hn
  cases hn

end HistoryFile

end StatementReader
