import StatementReader.Proofs.Completion.Insertion

/-!
# The common start of the insertions

The common start is the greatest text that every insertion begins with. This determines it, so it
depends on which texts are inserted, and not on their order or on how often each of them occurs
(`Completions.commonStart_longest`).

It can be found by cutting with byte offsets: each insertion cuts the start found so far where the
first different character begins, or at the length of the shorter text if there is no such character
(`Text.firstDifference`). No such cut goes through a character, because up to it the two texts agree
in whole characters. That two different characters may begin with the same bytes does not matter.
-/

namespace StatementReader

namespace Text

/-- The characters of a text, each with the offset at which it begins. -/
def charOffsets (offset : Nat) : Text → List (Nat × Char)
  | [] => []
  | c :: t => (offset, c) :: charOffsets (offset + c.utf8Size) t

/-- Where the first character of `s` begins that is not the character of `t` at the same place. If
the texts agree as far as both go, this is the length of the shorter one in bytes. -/
def firstDifference (s t : Text) : Nat :=
  (((charOffsets 0 s).zip t).find? fun p => p.1.2 ≠ p.2).elim (min (size s) (size t)) (·.1.1)

/-- Two texts that both begin at an offset agree as far as they begin alike. -/
theorem find?_charOffsets (offset : Nat) (s t : Text) :
    (((charOffsets offset s).zip t).find? fun p => p.1.2 ≠ p.2).elim
      (offset + min (size s) (size t)) (·.1.1) = offset + size (Completions.sharedStart s t) := by
  induction s generalizing offset t with
  | nil => simp [charOffsets, Completions.sharedStart]
  | cons c s ih =>
    cases t with
    | nil => simp [Completions.sharedStart]
    | cons d t =>
      rw [charOffsets, List.zip_cons_cons, Completions.sharedStart]
      -- the search goes on behind two equal characters, with the offset moved past them
      by_cases hcd : c = d
      · subst hcd
        rw [List.find?_cons_of_neg (by simp), if_pos rfl, size_cons, size_cons, size_cons,
          Nat.add_min_add_left, ← Nat.add_assoc, ← Nat.add_assoc]
        exact ih (offset + c.utf8Size) t
      · rw [List.find?_cons_of_pos (by simpa using hcd), if_neg hcd]
        rfl

theorem firstDifference_eq (s t : Text) :
    firstDifference s t = size (Completions.sharedStart s t) := by
  have h := find?_charOffsets 0 s t
  rwa [Nat.zero_add, Nat.zero_add] at h

theorem isBoundary_of_isPrefix {p t : Text} (h : p <+: t) : IsBoundary (size p) t := by
  obtain ⟨r, rfl⟩ := h
  exact ⟨p, r, rfl, rfl⟩

end Text

namespace Completions

open Text

theorem sharedStart_isPrefix (s t : Text) : sharedStart s t <+: s ∧ sharedStart s t <+: t :=
  prefix_sharedStart_iff.1 List.prefix_rfl

/-- A cut at the first difference leaves what two texts begin with alike. -/
theorem upTo_firstDifference (s t : Text) : upTo (firstDifference s t) s = sharedStart s t := by
  obtain ⟨r, hr⟩ := (sharedStart_isPrefix s t).1
  have hcut := upTo_size_append (sharedStart s t) r
  rwa [hr, ← firstDifference_eq] at hcut

theorem isBoundary_firstDifference (s t : Text) : IsBoundary (firstDifference s t) s := by
  rw [firstDifference_eq]
  exact isBoundary_of_isPrefix (sharedStart_isPrefix s t).1

/-- The common start is what cutting the first insertion at one difference after the other leaves.
-/
theorem commonStart_eq_foldl_upTo {c : Completions} {first : Candidate} {others : List Candidate}
    (h : c.candidates = first :: others) : c.commonStart =
      others.foldl (fun start o => upTo (firstDifference start o.insertText) start)
        first.insertText := by
  rw [commonStart, h]
  exact List.foldl_ext _ _ _ fun start o _ => (upTo_firstDifference start o.insertText).symm

/-- Only which candidates there are matters. -/
theorem commonStart_congr {c c' : Completions} (h : ∀ o, o ∈ c.candidates ↔ o ∈ c'.candidates) :
    c.commonStart = c'.commonStart := by
  by_cases hnil : c.candidates = []
  · have hnil' : c'.candidates = [] :=
      List.eq_nil_iff_forall_not_mem.2 fun o ho => List.not_mem_nil (hnil ▸ (h o).2 ho)
    rw [commonStart, commonStart, hnil, hnil']
  · have hnil' : c'.candidates ≠ [] := by
      obtain ⟨o, ho⟩ := List.exists_mem_of_ne_nil _ hnil
      exact List.ne_nil_of_mem ((h o).1 ho)
    -- each of the two begins all the insertions, and so it begins the other
    have hbegins (p : Text) : p <+: c.commonStart ↔ p <+: c'.commonStart := by
      rw [prefix_commonStart_iff hnil, prefix_commonStart_iff hnil']
      exact forall_congr' fun o => imp_congr (h o) Iff.rfl
    exact ((hbegins _).1 List.prefix_rfl).eq_of_length_le
      ((hbegins _).2 List.prefix_rfl).length_le

/-- The common start is the longest text that every insertion begins with, and it ends between two
characters of each. The order of the candidates makes no difference. Without candidates it is empty,
and with some it is what cuts at byte offsets leave of the first, none of them through a
character. -/
theorem commonStart_longest (c : Completions) :
    (∀ o ∈ c.candidates, c.commonStart <+: o.insertText ∧
      IsBoundary (size c.commonStart) o.insertText) ∧
    (c.candidates ≠ [] → ∀ p, (∀ o ∈ c.candidates, p <+: o.insertText) → p <+: c.commonStart) ∧
    (∀ c' : Completions, c.candidates.Perm c'.candidates → c.commonStart = c'.commonStart) ∧
    (c.candidates = [] → c.commonStart = []) ∧
    (∀ first others, c.candidates = first :: others → c.commonStart =
      others.foldl (fun start o => upTo (firstDifference start o.insertText) start)
        first.insertText) ∧
    ∀ start insertion, IsBoundary (firstDifference start insertion) start := by
  refine ⟨fun o ho => ?_, fun hne p hp => ?_, fun c' hperm => ?_, fun hnil => ?_,
    fun first others => commonStart_eq_foldl_upTo, isBoundary_firstDifference⟩
  · have hbegins : c.commonStart <+: o.insertText :=
      (prefix_commonStart_iff (List.ne_nil_of_mem ho)).1 List.prefix_rfl o ho
    exact ⟨hbegins, isBoundary_of_isPrefix hbegins⟩
  · exact (prefix_commonStart_iff hne).2 hp
  · exact commonStart_congr fun o => hperm.mem_iff
  · rw [commonStart, hnil]

/-- Two letters that differ in the second of their two bytes only. -/
theorem commonStart_longest_accents :
    let c : Completions := ⟨0, [⟨"n\u00E9".toList, "n\u00E9".toList⟩,
      ⟨"n\u00E8s".toList, "n\u00E8s".toList⟩], []⟩
    c.candidates ≠ [] ∧ c.commonStart = ['n'] ∧
    (∀ o ∈ c.candidates, c.commonStart <+: o.insertText ∧
      IsBoundary (size c.commonStart) o.insertText) ∧
    (∀ p, (∀ o ∈ c.candidates, p <+: o.insertText) → p <+: c.commonStart) ∧
    c.commonStart = (⟨1, c.candidates.reverse, []⟩ : Completions).commonStart := by
  intro c
  obtain ⟨hbegins, hlongest, horder, -⟩ := commonStart_longest c
  exact ⟨by decide, by decide, hbegins, hlongest (by decide),
    horder ⟨1, c.candidates.reverse, []⟩ (List.reverse_perm c.candidates).symm⟩

end Completions

end StatementReader
