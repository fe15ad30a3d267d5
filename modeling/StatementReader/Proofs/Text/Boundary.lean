import Mathlib.Data.List.DropRight
import Mathlib.Order.Bounds.Basic
import StatementReader.Proofs.Text.Append

/-!
# Offsets at a place in a text

A place in a text cuts it in two, `s ++ t`, and its offset is `size s`. Here everything that is
computed from that offset is said in terms of the two parts: the neighbouring boundaries, and the
two ends of the line.
-/

namespace StatementReader.Text

theorem le_floor {m n : Nat} {t : Text} (hm : IsBoundary m t) (h : m ≤ n) : m ≤ floor n t := by
  obtain ⟨s, r, rfl, rfl⟩ := hm
  induction s generalizing n with
  | nil => simp
  | cons c s ih =>
    rw [size_cons] at h
    have hs := ih (n := n - c.utf8Size) (by omega)
    rw [floor] at hs
    rw [List.cons_append, floor, upTo, if_pos (by omega), size_cons, size_cons]
    omega

theorem isGreatest_floor (n : Nat) (t : Text) :
    IsGreatest {m | IsBoundary m t ∧ m ≤ n} (floor n t) :=
  ⟨⟨floor_isBoundary n t, floor_le n t⟩, fun _ hm => le_floor hm.1 hm.2⟩

/-! ### Neighbouring boundaries -/

theorem prevBoundary_size_append (s t : Text) :
    prevBoundary (size s) (s ++ t) = size s.dropLast := by
  rw [prevBoundary, upTo_size_append]

theorem nextBoundary_size_append (s t : Text) :
    nextBoundary (size s) (s ++ t) = size (s ++ t.take 1) := by
  rw [nextBoundary, beyond_size_append, floor_size_append]
  cases t <;> simp

/-! ### The ends of the line -/

theorem findLastOffset?_concat (p : Char → Bool) (t : Text) (c : Char) :
    findLastOffset? p (t ++ [c]) = if p c then some (size t) else findLastOffset? p t := by
  induction t with
  | nil => rfl
  | cons d t ih =>
    rw [List.cons_append, findLastOffset?, ih]
    by_cases hc : p c
    · simp [hc]
    · simp [hc, findLastOffset?]

/-- What stands after the last line feed begins one byte after it, or else at the start. -/
theorem findLastOffset?_lineFeed (t : Text) :
    (findLastOffset? (· == '\n') t).elim 0 (· + 1) = size (t.rdropWhile (· != '\n')) := by
  induction t using List.reverseRecOn with
  | nil => rfl
  | append_singleton t c ih =>
    rw [findLastOffset?_concat, List.rdropWhile_concat]
    by_cases hc : c = '\n'
    · subst hc
      simp [show '\n'.utf8Size = 1 from rfl]
    · simpa [hc] using ih

/-- What stands before the first character with a property ends there, or else at the end. -/
theorem findOffset?_getD (p : Char → Bool) (t : Text) :
    (findOffset? p t).getD (size t) = size (t.takeWhile (!p ·)) := by
  induction t with
  | nil => rfl
  | cons c t ih =>
    by_cases hc : p c
    · simp [findOffset?, hc]
    · rw [findOffset?, if_neg hc, List.takeWhile_cons_of_pos (by simpa using hc), size_cons,
        size_cons, ← ih]
      cases findOffset? p t <;> rfl

end StatementReader.Text
