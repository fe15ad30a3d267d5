import StatementReader.Text.Offset

/-!
# Offsets in a text with more after it

Cutting `s ++ r` at an offset within `s` is cutting `s`, and beyond it is cutting `r` at what
remains of the offset. So a part of `s` or of `r` is the same part of `s ++ r`.
-/

namespace StatementReader

/-- An element of a list that is made of two parts stands in one of them. -/
theorem append_eq_append_cons {α : Type _} {as bs xs ys : List α} {x : α}
    (h : as ++ bs = xs ++ x :: ys) :
    (∃ zs, as = xs ++ x :: zs) ∨ ∃ zs, xs = as ++ zs ∧ bs = zs ++ x :: ys := by
  rcases List.append_eq_append_iff.1 h with ⟨zs, hxs, hbs⟩ | ⟨zs, has, hys⟩
  · exact .inr ⟨zs, hxs, hbs⟩
  · cases zs with
    | nil => exact .inr ⟨[], by rw [has, List.append_nil, List.append_nil], hys.symm⟩
    | cons z zs =>
      obtain ⟨rfl, -⟩ := List.cons.inj hys
      exact .inl ⟨zs, has⟩

namespace Text

theorem upTo_zero (t : Text) : upTo 0 t = [] := by
  cases t with
  | nil => rfl
  | cons c t => simp [upTo, Nat.ne_of_gt c.utf8Size_pos]

theorem beyond_zero (t : Text) : beyond 0 t = t := by
  cases t with
  | nil => rfl
  | cons c t => simp [beyond, Nat.ne_of_gt c.utf8Size_pos]

/-- An offset within the first part cuts the first part only. -/
theorem upTo_append_of_le {n : Nat} {s : Text} (h : n ≤ size s) (r : Text) :
    upTo n (s ++ r) = upTo n s := by
  induction s generalizing n with
  | nil =>
    obtain rfl := Nat.le_zero.1 h
    exact upTo_zero r
  | cons c s ih =>
    rw [size_cons] at h
    simp only [List.cons_append, upTo]
    split
    · rw [ih (by omega)]
    · rfl

theorem beyond_append_of_le {n : Nat} {s : Text} (h : n ≤ size s) (r : Text) :
    beyond n (s ++ r) = beyond n s ++ r := by
  induction s generalizing n with
  | nil =>
    obtain rfl := Nat.le_zero.1 h
    exact beyond_zero r
  | cons c s ih =>
    rw [size_cons] at h
    simp only [List.cons_append, beyond]
    split
    · exact ih (by omega)
    · rfl

theorem beyond_append_of_add (n : Nat) (s r : Text) :
    beyond (n + size s) (s ++ r) = beyond n r := by
  induction s with
  | nil => rfl
  | cons c s ih =>
    rw [size_cons, List.cons_append, beyond, if_pos (by omega)]
    rwa [show n + (c.utf8Size + size s) - c.utf8Size = n + size s by omega]

/-- What is left is no shorter than the bytes that are left. -/
theorem le_size_beyond (n : Nat) (t : Text) : size t - n ≤ size (beyond n t) := by
  have hsize := congrArg size (upTo_append_beyond n t)
  have hle := floor_le n t
  rw [size_append] at hsize
  rw [floor] at hle
  omega

/-- A part of the first text. -/
theorem slice_append_of_le {m n : Nat} {s : Text} (hm : m ≤ size s) (hn : n ≤ size s) (r : Text) :
    slice m n (s ++ r) = slice m n s := by
  have hle := le_size_beyond m s
  rw [slice, slice, beyond_append_of_le hm, upTo_append_of_le (by omega)]

/-- A part of the second text. -/
theorem slice_append_of_add (m n : Nat) (s r : Text) :
    slice (m + size s) (n + size s) (s ++ r) = slice m n r := by
  rw [slice, slice, beyond_append_of_add, Nat.add_sub_add_right]

/-- A part with text on both sides. -/
theorem slice_size_append (s t r : Text) :
    slice (size s) (size s + size t) (s ++ (t ++ r)) = t := by
  rw [slice, beyond_size_append, Nat.add_sub_cancel_left, upTo_size_append]

end Text

end StatementReader
