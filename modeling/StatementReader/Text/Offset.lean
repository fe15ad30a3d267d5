import StatementReader.Text.Ranges

/-!
# Byte offsets

Positions in a text are counted in bytes of its UTF-8 form. An offset need not lie between two
characters, nor inside the text at all: `upTo n` keeps the characters that end at or before byte
`n`, and `floor n` is where they end, the greatest character boundary not above `n`. Cutting a text
with `upTo` and `beyond` therefore never splits a character (`upTo_append_beyond`), and `floor` is
the identity exactly on the boundaries.
-/

namespace StatementReader.Text

/-- The length of a text in bytes. -/
def size : Text → Nat
  | [] => 0
  | c :: t => c.utf8Size + size t

/-- The characters that end at or before byte `n`. -/
def upTo (n : Nat) : Text → Text
  | [] => []
  | c :: t => if c.utf8Size ≤ n then c :: upTo (n - c.utf8Size) t else []

/-- The characters that `upTo n` leaves. -/
def beyond (n : Nat) : Text → Text
  | [] => []
  | c :: t => if c.utf8Size ≤ n then beyond (n - c.utf8Size) t else c :: t

/-- The greatest character boundary not above `n`. -/
def floor (n : Nat) (t : Text) : Nat := size (upTo n t)

/-- The characters between two byte offsets. -/
def slice (start stop : Nat) (t : Text) : Text := upTo (stop - start) (beyond start t)

/-- Byte `n` lies between two characters, or at one of the two ends. -/
def IsBoundary (n : Nat) (t : Text) : Prop := ∃ s r, t = s ++ r ∧ n = size s

/-- The boundary before `floor n`, which is `floor n` itself at the start of the text. -/
def prevBoundary (n : Nat) (t : Text) : Nat := size (upTo n t).dropLast

/-- The boundary after `floor n`, which is `floor n` itself at the end of the text. -/
def nextBoundary (n : Nat) (t : Text) : Nat :=
  match beyond n t with
  | c :: _ => floor n t + c.utf8Size
  | [] => size t

/-- Where the first character with a property starts. -/
def findOffset? (p : Char → Bool) : Text → Option Nat
  | [] => none
  | c :: t => if p c then some 0 else (findOffset? p t).map (c.utf8Size + ·)

/-- Where the last character with a property starts. -/
def findLastOffset? (p : Char → Bool) : Text → Option Nat
  | [] => none
  | c :: t =>
    match findLastOffset? p t with
    | some i => some (c.utf8Size + i)
    | none => if p c then some 0 else none

/-- The text with another one in the place of the bytes from `start` to `stop`. -/
def replaceRange (start stop : Nat) (value t : Text) : Text :=
  upTo start t ++ value ++ beyond stop t

/-! ### Sizes -/

@[simp] theorem size_nil : size [] = 0 := rfl

@[simp] theorem size_cons (c : Char) (t : Text) : size (c :: t) = c.utf8Size + size t := rfl

@[simp] theorem size_append (s t : Text) : size (s ++ t) = size s + size t := by
  induction s with
  | nil => simp
  | cons c s ih => rw [List.cons_append, size_cons, size_cons, ih, Nat.add_assoc]

/-- Only the empty text takes no byte. -/
theorem size_eq_zero {t : Text} : size t = 0 ↔ t = [] := by
  cases t with
  | nil => simp
  | cons c t => simp [Nat.ne_of_gt c.utf8Size_pos]

/-! ### Cutting at an offset -/

/-- A text is what is up to an offset and what is beyond it. -/
theorem upTo_append_beyond (n : Nat) (t : Text) : upTo n t ++ beyond n t = t := by
  induction t generalizing n with
  | nil => rfl
  | cons c t ih =>
    simp only [upTo, beyond]
    split <;> simp [ih]

/-- A boundary is no later than the offset that it is found for. -/
theorem floor_le (n : Nat) (t : Text) : floor n t ≤ n := by
  induction t generalizing n with
  | nil => simp [floor, upTo]
  | cons c t ih =>
    simp only [floor, upTo]
    split
    · have := ih (n - c.utf8Size)
      simp only [floor] at this
      simp only [size_cons]
      omega
    · simp

/-- Cutting at the end of a prefix gives that prefix. -/
theorem upTo_size_append (s t : Text) : upTo (size s) (s ++ t) = s := by
  induction s with
  | nil =>
    cases t with
    | nil => rfl
    | cons c t => simp [upTo, Nat.ne_of_gt c.utf8Size_pos]
  | cons c s ih => simp [upTo, ih]

theorem beyond_size_append (s t : Text) : beyond (size s) (s ++ t) = t := by
  have h := upTo_append_beyond (size s) (s ++ t)
  rw [upTo_size_append] at h
  exact List.append_cancel_left h

@[simp] theorem floor_size_append (s t : Text) : floor (size s) (s ++ t) = size s := by
  rw [floor, upTo_size_append]

/-- What is found is a boundary. -/
theorem floor_isBoundary (n : Nat) (t : Text) : IsBoundary (floor n t) t :=
  ⟨upTo n t, beyond n t, (upTo_append_beyond n t).symm, rfl⟩

end StatementReader.Text
