import Mathlib.Data.List.Lex
import StatementReader.Completion.Reply
import StatementReader.Text.Utf8

/-!
# The order of texts and of their bytes

Texts are compared character by character, and their UTF-8 forms byte by byte, with the same result
(`Bytes.ofText_lt_iff`). UTF-8 is made for this: a character with a longer code has a greater first
byte, and codes of the same length are the digits of the code points in base 64, the most
significant one first (`Bytes.digits_lt`). So two characters are told apart by the first byte in
which their codes differ, and one code is never the beginning of another.
-/

namespace StatementReader

namespace Bytes

variable {s t : Text} {m n : ℕ}

/-- Bytes compare as the numbers that they stand for. -/
theorem ofNat_cons_lt_iff (hm : m < 256) (hn : n < 256) {x y : Bytes} :
    UInt8.ofNat m :: x < UInt8.ofNat n :: y ↔ m < n ∨ m = n ∧ x < y := by
  rw [List.cons_lt_cons_iff, UInt8.lt_iff_toNat_lt, ← UInt8.toNat_inj,
    UInt8.toNat_ofNat_of_lt' hm, UInt8.toNat_ofNat_of_lt' hn]

/-- The smaller of two numbers has the smaller digit in base 64 where their digits first differ. -/
theorem digits_lt (h : m < n) : m / 262144 < n / 262144 ∨ m / 262144 = n / 262144 ∧
    (m / 4096 % 64 < n / 4096 % 64 ∨ m / 4096 % 64 = n / 4096 % 64 ∧
      (m / 64 % 64 < n / 64 % 64 ∨ m / 64 % 64 = n / 64 % 64 ∧ m % 64 < n % 64)) := by
  have hdigit {m n : ℕ} (h : m < n) : m / 64 < n / 64 ∨ m / 64 = n / 64 ∧ m % 64 < n % 64 := by
    omega
  have hshift (k : ℕ) : k / 4096 = k / 64 / 64 ∧ k / 262144 = k / 64 / 64 / 64 := by
    rw [Nat.div_div_eq_div_mul, Nat.div_div_eq_div_mul]
    exact ⟨rfl, rfl⟩
  rw [(hshift m).1, (hshift m).2, (hshift n).1, (hshift n).2]
  rcases hdigit h with h | h
  · rcases hdigit h with h | h
    · exact (hdigit h).imp_right fun h => ⟨h.1, .inl h.2⟩
    · exact .inr ⟨congrArg (· / 64) h.1, .inr ⟨congrArg (· % 64) h.1, .inl h.2⟩⟩
  · rw [h.1]
    exact .inr ⟨rfl, .inr ⟨rfl, .inr ⟨rfl, h.2⟩⟩⟩

/-- The codes of two characters already differ before either of them ends, and in their order. -/
theorem utf8EncodeChar_append_lt {c d : Char} (h : c < d) (x y : Bytes) :
    String.utf8EncodeChar c ++ x < String.utf8EncodeChar d ++ y := by
  have hlt : c.val.toNat < d.val.toNat := h
  have hmax : d.val.toNat < 0x110000 := by
    rcases d.valid with hd | hd
    · exact Nat.lt_trans hd (by decide)
    · exact hd.2
  unfold String.utf8EncodeChar
  generalize c.val.toNat = m, d.val.toNat = n at hlt hmax
  have hdigits := digits_lt hlt
  -- the first digit of the longest codes is small, as there are no greater code points
  have hm : m / 262144 % 8 = m / 262144 := Nat.mod_eq_of_lt (by omega)
  have hn : n / 262144 % 8 = n / 262144 := Nat.mod_eq_of_lt (by omega)
  dsimp only
  split_ifs <;> simp (disch := omega) only [List.cons_append, List.nil_append, ofNat_cons_lt_iff,
    hm, hn] <;> omega

theorem ofText_cons (c : Char) (t : Text) :
    ofText (c :: t) = String.utf8EncodeChar c ++ ofText t := rfl

theorem ofText_lt (h : s < t) : ofText s < ofText t := by
  induction h with
  | @nil c t =>
    rw [ofText_cons]
    obtain ⟨b, code, hcode⟩ := List.exists_cons_of_ne_nil (String.utf8EncodeChar_ne_nil (c := c))
    rw [hcode]
    exact List.nil_lt_cons b _
  | rel hcd => exact utf8EncodeChar_append_lt hcd _ _
  | cons _ ih =>
    rw [ofText_cons, ofText_cons]
    exact List.append_left_lt ih

theorem ofText_lt_iff : ofText s < ofText t ↔ s < t := by
  refine ⟨fun h => ?_, ofText_lt⟩
  by_contra hst
  rcases List.le_iff_lt_or_eq.1 (List.not_lt.1 hst) with hts | rfl
  · exact List.lt_asymm h (ofText_lt hts)
  · exact List.lt_irrefl _ h

theorem ofText_le_iff : ofText s ≤ ofText t ↔ ¬ t < s := by
  rw [← List.not_lt, ofText_lt_iff]

end Bytes

namespace Text

variable {s t : Text}

theorem notAfter_iff : notAfter s t ↔ ¬ t < s := by
  rw [notAfter, Bool.not_eq_true', ← Bool.not_eq_true, List.lex_eq_true_iff_lt]

/-- Sorted texts are in ascending order, also with the same text in front of each of them. -/
theorem pairwise_mergeSort_notAfter (ts : List Text) (path : Text) :
    (ts.mergeSort notAfter).Pairwise fun s t => ¬ path ++ t < path ++ s := by
  have htrans (s t u : Text) (hst : notAfter s t) (htu : notAfter t u) : notAfter s u := by
    rw [notAfter_iff, List.not_lt] at hst htu ⊢
    exact List.le_trans hst htu
  have htotal (s t : Text) : notAfter s t || notAfter t s := by
    rw [Bool.or_eq_true, notAfter_iff, notAfter_iff, List.not_lt, List.not_lt]
    exact List.le_total s t
  have hsorted : (ts.mergeSort notAfter).Pairwise fun s t => notAfter s t :=
    List.pairwise_mergeSort htrans htotal ts
  -- a common front changes nothing about the order
  refine hsorted.imp fun {s t} h => ?_
  rw [notAfter_iff, List.not_lt] at h
  rw [List.not_lt]
  exact List.append_left_le h

end Text

end StatementReader
