import StatementReader.Proofs.Lexeme.Slice
import StatementReader.Proofs.Token.LineBreak

/-!
# The gap before a token

A token knows whether a line break stands between it and the token before. It learns this from the
lexemes, whose gaps and comments are looked at one by one. Here the same is read off the text: the
gap is the slice from the end of the one token to the start of the other, comments included
(`TokenRow.afterBreak_iff`).
-/

namespace StatementReader
namespace TokenRow

open Text Lexeme

/-- The gap before a token, where the end of the token before the row is the size of `front` and
`gap` is what stands between that and the row. -/
theorem afterBreak_iff_of_lexemes {ls : List Lexeme} {front gap s : Text} {crossed : Bool}
    {us vs : List Token} {x : Token} (hls : scanFrom (size front + size gap) s = ls)
    (hcrossed : crossed ↔ '\n' ∈ gap) (h : (ofLexemes crossed ls).tokens = us ++ x :: vs) :
    x.afterBreak ↔
      '\n' ∈ slice (Token.lastStop (size front) us) x.start (front ++ (gap ++ s)) := by
  -- what the scan has passed grows at the front by a token, and in the gap by a comment
  induction ls generalizing front gap s crossed us with
  | nil => simp [ofLexemes] at h
  | cons l ls ih =>
    obtain ⟨blank, c, r, rfl, -, -, hl, hrest⟩ := scanFrom_eq_cons_iff.1 hls
    have htaken : c :: r = l.text ++ (cut c r).rest := by
      rw [← (splits_cut c r).taken_append_rest, hl]
    have hgap : l.gap = blank := by rw [hl]
    have hstart : l.start = size front + size (gap ++ blank) := by
      rw [hl, size_append, Nat.add_assoc]
    have hstop : l.stop = size front + size (gap ++ blank ++ l.text) := by
      rw [stop, hstart, size_append (gap ++ blank), Nat.add_assoc]
    rw [ofLexemes] at h
    split at h
    · simp at h
    · split at h
      · -- a comment is part of the gap
        have hcrossed' : (crossed || l.gap.contains '\n' || l.text.contains '\n') ↔
            '\n' ∈ gap ++ blank ++ l.text := by
          simp [hcrossed, hgap, or_assoc]
        rw [hstop] at hrest
        have hx := ih hrest hcrossed' h
        rw [htaken]
        simpa only [List.append_assoc] using hx
      · cases us with
        | nil =>
          -- the token itself, with the whole gap before it
          obtain ⟨rfl, -⟩ := List.cons.inj h
          have hslice : slice (size front) l.start (front ++ (gap ++ (blank ++ c :: r))) =
              gap ++ blank := by
            rw [hstart, ← List.append_assoc gap]
            exact slice_size_append ..
          rw [Token.lastStop_nil, hslice]
          simp [hcrossed, hgap]
        | cons u us =>
          -- the token ends a gap, and the next one begins behind it
          obtain ⟨rfl, htail⟩ := List.cons.inj h
          have hfront : scanFrom (size (front ++ (gap ++ blank) ++ l.text) + size [])
              (cut c r).rest = ls := by
            rw [hstop] at hrest
            simpa using hrest
          have hnone : (false : Bool) ↔ '\n' ∈ ([] : Text) := by simp
          have hx := ih hfront hnone htail
          have hlast : size (front ++ (gap ++ blank) ++ l.text) = l.stop := by
            rw [hstop]
            simp
          rw [hlast] at hx
          rw [htaken, Token.lastStop_cons]
          simpa only [List.append_assoc, List.nil_append] using hx

/-- A token stands behind a line break if one is between it and the token before. -/
theorem afterBreak_iff {t : Text} {us vs : List Token} {x : Token}
    (h : (ofText t).tokens = us ++ x :: vs) :
    x.afterBreak ↔ '\n' ∈ slice (Token.lastStop 0 us) x.start t := by
  have hscan : scanFrom (size [] + size []) t = scan t := rfl
  have hnone : (false : Bool) ↔ '\n' ∈ ([] : Text) := by simp
  exact afterBreak_iff_of_lexemes hscan hnone h

end TokenRow
end StatementReader
