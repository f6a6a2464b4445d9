import WorkloadIdentity.Text.Percent

/-!
# Texts with whole escapes

In a text with whole escapes two hexadecimal digits follow every percent sign.

* `Percent.escapesWhole_iff`: the check is about all percent signs of the text.
* `Percent.escapesWhole_append`: after whole escapes it is about what follows.
-/

namespace WorkloadIdentity

namespace Hex

/-- The characters with a value are the hexadecimal digits. -/
theorem isSome_value?
    (c : Char) :
    (value? c).isSome = c.isHexDigit := by
  have hrange (a b : Char) : (a ≤ c ∧ c ≤ b) ↔ (c.val ≥ a.val ∧ c.val ≤ b.val) := Iff.rfl
  rw [Bool.eq_iff_iff]
  simp only [value?, Char.isHexDigit, Char.isDigit, hrange, Bool.or_eq_true, Bool.and_eq_true,
    decide_eq_true_eq]
  split
  · next h => exact iff_of_true rfl (Or.inl (Or.inl h))
  · next hdigit =>
    split
    · next h => exact iff_of_true rfl (Or.inl (Or.inr h))
    · next hlower =>
      split
      · next h => exact iff_of_true rfl (Or.inr h)
      · next hupper =>
        refine iff_of_false Bool.false_ne_true ?_
        rintro ((h | h) | h)
        · exact hdigit h
        · exact hlower h
        · exact hupper h

theorem ne_percent_of_isHexDigit
    {c : Char}
    (h : c.isHexDigit = true) :
    c ≠ '%' := by
  rintro rfl
  exact absurd h (by decide)

end Hex

namespace Percent

/-- Two hexadecimal digits stand in front. -/
def BeginsWithDigits
    (chars : List Char) : Prop :=
  ∃ high low rest, chars = high :: low :: rest ∧ high.isHexDigit = true ∧ low.isHexDigit = true

/-- What follows every mark of a text follows it in front and behind the first character. -/
theorem forall_mark_cons
    {mark c : Char} {rest : List Char} {p : List Char → Prop} :
    (∀ before after, c :: rest = before ++ mark :: after → p after) ↔
      (c = mark → p rest) ∧ ∀ before after, rest = before ++ mark :: after → p after := by
  constructor
  · intro h
    constructor
    · rintro rfl
      exact h [] rest rfl
    · rintro before after rfl
      exact h (c :: before) after rfl
  · rintro ⟨hhere, hrest⟩ before after hsplit
    rcases List.cons_eq_append_iff.mp hsplit with ⟨rfl, hafter⟩ | ⟨more, rfl, hmore⟩
    · cases hafter
      exact hhere rfl
    · exact hrest more after hmore

theorem escapesWhole_cons_of_ne
    {c : Char}
    (h : c ≠ '%')
    (rest : List Char) :
    escapesWhole (c :: rest) = escapesWhole rest := by
  rw [escapesWhole]
  · simp [h]
  · intro high low more hc
    exact absurd hc h

/-- All escapes are whole exactly if two digits follow every percent sign. -/
theorem escapesWhole_iff
    {chars : List Char} :
    escapesWhole chars = true ↔
      ∀ before after, chars = before ++ '%' :: after → BeginsWithDigits after := by
  fun_induction escapesWhole chars with
  | case1 high low rest ih =>
      simp only [Bool.and_eq_true, Hex.isSome_value?, ih, forall_mark_cons]
      constructor
      · rintro ⟨⟨hhigh, hlow⟩, hrest⟩
        exact ⟨fun _ => ⟨high, low, rest, rfl, hhigh, hlow⟩,
          fun hmark => absurd hmark (Hex.ne_percent_of_isHexDigit hhigh),
          fun hmark => absurd hmark (Hex.ne_percent_of_isHexDigit hlow), hrest⟩
      · rintro ⟨hhere, -, -, hrest⟩
        obtain ⟨_, _, _, heq, hhigh, hlow⟩ := hhere trivial
        cases heq
        exact ⟨⟨hhigh, hlow⟩, hrest⟩
  | case2 c rest hshort ih =>
      simp only [Bool.and_eq_true, bne_iff_ne, ih, forall_mark_cons]
      refine and_congr_left fun _ => ?_
      constructor
      · intro hne hmark
        exact absurd hmark hne
      · rintro hdigits rfl
        obtain ⟨high, low, more, heq, -⟩ := hdigits rfl
        exact hshort high low more rfl heq
  | case3 => simp

/-- There are only whole escapes where there are none. -/
theorem escapesWhole_of_not_mem
    {chars : List Char}
    (h : '%' ∉ chars) :
    escapesWhole chars = true := by
  rw [escapesWhole_iff]
  rintro before after rfl
  exact absurd (List.mem_append_right before List.mem_cons_self) h

/-- After whole escapes only what follows is looked at. -/
theorem escapesWhole_append
    {front back : List Char}
    (h : escapesWhole front = true) :
    escapesWhole (front ++ back) = escapesWhole back := by
  fun_induction escapesWhole front with
  | case1 high low rest ih =>
      obtain ⟨hdigits, hrest⟩ := Bool.and_eq_true_iff.mp h
      rw [List.cons_append, List.cons_append, List.cons_append, escapesWhole, ih hrest, hdigits,
        Bool.true_and]
  | case2 c rest hshort ih =>
      obtain ⟨hne, hrest⟩ := Bool.and_eq_true_iff.mp h
      rw [List.cons_append, escapesWhole_cons_of_ne (by simpa using hne), ih hrest]
  | case3 => rfl

end Percent
end WorkloadIdentity
