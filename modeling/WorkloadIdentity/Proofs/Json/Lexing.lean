import WorkloadIdentity.Json.Token
import Mathlib.Data.List.Chain

/-!
# Tokens are read back from their characters

Tokens are written side by side or with line ends between them.  Words and numbers have no end of
their own, so two of them must not stand next to each other.

* `literalBody?_escape`: the text of a string literal is read back, whatever its characters.
* `tokens?_compactChars` and `tokens?_prettyChars`: plain, separated tokens are read back from both
  ways of writing them.
-/

namespace WorkloadIdentity
namespace Json

theorem unit?_digits
    {high low : Nat}
    (hhigh : high < 16)
    (hlow : low < 16) :
    unit? '0' '0' (Hex.digit high) (Hex.digit low) = some (high * 16 + low) := by
  have hzero : Hex.value? '0' = some 0 := by decide
  simp [unit?, hzero, Hex.value?_digit hhigh, Hex.value?_digit hlow]

/-- One written character is read as one code unit, the character's number. -/
theorem literalBody?_escaped
    (c : Char) (done : List Nat) (rest : List Char) :
    literalBody? done (escaped c ++ rest) = literalBody? (c.toNat :: done) rest := by
  have number (d : Char) (n : Nat) (hd : d.toNat = n) : c.toNat = n → c = d := by
    intro hc
    rw [← Char.ofNat_toNat c, ← Char.ofNat_toNat d, hc, hd]
  unfold escaped
  split_ifs with hquote hslash hplain h8 h9 h10 h12 h13
  · subst hquote
    rfl
  · subst hslash
    rfl
  · have hsmall : ¬ c.toNat < 0x20 := by omega
    simp [literalBody?, hslash, hsmall]
  · obtain rfl := number '\x08' 0x08 rfl h8
    rfl
  · obtain rfl := number '\t' 0x09 rfl h9
    rfl
  · obtain rfl := number '\n' 0x0A rfl h10
    rfl
  · obtain rfl := number '\x0c' 0x0C rfl h12
    rfl
  · obtain rfl := number '\r' 0x0D rfl h13
    rfl
  · have hunit := unit?_digits (show c.toNat / 16 < 16 by omega) (show c.toNat % 16 < 16 by omega)
    have hsum : c.toNat / 16 * 16 + c.toNat % 16 = c.toNat := by omega
    rw [hsum] at hunit
    simp [literalBody?, hunit]

/-- The body of a literal is read as the numbers of its characters. -/
theorem literalBody?_escape
    (chars : List Char) (done : List Nat) (rest : List Char) :
    literalBody? done (chars.flatMap escaped ++ '"' :: rest)
      = some (done.reverse ++ chars.map Char.toNat, rest) := by
  induction chars generalizing done with
  | nil =>
      simp [literalBody?]
  | cons c chars ih =>
      rw [List.flatMap_cons, List.append_assoc, literalBody?_escaped, ih]
      simp

/-- No character is numbered like a surrogate. -/
theorem not_surrogate
    (c : Char) :
    isHighSurrogate c.toNat = false ∧ isLowSurrogate c.toNat = false := by
  have hvalid := c.valid
  have hnumber : c.toNat = c.val.toNat := rfl
  simp only [isHighSurrogate, isLowSurrogate, Bool.and_eq_false_iff, decide_eq_false_iff_not,
    hnumber]
  rcases hvalid with h | h <;> omega

theorem ofUnits?_map_toNat
    (chars : List Char) :
    ofUnits? (chars.map Char.toNat) = some chars := by
  induction chars with
  | nil =>
      rfl
  | cons c chars ih =>
      obtain ⟨hhigh, hlow⟩ := not_surrogate c
      rw [List.map_cons, ofUnits?.eq_def]
      simp [hhigh, hlow, ih]

/-- A token whose characters spell it: a literal has a text, a number is a natural number. -/
def Token.IsPlain : Token → Prop
  | number numeral => ∃ n, numeral = .ofNat n
  | text literal => literal.isSome
  | _ => True

/-- A token that ends only where another kind of character begins. -/
def Token.isOpenEnded : Token → Bool
  | null | bool _ | number _ => true
  | _ => false

/-- The characters do not go on with a word or a number. -/
def EndsRun (chars : List Char) : Prop :=
  ∀ c ∈ chars.head?, isLetter c = false ∧ Numeral.isChar c = false

theorem tokensFrom?_space
    {c : Char}
    (h : isSpace c = true)
    (done : List Token) (rest : List Char) :
    tokensFrom? done (c :: rest) = tokensFrom? done rest := by
  rw [tokensFrom?, if_pos h]

/-- Blanks between tokens are passed over. -/
theorem tokensFrom?_spaces
    {spaces : List Char}
    (h : ∀ c ∈ spaces, isSpace c = true)
    (done : List Token) (rest : List Char) :
    tokensFrom? done (spaces ++ rest) = tokensFrom? done rest := by
  induction spaces with
  | nil =>
      rfl
  | cons c spaces ih =>
      rw [List.cons_append, tokensFrom?_space (h c (by simp))]
      exact ih fun d hd => h d (by simp [hd])

/-- What follows a literal has no part in it. -/
theorem literalBody?_append
    {done units : List Nat} {chars rest : List Char}
    (h : literalBody? done chars = some (units, rest))
    (more : List Char) :
    literalBody? done (chars ++ more) = some (units, rest ++ more) := by
  fun_induction literalBody? done chars with
  | case1 | case3 | case5 | case7 => cases h
  | case2 =>
      cases h
      rfl
  | case4 done a b c d chars code hcode ih =>
      simp only [List.cons_append, literalBody?, hcode]
      exact ih h
  | case6 done c chars _ code hcode ih =>
      have hu : c ≠ 'u' := by
        rintro rfl
        cases hcode
      simp [literalBody?, hu, hcode, ih h]
  | case8 done c chars _ _ _ hplain ih =>
      obtain ⟨hcontrol, hslash⟩ := not_or.mp hplain
      simp [literalBody?, hslash, hcontrol, ih h]

theorem takeWhile_concat_of_neg
    {p : Char → Bool} {c : Char}
    (h : p c = false)
    (chars : List Char) :
    (chars ++ [c]).takeWhile p = chars.takeWhile p := by
  induction chars with
  | nil => simp [h]
  | cons d rest ih => simp only [List.cons_append, List.takeWhile_cons, ih]

theorem dropWhile_concat_of_neg
    {p : Char → Bool} {c : Char}
    (h : p c = false)
    (chars : List Char) :
    (chars ++ [c]).dropWhile p = chars.dropWhile p ++ [c] := by
  induction chars with
  | nil => simp [h]
  | cons d rest ih =>
      simp only [List.cons_append, List.dropWhile_cons, ih]
      split <;> rfl

/-- A blank after a text adds no token to those that are read from it. -/
theorem tokensFrom?_append_space
    {c : Char} {done tokens : List Token} {chars : List Char}
    (hspace : isSpace c = true)
    (h : tokensFrom? done chars = some tokens) :
    tokensFrom? done (chars ++ [c]) = some tokens := by
  have hends : isLetter c = false ∧ Numeral.isChar c = false := by
    simp only [isSpace, Bool.or_eq_true, beq_iff_eq] at hspace
    rcases hspace with ((rfl | rfl) | rfl) | rfl <;> decide
  fun_induction tokensFrom? done chars with
  | case1 done =>
      rw [List.nil_append, tokensFrom?_space hspace, tokensFrom?]
      exact h
  | case2 done d rest hblank ih =>
      rw [List.cons_append, tokensFrom?_space hblank]
      exact ih h
  | case3 | case6 | case8 => cases h
  | case4 done rest units after hbody hblank ih =>
      have hmore := literalBody?_append hbody [c]
      rw [List.cons_append, tokensFrom?, if_neg hblank, if_pos rfl]
      split
      · next hnone => cases hnone.symm.trans hmore
      · next hfound =>
        cases hfound.symm.trans hmore
        exact ih h
  | case5 done d rest hblank hquote token htoken ih =>
      rw [List.cons_append, tokensFrom?, if_neg hblank, if_neg hquote, htoken]
      exact ih h
  | case7 done d rest hblank hquote hnone hletter token htoken ih =>
      rw [List.cons_append, tokensFrom?, if_neg hblank, if_neg hquote, hnone, if_pos hletter,
        takeWhile_concat_of_neg hends.1, dropWhile_concat_of_neg hends.1]
      simp only [htoken]
      exact ih h
  | case9 done d rest hblank hquote hnone hletter numeral hnumeral ih =>
      rw [List.cons_append, tokensFrom?, if_neg hblank, if_neg hquote, hnone, if_neg hletter,
        takeWhile_concat_of_neg hends.2, dropWhile_concat_of_neg hends.2]
      simp only [hnumeral]
      exact ih h

theorem tokensFrom?_punctuation
    {c : Char} {token : Token}
    (hspace : isSpace c = false)
    (hquote : c ≠ '"')
    (h : punctuation? c = some token)
    (done : List Token) (rest : List Char) :
    tokensFrom? done (c :: rest) = tokensFrom? (token :: done) rest := by
  rw [tokensFrom?, if_neg (by simp [hspace]), if_neg hquote, h]

theorem tokensFrom?_literal
    (string : String) (done : List Token) (rest : List Char) :
    tokensFrom? done (literalChars (some string) ++ rest)
      = tokensFrom? (.text (some string) :: done) rest := by
  have hbody := literalBody?_escape string.toList [] rest
  simp only [List.reverse_nil, List.nil_append] at hbody
  have hchars : literalChars (some string) ++ rest
      = '"' :: (string.toList.flatMap escaped ++ '"' :: rest) := by
    simp [literalChars]
  have hspace : ¬ isSpace '"' = true := by decide
  rw [hchars, tokensFrom?, if_neg hspace, if_pos rfl]
  split
  · next hnone =>
    rw [hbody] at hnone
    cases hnone
  · next units after hsome =>
    rw [hbody] at hsome
    cases hsome
    simp [ofUnits?_map_toNat]

theorem takeWhile_run
    {p : Char → Bool} {run rest : List Char}
    (hrun : ∀ c ∈ run, p c = true)
    (hrest : ∀ c ∈ rest.head?, p c = false) :
    (run ++ rest).takeWhile p = run ∧ (run ++ rest).dropWhile p = rest := by
  have hstop : rest.takeWhile p = [] ∧ rest.dropWhile p = rest := by
    cases rest with
    | nil => exact ⟨rfl, rfl⟩
    | cons c rest =>
        have hc := hrest c rfl
        simp [hc]
  rw [List.takeWhile_append_of_pos hrun, List.dropWhile_append_of_pos hrun, hstop.1, hstop.2]
  simp

/-- A word is read up to the first character that is no letter. -/
theorem tokensFrom?_word
    {c : Char} {letters : List Char} {token : Token}
    (hspace : isSpace c = false)
    (hquote : c ≠ '"')
    (hpunct : punctuation? c = none)
    (hletters : ∀ d ∈ c :: letters, isLetter d = true)
    (hword : wordToken? (c :: letters) = some token)
    {rest : List Char}
    (hrest : EndsRun rest)
    (done : List Token) :
    tokensFrom? done (c :: letters ++ rest) = tokensFrom? (token :: done) rest := by
  obtain ⟨htake, hdrop⟩ := takeWhile_run
    (fun d hd => hletters d (List.mem_cons_of_mem c hd)) fun d hd => (hrest d hd).1
  rw [List.cons_append, tokensFrom?, if_neg (by simp [hspace]), if_neg hquote, hpunct]
  simp only [hletters c (by simp), if_true, htake, hdrop, hword]

/-- The digits of a positive number come before those already collected, the first of them not
being zero. -/
theorem digitsOnto_eq_append
    {n : Nat}
    (hn : n ≠ 0)
    (after : List Char) :
    ∃ first front,
      Decimal.digitsOnto n after = Decimal.digit first :: (front ++ after) ∧
      0 < first ∧ first < 10 ∧
      ∀ c ∈ front, ∃ value < 10, c = Decimal.digit value := by
  induction n using Nat.strongRecOn generalizing after with
  | _ n ih =>
      rw [Decimal.digitsOnto, if_neg hn]
      by_cases hsmall : n / 10 = 0
      · refine ⟨n % 10, [], ?_, by omega, by omega, by simp⟩
        rw [hsmall, Decimal.digitsOnto, if_pos rfl]
        rfl
      · obtain ⟨first, front, heq, hpos, hlt, hfront⟩ :=
          ih (n / 10) (by omega) hsmall (Decimal.digit (n % 10) :: after)
        refine ⟨first, front ++ [Decimal.digit (n % 10)], ?_, hpos, hlt, ?_⟩
        · rw [heq]
          simp
        · intro c hc
          rcases List.mem_append.mp hc with hc | hc
          · exact hfront c hc
          · exact ⟨n % 10, by omega, by simpa using hc⟩

/-- The digits of a number: the first is zero only if it stands alone. -/
theorem digits_eq_cons
    (n : Nat) :
    ∃ first rest,
      Decimal.digits n = Decimal.digit first :: rest ∧
      first < 10 ∧
      (first = 0 → rest = []) ∧
      ∀ c ∈ rest, ∃ value < 10, c = Decimal.digit value := by
  unfold Decimal.digits
  split
  · exact ⟨0, [], rfl, by decide, fun _ => rfl, by simp⟩
  · next hn =>
    obtain ⟨first, front, heq, hpos, hlt, hfront⟩ := digitsOnto_eq_append hn []
    refine ⟨first, front, by simpa using heq, hlt, ?_, hfront⟩
    intro hzero
    omega

theorem digit_facts
    {value : Nat}
    (h : value < 10) :
    isSpace (Decimal.digit value) = false ∧ Decimal.digit value ≠ '"' ∧
      punctuation? (Decimal.digit value) = none ∧ isLetter (Decimal.digit value) = false ∧
      Numeral.isChar (Decimal.digit value) = true ∧
      Decimal.isDigit (Decimal.digit value) = true ∧
      (Decimal.digit value = '0' → value = 0) ∧ Decimal.digit value ≠ '-' := by
  have all : ∀ v < 10, isSpace (Decimal.digit v) = false ∧ Decimal.digit v ≠ '"' ∧
      punctuation? (Decimal.digit v) = none ∧ isLetter (Decimal.digit v) = false ∧
      Numeral.isChar (Decimal.digit v) = true ∧ Decimal.isDigit (Decimal.digit v) = true ∧
      (Decimal.digit v = '0' → v = 0) ∧ Decimal.digit v ≠ '-' := by decide
  exact all value h

/-- The plain spelling of a natural number is read as that spelling. -/
theorem ofChars?_digits
    (n : Nat) :
    Numeral.ofChars? (Decimal.digits n) = some (.ofNat n) := by
  obtain ⟨first, rest, heq, hlt, hzero, hrest⟩ := digits_eq_cons n
  obtain ⟨-, -, -, -, -, hdigit, hnonzero, hminus⟩ := digit_facts hlt
  have hdigits : ∀ c ∈ rest, Decimal.isDigit c = true := by
    intro c hc
    obtain ⟨value, hvalue, rfl⟩ := hrest c hc
    exact (digit_facts hvalue).2.2.2.2.2.1
  have hall : ∀ c ∈ Decimal.digit first :: rest, Decimal.isDigit c = true := by
    simpa [hdigit] using hdigits
  have hwhole := @takeWhile_run Decimal.isDigit _ [] hall (by simp)
  rw [List.append_nil] at hwhole
  have hhead : ¬ (Decimal.digit first :: rest = []
      ∨ ((Decimal.digit first :: rest).head? = some '0'
        ∧ (Decimal.digit first :: rest).length ≠ 1)) := by
    rintro (h | ⟨h, hlength⟩)
    · cases h
    · have hfirst := hnonzero (by simpa using h)
      exact hlength (by simp [hzero hfirst])
  have hsign : Numeral.ofChars? (Decimal.digit first :: rest)
      = Numeral.unsigned? false (Decimal.digit first :: rest) := by
    unfold Numeral.ofChars?
    split
    · next h => exact absurd (List.cons.inj h).1 hminus
    · rfl
  rw [heq, hsign, Numeral.unsigned?, hwhole.1, hwhole.2, if_neg hhead]
  simp [Numeral.tail?, Numeral.ofNat, heq]

theorem tokensFrom?_number
    (n : Nat) {rest : List Char}
    (hrest : EndsRun rest)
    (done : List Token) :
    tokensFrom? done ((Numeral.ofNat n).toChars ++ rest)
      = tokensFrom? (.number (.ofNat n) :: done) rest := by
  obtain ⟨first, digits, heq, hlt, -, hdigits⟩ := digits_eq_cons n
  obtain ⟨hspace, hquote, hpunct, hletter, -⟩ := digit_facts hlt
  have hchars : (Numeral.ofNat n).toChars = Decimal.digit first :: digits := by
    simp [Numeral.toChars, Numeral.ofNat, heq]
  have hrun : ∀ c ∈ digits, Numeral.isChar c = true := by
    intro c hc
    obtain ⟨value, hvalue, rfl⟩ := hdigits c hc
    exact (digit_facts hvalue).2.2.2.2.1
  obtain ⟨htake, hdrop⟩ := takeWhile_run hrun fun c hc => (hrest c hc).2
  rw [hchars, List.cons_append, tokensFrom?, if_neg (by simp [hspace]), if_neg hquote, hpunct]
  simp only [hletter, Bool.false_eq_true, if_false, htake, hdrop]
  rw [← heq, ofChars?_digits]

/-- Every plain token is read from its characters, if it is ended by what follows. -/
theorem tokensFrom?_chars
    {token : Token}
    (hplain : token.IsPlain)
    {rest : List Char}
    (hrest : token.isOpenEnded = true → EndsRun rest)
    (done : List Token) :
    tokensFrom? done (token.chars ++ rest) = tokensFrom? (token :: done) rest := by
  cases token with
  | openArray => exact tokensFrom?_punctuation (by decide) (by decide) rfl done rest
  | closeArray => exact tokensFrom?_punctuation (by decide) (by decide) rfl done rest
  | openObject => exact tokensFrom?_punctuation (by decide) (by decide) rfl done rest
  | closeObject => exact tokensFrom?_punctuation (by decide) (by decide) rfl done rest
  | comma => exact tokensFrom?_punctuation (by decide) (by decide) rfl done rest
  | colon => exact tokensFrom?_punctuation (by decide) (by decide) rfl done rest
  | null =>
      exact tokensFrom?_word (by decide) (by decide) rfl (List.all_eq_true.mp rfl) rfl
        (hrest rfl) done
  | bool value =>
      cases value <;>
        exact tokensFrom?_word (by decide) (by decide) rfl (List.all_eq_true.mp rfl) rfl
          (hrest rfl) done
  | number numeral =>
      obtain ⟨n, rfl⟩ := hplain
      exact tokensFrom?_number n (hrest rfl) done
  | text literal =>
      obtain ⟨string, rfl⟩ := Option.isSome_iff_exists.mp hplain
      exact tokensFrom?_literal string done rest

/-- No token without an end of its own stands before another one. -/
def Separated (tokens : List Token) : Prop :=
  tokens.IsChain fun a b => a.isOpenEnded = true → b.isOpenEnded = false

/-- A token with an end of its own keeps apart what stands on its two sides. -/
theorem Separated.join
    {before after : List Token} {token : Token}
    (htoken : token.isOpenEnded = false)
    (hbefore : Separated before)
    (hafter : Separated after) :
    Separated (before ++ token :: after) := by
  have hright : Separated (token :: after) := by
    refine List.IsChain.cons hafter ?_
    intro next _ hopen
    rw [htoken] at hopen
    cases hopen
  refine List.isChain_append.mpr ⟨hbefore, hright, ?_⟩
  intro a _ b hb _
  obtain rfl : token = b := by simpa using hb
  exact htoken

/-- The characters with which tokens that have an end of their own begin, line ends included. -/
def boundaries : List Char :=
  ['[', ']', '\x7b', '\x7d', ',', ':', '"', '\n']

theorem endsRun_of_boundary
    {c : Char}
    (h : c ∈ boundaries)
    (rest : List Char) :
    EndsRun (c :: rest) := by
  have hall : boundaries.all (fun d => !isLetter d && !Numeral.isChar d) = true := by decide
  intro d hd
  obtain rfl : c = d := by simpa using hd
  simpa using List.all_eq_true.mp hall c h

theorem literalChars_eq_cons
    (literal : Literal) :
    ∃ rest, literalChars literal = '"' :: rest := by
  cases literal with
  | none => exact ⟨_, rfl⟩
  | some string => exact ⟨_, rfl⟩

theorem chars_eq_cons
    {token : Token}
    (h : token.isOpenEnded = false) :
    ∃ c ∈ boundaries, ∃ rest, token.chars = c :: rest := by
  cases token with
  | null => cases h
  | bool value => cases h
  | number numeral => cases h
  | text literal =>
      obtain ⟨rest, hrest⟩ := literalChars_eq_cons literal
      exact ⟨'"', by decide, rest, hrest⟩
  | _ => exact ⟨_, by decide, _, rfl⟩

theorem endsRun_compactChars
    {token : Token} {tokens : List Token}
    (hopen : token.isOpenEnded = true)
    (h : Separated (token :: tokens)) :
    EndsRun (compactChars tokens) := by
  cases tokens with
  | nil =>
      simp [EndsRun, compactChars]
  | cons next tokens =>
      obtain ⟨c, hc, rest, hchars⟩ := chars_eq_cons (List.IsChain.rel h hopen)
      rw [compactChars, List.flatMap_cons, hchars, List.cons_append]
      exact endsRun_of_boundary hc _

theorem tokensFrom?_compactChars
    {tokens : List Token}
    (hplain : ∀ token ∈ tokens, token.IsPlain)
    (hsep : Separated tokens)
    (done : List Token) :
    tokensFrom? done (compactChars tokens) = some (done.reverse ++ tokens) := by
  induction tokens generalizing done with
  | nil =>
      simp [compactChars, tokensFrom?]
  | cons token tokens ih =>
      have hstep := tokensFrom?_chars (hplain token (by simp))
        (fun hopen => endsRun_compactChars hopen hsep) done
      rw [compactChars, List.flatMap_cons, ← compactChars, hstep,
        ih (fun t ht => hplain t (by simp [ht])) (List.IsChain.tail hsep)]
      simp

/-- Plain, separated tokens are read back when they stand side by side. -/
theorem tokens?_compactChars
    {tokens : List Token}
    (hplain : ∀ token ∈ tokens, token.IsPlain)
    (hsep : Separated tokens) :
    tokens? (compactChars tokens) = some tokens := by
  rw [tokens?, tokensFrom?_compactChars hplain hsep]
  rfl

theorem tokensFrom?_lineEnd
    (depth : Nat) (done : List Token) (rest : List Char) :
    tokensFrom? done (lineEnd depth ++ rest) = tokensFrom? done rest := by
  refine tokensFrom?_spaces ?_ done rest
  intro c hc
  rcases List.mem_cons.mp hc with rfl | hc
  · decide
  · rw [List.eq_of_mem_replicate hc]
    decide

theorem endsRun_prettyChars
    {token : Token} {tokens : List Token}
    (hopen : token.isOpenEnded = true)
    (h : Separated (token :: tokens))
    (depth : Nat) :
    EndsRun (prettyChars depth tokens) := by
  cases tokens with
  | nil =>
      simp [EndsRun, prettyChars]
  | cons next tokens =>
      have hnext : next.isOpenEnded = false := List.IsChain.rel h hopen
      unfold prettyChars
      split
      case h_1 heq => cases heq
      case h_10 heq =>
        obtain ⟨rfl, rfl⟩ := List.cons.inj heq
        obtain ⟨c, hc, rest, hchars⟩ := chars_eq_cons hnext
        rw [hchars, List.cons_append]
        exact endsRun_of_boundary hc _
      all_goals exact endsRun_of_boundary (by decide) _

/-- A token of one character that ends itself is read whatever follows. -/
theorem tokensFrom?_single
    (token : Token) {c : Char}
    (hchars : token.chars = [c])
    (hplain : token.IsPlain)
    (hended : token.isOpenEnded = false)
    (done : List Token) (rest : List Char) :
    tokensFrom? done (c :: rest) = tokensFrom? (token :: done) rest := by
  have hopen : token.isOpenEnded = true → EndsRun rest := by
    intro h
    rw [hended] at h
    cases h
  have hread := tokensFrom?_chars hplain hopen done
  rwa [hchars] at hread

theorem tokensFrom?_prettyChars
    {tokens : List Token}
    (hplain : ∀ token ∈ tokens, token.IsPlain)
    (hsep : Separated tokens)
    (depth : Nat) (done : List Token) :
    tokensFrom? done (prettyChars depth tokens) = some (done.reverse ++ tokens) := by
  have tail {token : Token} {rest : List Token} (h : ∀ t ∈ token :: rest, t.IsPlain) :
      ∀ t ∈ rest, t.IsPlain := fun t ht => h t (by simp [ht])
  fun_induction prettyChars depth tokens generalizing done with
  | case1 =>
      simp [tokensFrom?]
  | case2 depth rest ih =>
      rw [tokensFrom?_single .openArray rfl trivial rfl,
        tokensFrom?_single .closeArray rfl trivial rfl,
        ih (tail (tail hplain)) hsep.tail.tail]
      simp
  | case3 depth rest ih =>
      rw [tokensFrom?_single .openObject rfl trivial rfl,
        tokensFrom?_single .closeObject rfl trivial rfl,
        ih (tail (tail hplain)) hsep.tail.tail]
      simp
  | case4 depth rest hne ih =>
      rw [tokensFrom?_single .openArray rfl trivial rfl, tokensFrom?_lineEnd,
        ih (tail hplain) hsep.tail]
      simp
  | case5 depth rest hne ih =>
      rw [tokensFrom?_single .openObject rfl trivial rfl, tokensFrom?_lineEnd,
        ih (tail hplain) hsep.tail]
      simp
  | case6 depth rest ih =>
      rw [tokensFrom?_lineEnd, tokensFrom?_single .closeArray rfl trivial rfl,
        ih (tail hplain) hsep.tail]
      simp
  | case7 depth rest ih =>
      rw [tokensFrom?_lineEnd, tokensFrom?_single .closeObject rfl trivial rfl,
        ih (tail hplain) hsep.tail]
      simp
  | case8 depth rest ih =>
      rw [tokensFrom?_single .comma rfl trivial rfl, tokensFrom?_lineEnd,
        ih (tail hplain) hsep.tail]
      simp
  | case9 depth rest ih =>
      have hspace : isSpace ' ' = true := by decide
      rw [tokensFrom?_single .colon rfl trivial rfl, tokensFrom?_space hspace,
        ih (tail hplain) hsep.tail]
      simp
  | case10 depth token rest _ _ _ _ _ _ _ _ ih =>
      rw [tokensFrom?_chars (hplain token (by simp))
          (fun hopen => endsRun_prettyChars hopen hsep depth),
        ih (tail hplain) hsep.tail]
      simp

/-- Plain, separated tokens are read back when each stands on a line of its own. -/
theorem tokens?_prettyChars
    {tokens : List Token}
    (hplain : ∀ token ∈ tokens, token.IsPlain)
    (hsep : Separated tokens)
    (depth : Nat) :
    tokens? (prettyChars depth tokens) = some tokens := by
  rw [tokens?, tokensFrom?_prettyChars hplain hsep]
  rfl

end Json
end WorkloadIdentity
