import WorkloadIdentity.Administration
import WorkloadIdentity.Proofs.Text.Escapes
import WorkloadIdentity.Proofs.Url.Addresses

/-!
# Issuers that are typed in

The URL of an issuer is looked at twice, as the text that was typed and as the address that this
text is read as.  What decides is the text behind the scheme and the slashes; how many slashes there
are is not looked at, so the authority of an issuer that is taken need not have been typed as one.

* `checkIssuerUrl_exact`: the texts that are taken.
* `Url.Splits.accepted_iff`: what decides about a text with the parts of an address.
* `taken_with_slashes`: what the number of slashes has a part in.
-/

namespace WorkloadIdentity

theorem startsWith_iff_exists
    {text front : String} :
    text.startsWith front = true ↔ ∃ rest, text = front ++ rest := by
  rw [String.startsWith_string_iff]
  constructor
  · rintro ⟨chars, hchars⟩
    exact ⟨String.ofList chars, by simp [← String.toList_inj, hchars]⟩
  · rintro ⟨rest, rfl⟩
    exact ⟨rest.toList, by simp⟩

theorem endsWith_slash_iff
    {text : String} :
    text.endsWith "/" = true ↔ text.toList.getLast? = some '/' := by
  rw [String.endsWith_eq_endsWith_toSlice, String.Slice.endsWith_string_iff, String.copy_toSlice,
    List.getLast?_eq_some_iff]
  exact exists_congr fun chars => eq_comm

/-- A character may stand in a URI if it is outside of ASCII, or graphic and not reserved. -/
theorem isUriChar_iff
    {c : Char} :
    isUriChar c = true ↔ 0x80 ≤ c.toNat ∨ 0x21 ≤ c.toNat ∧ c.toNat ≤ 0x7e ∧ c ∉ reserved := by
  simp [isUriChar, and_assoc]

theorem isUriText_iff
    {text : String} :
    isUriText text = true ↔
      (∀ c ∈ text.toList, isUriChar c = true) ∧ Percent.escapesWhole text.toList = true := by
  rw [isUriText, Bool.and_eq_true, List.all_eq_true]

theorem lt_of_isUriChar
    {c : Char}
    (h : isUriChar c = true) :
    0x20 < c.toNat := by
  rcases isUriChar_iff.mp h with hlarge | ⟨hgraphic, -⟩ <;> omega

theorem ne_backslash_of_isUriChar
    {c : Char}
    (h : isUriChar c = true) :
    c ≠ '\\' := by
  rintro rfl
  exact absurd h (by decide)

/-- Nothing is wrong with a text if no check finds a fault. -/
theorem checkIssuerUrl_eq_none_iff
    {text : String} :
    checkIssuerUrl text = none ↔
      isUriText text = true ∧ (∃ rest, text = "https:" ++ rest) ∧
        (∃ url, Url.parse? text = some url ∧ url.query = none ∧ url.fragment = none) ∧
        text.toList.getLast? ≠ some '/' := by
  rw [← startsWith_iff_exists, ne_eq, ← endsWith_slash_iff]
  unfold checkIssuerUrl
  cases hparse : Url.parse? text with
  | none => simp
  | some url =>
      simp only [ite_eq_iff, reduceCtorEq, and_false, false_or, Bool.not_eq_true', Bool.not_eq_false,
        Option.isSome_iff_ne_none, not_not, Option.some.injEq, exists_eq_left', and_true, and_assoc]

namespace Url

variable {text : String} {slashes : Nat} {authority behind : List Char}

/-- A mark behind the authority stands nowhere else in the text. -/
theorem Splits.mem_iff
    {mark : Char}
    (h : Splits text slashes authority behind)
    (hmark : endsAuthority mark = true)
    (hslash : mark ≠ '/') :
    mark ∈ text.toList ↔ mark ∈ behind := by
  have hscheme : mark ∉ "https:".toList := by
    intro hmem
    have hnone : "https:".toList.all (fun c => !endsAuthority c) = true := by decide
    have hfalse : (!endsAuthority mark) = true := List.all_eq_true.mp hnone mark hmem
    rw [hmark] at hfalse
    cases hfalse
  have hinside : mark ∉ authority := by
    intro hmem
    exact Bool.false_ne_true ((h.inside mark hmem).symm.trans hmark)
  rw [h.spelled]
  simp only [List.mem_append, List.mem_replicate, hscheme, hinside, hslash, and_false, false_or]

/-- Neither query nor fragment are read exactly if there is neither mark in the text. -/
theorem Splits.plain_iff
    {url : Url}
    (h : Splits text slashes authority behind)
    (htext : ∀ c ∈ text.toList, 0x20 < c.toNat)
    (hparse : parse? text = some url) :
    url.query = none ∧ url.fragment = none ↔ '?' ∉ text.toList ∧ '#' ∉ text.toList := by
  rw [h.parse?_eq htext, Option.map_eq_some_iff] at hparse
  obtain ⟨found, -, rfl⟩ := hparse
  rw [h.mem_iff rfl (by decide), h.mem_iff rfl (by decide)]
  exact queryAndFragment_eq_none_iff

end Url

/-- What a text has to be to be taken as the URL of an issuer. -/
structure TakenAsIssuer (text : String) : Prop where
  parses : (Url.parse? text).isSome = true
  /-- The characters are outside of ASCII, or graphic and none of those that are never unescaped. -/
  chars : ∀ c ∈ text.toList, 0x80 ≤ c.toNat ∨ 0x21 ≤ c.toNat ∧ c.toNat ≤ 0x7e ∧
    c ∉ ['"', '<', '>', '\\', '^', '\x60', '\x7b', '|', '\x7d']
  escapes : ∀ before after, text.toList = before ++ '%' :: after → Percent.BeginsWithDigits after
  scheme : ∃ rest, text = "https:" ++ rest
  noQuery : '?' ∉ text.toList
  noFragment : '#' ∉ text.toList
  noSlash : text.toList.getLast? ≠ some '/'

theorem takenAsIssuer_iff_isUriText
    {text : String} :
    TakenAsIssuer text ↔ isUriText text = true ∧ (∃ rest, text = "https:" ++ rest) ∧
      (Url.parse? text).isSome = true ∧ ('?' ∉ text.toList ∧ '#' ∉ text.toList) ∧
      text.toList.getLast? ≠ some '/' := by
  rw [isUriText_iff, Percent.escapesWhole_iff]
  constructor
  · rintro ⟨hparse, hchars, hescapes, hscheme, hquery, hfragment, hslash⟩
    exact ⟨⟨fun c hc => isUriChar_iff.mpr (hchars c hc), hescapes⟩, hscheme, hparse,
      ⟨hquery, hfragment⟩, hslash⟩
  · rintro ⟨⟨hchars, hescapes⟩, hscheme, hparse, ⟨hquery, hfragment⟩, hslash⟩
    exact ⟨hparse, fun c hc => isUriChar_iff.mp (hchars c hc), hescapes, hscheme, hquery,
      hfragment, hslash⟩

/-- A text of a URI's characters that is read as a secure web address has the parts of one. -/
theorem exists_splits_of_isUriText
    {text : String}
    (htext : isUriText text = true)
    (hscheme : ∃ rest, text = "https:" ++ rest)
    (hparse : (Url.parse? text).isSome = true) :
    ∃ slashes authority behind, Url.Splits text slashes authority behind := by
  obtain ⟨hchars, -⟩ := isUriText_iff.mp htext
  obtain ⟨rest, rfl⟩ := hscheme
  refine Url.exists_splits String.toList_append (fun c hc => lt_of_isUriChar (hchars c hc)) ?_
    hparse
  intro hslash
  have hmem : '\\' ∈ ("https:" ++ rest).toList := by simp [hslash]
  exact ne_backslash_of_isUriChar (hchars _ hmem) rfl

/-- The checks find no fault in exactly these texts. -/
theorem checkIssuerUrl_eq_none_iff_taken
    {text : String} :
    checkIssuerUrl text = none ↔ TakenAsIssuer text := by
  rw [checkIssuerUrl_eq_none_iff, takenAsIssuer_iff_isUriText]
  refine and_congr_right fun htext => and_congr_right fun hscheme => ?_
  rw [← and_assoc]
  refine and_congr_left fun _ => ?_
  have hchars := (isUriText_iff.mp htext).1
  have hplain {url : Url} (hparse : Url.parse? text = some url) :
      url.query = none ∧ url.fragment = none ↔ '?' ∉ text.toList ∧ '#' ∉ text.toList := by
    obtain ⟨slashes, authority, behind, hsplits⟩ :=
      exists_splits_of_isUriText htext hscheme (Option.isSome_of_mem hparse)
    exact hsplits.plain_iff (fun c hc => lt_of_isUriChar (hchars c hc)) hparse
  constructor
  · rintro ⟨url, hparse, hnone⟩
    exact ⟨Option.isSome_of_mem hparse, (hplain hparse).mp hnone⟩
  · rintro ⟨hparse, hmarks⟩
    obtain ⟨url, hparse⟩ := Option.isSome_iff_exists.mp hparse
    exact ⟨url, hparse, (hplain hparse).mpr hmarks⟩

theorem lt_of_accepted
    {text : String}
    (h : checkIssuerUrl text = none) :
    ∀ c ∈ text.toList, 0x20 < c.toNat := by
  obtain ⟨htext, -⟩ := checkIssuerUrl_eq_none_iff.mp h
  exact fun c hc => lt_of_isUriChar ((isUriText_iff.mp htext).1 c hc)

/-- A text that is taken has the parts of an address. -/
theorem exists_splits_of_accepted
    {text : String}
    (h : checkIssuerUrl text = none) :
    ∃ slashes authority behind, Url.Splits text slashes authority behind := by
  obtain ⟨htext, hscheme, ⟨url, hparse, -⟩, -⟩ := checkIssuerUrl_eq_none_iff.mp h
  exact exists_splits_of_isUriText htext hscheme (Option.isSome_of_mem hparse)

namespace Url

variable {text : String} {slashes : Nat} {authority behind : List Char}

/-- What is in front of the authority is good in every URI. -/
theorem Splits.isUriText_iff
    (h : Splits text slashes authority behind) :
    isUriText text = true ↔
      (∀ c ∈ authority ++ behind, isUriChar c = true) ∧
        Percent.escapesWhole (authority ++ behind) = true := by
  have hscheme : ∀ c ∈ "https:".toList, isUriChar c = true := List.all_eq_true.mp (by decide)
  rw [WorkloadIdentity.isUriText_iff, h.spelled, Percent.escapesWhole_append (by decide),
    Percent.escapesWhole_append (Percent.escapesWhole_of_not_mem (by simp))]
  refine and_congr_left fun _ => ?_
  constructor
  · intro hall c hc
    exact hall c (List.mem_append_right _ (List.mem_append_right _ hc))
  · intro hrest c hc
    rcases List.mem_append.mp hc with hfront | hc
    · exact hscheme c hfront
    · rcases List.mem_append.mp hc with hslash | hc
      · rw [List.eq_of_mem_replicate hslash]
        rfl
      · exact hrest c hc

theorem Splits.getLast?_eq
    (h : Splits text slashes authority behind) :
    text.toList.getLast? = (authority ++ behind).getLast? := by
  have hne : authority ++ behind ≠ [] := List.append_ne_nil_of_left_ne_nil h.nonempty behind
  rw [h.spelled, ← List.append_assoc, List.getLast?_append, List.getLast?_eq_some_getLast hne,
    Option.some_or]

/-- What decides about a text with the parts of an address.  The number of slashes does not. -/
theorem Splits.accepted_iff
    (h : Splits text slashes authority behind) :
    checkIssuerUrl text = none ↔
      ((∀ c ∈ authority ++ behind, isUriChar c = true) ∧
        Percent.escapesWhole (authority ++ behind) = true) ∧
      (hostBeforePort? .web (withoutUser authority)).isSome = true ∧
      ('?' ∉ behind ∧ '#' ∉ behind) ∧ (authority ++ behind).getLast? ≠ some '/' := by
  have hscheme : ∃ rest, text = "https:" ++ rest := by
    refine ⟨String.ofList (List.replicate slashes '/' ++ (authority ++ behind)), ?_⟩
    simp [← String.toList_inj, h.spelled]
  rw [checkIssuerUrl_eq_none_iff_taken, takenAsIssuer_iff_isUriText, ← h.isUriText_iff,
    ← h.getLast?_eq, h.mem_iff rfl (by decide), h.mem_iff rfl (by decide)]
  refine and_congr_right fun htext => ?_
  have hchars := (WorkloadIdentity.isUriText_iff.mp htext).1
  rw [h.parse?_eq fun c hc => lt_of_isUriChar (hchars c hc), Option.isSome_map]
  exact and_iff_right hscheme

/-- What follows a slash is no part of the authority. -/
theorem Splits.append
    {suffix : String} {more : List Char}
    (h : Splits text slashes authority behind)
    (hsuffix : suffix.toList = '/' :: more) :
    Splits (text ++ suffix) slashes authority (behind ++ suffix.toList) where
  spelled := by simp only [String.toList_append, h.spelled, List.append_assoc]
  nonempty := h.nonempty
  inside := h.inside
  behind := by
    intro c hc
    rw [hsuffix] at hc
    cases behind with
    | nil =>
        cases hc
        rfl
    | cons first rest =>
        cases hc
        exact h.behind _ rfl

end Url

/-- A text that is taken is taken with a plain path behind it. -/
theorem checkIssuerUrl_append
    {text suffix : String} {more : List Char}
    (h : checkIssuerUrl text = none)
    (hsuffix : suffix.toList = '/' :: more)
    (hplain : isUriText suffix = true ∧ '?' ∉ suffix.toList ∧ '#' ∉ suffix.toList)
    (hlast : suffix.toList.getLast? ≠ some '/') :
    checkIssuerUrl (text ++ suffix) = none := by
  obtain ⟨slashes, authority, behind, hsplits⟩ := exists_splits_of_accepted h
  obtain ⟨⟨hchars, hescapes⟩, hhost, ⟨hquery, hfragment⟩, -⟩ := hsplits.accepted_iff.mp h
  obtain ⟨hwhole, hnoQuery, hnoFragment⟩ := hplain
  obtain ⟨hmoreChars, hmoreEscapes⟩ := isUriText_iff.mp hwhole
  have hne : suffix.toList ≠ [] := by simp [hsuffix]
  rw [(hsplits.append hsuffix).accepted_iff, ← List.append_assoc, List.forall_mem_append,
    Percent.escapesWhole_append hescapes, List.mem_append, List.mem_append, not_or, not_or,
    List.getLast?_append, List.getLast?_eq_some_getLast hne, Option.some_or,
    ← List.getLast?_eq_some_getLast hne]
  exact ⟨⟨⟨hchars, hmoreChars⟩, hmoreEscapes⟩, hhost, ⟨⟨hquery, hnoQuery⟩, hfragment, hnoFragment⟩,
    hlast⟩

/-- An issuer is taken exactly if its text is read as an address, holds only what stands unescaped
in a URI and whole escapes, begins with the scheme in lower case, has no mark of a query or a
fragment anywhere and does not end with a slash.  The addresses of both documents that are served
for it are taken too. -/
theorem checkIssuerUrl_exact
    (text : String) :
    (checkIssuerUrl text = none ↔ TakenAsIssuer text) ∧
      (checkIssuerUrl text = none →
        ∀ document : Document, checkIssuerUrl (text ++ document.suffix) = none) := by
  refine ⟨checkIssuerUrl_eq_none_iff_taken, fun htext document => ?_⟩
  cases document with
  | openid => exact checkIssuerUrl_append htext rfl (by decide) (by decide)
  | jwks => exact checkIssuerUrl_append htext rfl (by decide) (by decide)

theorem checkIssuerUrl_exact_local :
    checkIssuerUrl "https://[::1]/ci" = none ∧ TakenAsIssuer "https://[::1]/ci" ∧
      checkIssuerUrl "https://[::1]/ci/jwks" = none := by
  have htext : checkIssuerUrl "https://[::1]/ci" = none := by decide +kernel
  obtain ⟨htaken, hdocuments⟩ := checkIssuerUrl_exact "https://[::1]/ci"
  exact ⟨htext, htaken.mp htext, hdocuments htext .jwks⟩

/-- The text begins with the scheme and two slashes, and something comes before the next slash. -/
def AuthorityTyped
    (text : String) : Prop :=
  ∃ authority rest, text = "https://" ++ authority ++ rest ∧ authority ≠ "" ∧
    '/' ∉ authority.toList ∧ (rest = "" ∨ ∃ more, rest = "/" ++ more)

/-- The scheme, a number of slashes and the rest of an address. -/
def withSlashes
    (slashes : Nat)
    (rest : String) : String :=
  "https:" ++ String.ofList (List.replicate slashes '/') ++ rest

/-- The slashes in front of a text can be counted. -/
theorem replicate_slash_append_inj
    {slashes count : Nat} {chars others : List Char}
    (hchars : ∀ c ∈ chars.head?, c ≠ '/')
    (hothers : ∀ c ∈ others.head?, c ≠ '/')
    (h : List.replicate slashes '/' ++ chars = List.replicate count '/' ++ others) :
    slashes = count ∧ chars = others := by
  have hslash {number : Nat} : ∀ c ∈ List.replicate number '/', (c == '/') = true := by simp
  obtain ⟨htake, hdrop⟩ := @Url.takeWhile_dropWhile_append _ (· == '/') _ chars
    (@hslash slashes) (by simpa using hchars)
  obtain ⟨htakeOther, hdropOther⟩ := @Url.takeWhile_dropWhile_append _ (· == '/') _ others
    (@hslash count) (by simpa using hothers)
  rw [h] at htake hdrop
  refine ⟨?_, hdrop.symm.trans hdropOther⟩
  simpa using congrArg List.length (htake.symm.trans htakeOther)

namespace Url

variable {text : String} {slashes : Nat} {authority behind : List Char}

theorem Splits.head_ne_slash
    (h : Splits text slashes authority behind) :
    ∀ c ∈ (authority ++ behind).head?, c ≠ '/' := by
  obtain ⟨first, more, rfl⟩ := List.exists_cons_of_ne_nil h.nonempty
  rintro c hc rfl
  cases hc
  exact Bool.false_ne_true (h.inside '/' List.mem_cons_self).symm

/-- The authority is as typed exactly if there are two slashes in front of it. -/
theorem Splits.authorityTyped_iff
    (h : Splits text slashes authority behind) :
    AuthorityTyped text ↔ slashes = 2 := by
  constructor
  · rintro ⟨typed, rest, rfl, hne, hslash, -⟩
    have hfirst : ∀ c ∈ (typed.toList ++ rest.toList).head?, c ≠ '/' := by
      obtain ⟨first, more, htyped⟩ :=
        List.exists_cons_of_ne_nil (mt String.toList_eq_nil_iff.mp hne)
      rintro c hc rfl
      rw [htyped] at hc hslash
      cases hc
      exact hslash List.mem_cons_self
    have hspelled : "https:".toList ++ (List.replicate slashes '/' ++ (authority ++ behind))
        = "https:".toList ++ (List.replicate 2 '/' ++ (typed.toList ++ rest.toList)) := by
      rw [← h.spelled]
      simp [List.replicate]
    exact (replicate_slash_append_inj h.head_ne_slash hfirst (List.append_cancel_left hspelled)).1
  · rintro rfl
    obtain ⟨typed, rest, hparts, htyped, hrest⟩ := exists_span (· != '/') (authority ++ behind)
    simp only [bne_iff_ne, bne_eq_false_iff_eq] at htyped hrest
    refine ⟨String.ofList typed, String.ofList rest, ?_, ?_, ?_, ?_⟩
    · simp [← String.toList_inj, h.spelled, hparts, List.replicate]
    · intro hempty
      obtain rfl : typed = [] := by simpa using hempty
      rw [List.nil_append] at hparts
      obtain ⟨first, more, rfl⟩ : ∃ first more, rest = first :: more := by
        rw [← List.ne_nil_iff_exists_cons, ← hparts]
        exact List.append_ne_nil_of_left_ne_nil h.nonempty behind
      exact h.head_ne_slash first (by rw [hparts]; rfl) (hrest first rfl)
    · rw [String.toList_ofList]
      exact fun hslash => htyped '/' hslash rfl
    · cases rest with
      | nil => exact Or.inl rfl
      | cons first more =>
          obtain rfl := hrest first rfl
          exact Or.inr ⟨String.ofList more, by simp⟩

end Url

theorem toList_withSlashes
    (slashes : Nat) (rest : String) :
    (withSlashes slashes rest).toList
      = "https:".toList ++ (List.replicate slashes '/' ++ rest.toList) := by
  simp [withSlashes]

theorem withSlashes_two
    (rest : String) :
    withSlashes 2 rest = "https://" ++ rest := by
  simp [← String.toList_inj, toList_withSlashes, List.replicate]

/-- The rest of an address begins with its authority, whatever the number of slashes. -/
theorem Url.Splits.withSlashes
    {text rest : String} {slashes : Nat} {authority behind : List Char}
    (h : Splits text slashes authority behind)
    (hrest : rest.toList = authority ++ behind)
    (count : Nat) :
    Splits (withSlashes count rest) count authority behind :=
  ⟨by rw [toList_withSlashes, hrest], h.nonempty, h.inside, h.behind⟩

/-- An issuer is taken exactly if it is so with two slashes behind the scheme, whatever the number
of slashes that were typed.  It is read as the same address; it has the authority that was typed
only if two slashes were. -/
theorem taken_with_slashes
    (text : String) :
    checkIssuerUrl text = none ↔
      ∃ slashes rest, text = withSlashes slashes rest ∧
        (∀ more, rest ≠ "/" ++ more) ∧
        checkIssuerUrl ("https://" ++ rest) = none ∧
        AuthorityTyped ("https://" ++ rest) ∧
        Url.parse? text = Url.parse? ("https://" ++ rest) ∧
        (AuthorityTyped text ↔ slashes = 2) := by
  constructor
  · intro htext
    obtain ⟨slashes, authority, behind, hsplits⟩ := exists_splits_of_accepted htext
    have hrest : (String.ofList (authority ++ behind)).toList = authority ++ behind :=
      String.toList_ofList
    have htwo := hsplits.withSlashes hrest 2
    have haccepted := htwo.accepted_iff.mpr (hsplits.accepted_iff.mp htext)
    refine ⟨slashes, String.ofList (authority ++ behind), ?_, ?_, ?_⟩
    · rw [← String.toList_inj, toList_withSlashes, hsplits.spelled, hrest]
    · intro more hmore
      have hfirst := hsplits.head_ne_slash
      rw [← hrest, hmore] at hfirst
      exact hfirst '/' (by simp) rfl
    · rw [← withSlashes_two]
      refine ⟨haccepted, htwo.authorityTyped_iff.mpr rfl, ?_, hsplits.authorityTyped_iff⟩
      rw [hsplits.parse?_eq (lt_of_accepted htext), htwo.parse?_eq (lt_of_accepted haccepted)]
  · rintro ⟨slashes, rest, rfl, hfirst, haccepted, -⟩
    obtain ⟨count, authority, behind, hsplits⟩ := exists_splits_of_accepted haccepted
    have hne : ∀ c ∈ rest.toList.head?, c ≠ '/' := by
      rintro c hc rfl
      obtain ⟨more, hmore⟩ := List.head?_eq_some_iff.mp hc
      exact hfirst (String.ofList more) (by simp [← String.toList_inj, hmore])
    have hspelled := hsplits.spelled
    rw [← withSlashes_two, toList_withSlashes] at hspelled
    have hrest : rest.toList = authority ++ behind :=
      (replicate_slash_append_inj hne hsplits.head_ne_slash (List.append_cancel_left hspelled)).2
    exact (hsplits.withSlashes hrest slashes).accepted_iff.mpr (hsplits.accepted_iff.mp haccepted)

/-- An issuer without slashes is taken. -/
theorem taken_without_slashes :
    checkIssuerUrl "https:[::1]" = none ∧ ¬ AuthorityTyped "https:[::1]" := by
  refine ⟨by decide +kernel, ?_⟩
  rintro ⟨authority, rest, htext, -⟩
  have hchars := congrArg (fun text => text.toList[6]?) htext
  simp at hchars

end WorkloadIdentity
