import Mathlib.Data.List.TakeWhile
import WorkloadIdentity.Url.Address

/-!
# How secure web addresses are read

A text that begins with the scheme of secure web addresses is read past any number of slashes to an
authority.  Only the authority decides whether there is an address at all; query and fragment are
those of what stands behind it.

* `Url.Splits`: the parts of such a text.
* `Url.exists_splits`: a text that is read as an address has these parts.
* `Url.Splits.parse?_eq`: the address of the parts.
-/

namespace WorkloadIdentity
namespace Url

/-- The character ends the authority of a web address. -/
def endsAuthority (c : Char) : Bool :=
  c == '/' || c == '?' || c == '#' || c == '\\'

/-- What comes before a mark, and the mark with what comes after it. -/
theorem takeWhile_dropWhile_append
    {α : Type} {p : α → Bool} {before after : List α}
    (hbefore : ∀ item ∈ before, p item = true)
    (hafter : ∀ item ∈ after.head?, p item = false) :
    (before ++ after).takeWhile p = before ∧ (before ++ after).dropWhile p = after := by
  rw [List.takeWhile_append_of_pos hbefore, List.dropWhile_append_of_pos hbefore]
  cases after with
  | nil => simp
  | cons item after =>
      have hitem : p item = false := hafter item rfl
      simp [hitem]

/-- Every list has a part in front of the first mark, which may be empty. -/
theorem exists_span
    {α : Type} (p : α → Bool) (items : List α) :
    ∃ before after, items = before ++ after ∧
      (∀ item ∈ before, p item = true) ∧ ∀ item ∈ after.head?, p item = false := by
  refine ⟨items.takeWhile p, items.dropWhile p, List.takeWhile_append_dropWhile.symm,
    fun item => List.mem_takeWhile_imp, ?_⟩
  intro item hitem
  have hfirst := List.head?_dropWhile_not p items
  rw [hitem] at hfirst
  exact hfirst

/-- A text without a mark is all before it. -/
theorem tail?_dropWhile_eq_none_iff
    {mark : Char} {chars : List Char} :
    (chars.dropWhile (· ≠ mark)).tail? = none ↔ mark ∉ chars := by
  have htail (l : List Char) : l.tail? = none ↔ l = [] := by cases l <;> simp
  rw [htail, List.dropWhile_eq_nil_iff]
  constructor
  · intro h hmem
    simpa using h mark hmem
  · rintro h c hc
    simpa using ne_of_mem_of_not_mem hc h

/-- There is neither query nor fragment exactly if neither of their marks is there. -/
theorem queryAndFragment_eq_none_iff
    {chars : List Char} :
    (queryAndFragment chars).1 = none ∧ (queryAndFragment chars).2 = none ↔
      '?' ∉ chars ∧ '#' ∉ chars := by
  simp only [queryAndFragment, Option.map_eq_none_iff, tail?_dropWhile_eq_none_iff]
  constructor
  · rintro ⟨hquery, hfragment⟩
    refine ⟨?_, hfragment⟩
    rwa [List.takeWhile_eq_self_iff.mpr] at hquery
    intro c hc
    simpa using ne_of_mem_of_not_mem hc hfragment
  · rintro ⟨hquery, hfragment⟩
    exact ⟨fun hmem => hquery (List.takeWhile_subset _ hmem), hfragment⟩

/-- The authority without the user that the last sign ends. -/
def withoutUser (authority : List Char) : List Char :=
  (authority.reverse.takeWhile (· ≠ '@')).reverse

/-- A web address has a host. -/
theorem hostBeforePort?_web
    {chars : List Char} {host : Option Host}
    (h : hostBeforePort? .web chars = some host) :
    chars ≠ [] ∧ host ≠ none := by
  unfold hostBeforePort? at h
  by_cases hname : chars.take (hostLength false chars) = []
  · simp only [hname, if_true, true_or, reduceCtorEq] at h
  · simp only [hname, if_false, if_true] at h
    split at h
    · obtain ⟨found, -, rfl⟩ := Option.map_eq_some_iff.mp h
      refine ⟨?_, Option.some_ne_none found⟩
      rintro rfl
      exact hname List.take_nil
    · cases h

/-- The address that begins with an authority. -/
theorem withAuthority?_web
    {authority behind : List Char}
    (hinside : ∀ c ∈ authority, endsAuthority c = false)
    (hbehind : ∀ c ∈ behind.head?, endsAuthority c = true)
    (scheme : String) :
    withAuthority? scheme .web (authority ++ behind)
      = (hostBeforePort? .web (withoutUser authority)).map fun host =>
          ⟨scheme, host, (queryAndFragment behind).1, (queryAndFragment behind).2⟩ := by
  have hparts := @takeWhile_dropWhile_append _ (fun c => !endsAuthority c) authority behind
    (by simpa using hinside) (by simpa using hbehind)
  simp only [endsAuthority] at hparts
  simp only [withAuthority?, beq_self_eq_true, Bool.true_and, hparts.1, hparts.2]
  rw [← withoutUser]
  cases hfound : hostBeforePort? .web (withoutUser authority) with
  | none =>
      split <;> rfl
  | some host =>
      obtain ⟨hplace, hhost⟩ := hostBeforePort?_web hfound
      simp [hplace, hhost]

/-- The parts of a text that begins with the scheme of secure web addresses: the slashes after it,
the authority, and what is behind the authority. -/
structure Splits
    (text : String)
    (slashes : Nat)
    (authority behind : List Char) : Prop where
  spelled : text.toList = "https:".toList ++ (List.replicate slashes '/' ++ (authority ++ behind))
  nonempty : authority ≠ []
  inside : ∀ c ∈ authority, endsAuthority c = false
  behind : ∀ c ∈ behind.head?, endsAuthority c = true

variable {text : String} {slashes : Nat} {authority behind : List Char}

/-- Every character of a text without blanks and controls is looked at. -/
theorem significant_eq
    (h : ∀ c ∈ text.toList, 0x20 < c.toNat) :
    significant text = text.toList := by
  have hdrop {l : List Char} (hl : ∀ c ∈ l, 0x20 < c.toNat) :
      l.dropWhile (fun c => decide (c.toNat ≤ 0x20)) = l := by
    rw [List.dropWhile_eq_self_iff]
    intro hlength
    simpa using hl l[0] (List.getElem_mem hlength)
  have hreverse : ∀ c ∈ text.toList.reverse, 0x20 < c.toNat := by simpa using h
  rw [significant]
  simp only [hdrop h, hdrop hreverse, List.reverse_reverse, List.filter_eq_self]
  intro c hc
  have hlt := h c hc
  simp only [Bool.not_eq_true', Bool.or_eq_false_iff, beq_eq_false_iff_ne]
  refine ⟨⟨?_, ?_⟩, ?_⟩ <;>
    · rintro rfl
      exact absurd hlt (by decide)

/-- A text with the scheme is read from the first character on that is no slash. -/
theorem parse?_https
    {rest : List Char}
    (htext : text.toList = "https:".toList ++ rest)
    (h : ∀ c ∈ text.toList, 0x20 < c.toNat) :
    parse? text = withAuthority? "https" .web (rest.dropWhile isSlash) := by
  have hscheme : scheme? ("https:".toList ++ rest) = some ("https", rest) := rfl
  rw [parse?, significant_eq h, htext, hscheme]
  rfl

theorem isSlash_of_endsAuthority
    {c : Char}
    (h : endsAuthority c = false) :
    isSlash c = false := by
  simp only [endsAuthority, Bool.or_eq_false_iff] at h
  simp only [isSlash, Bool.or_eq_false_iff]
  exact ⟨h.1.1.1, h.2⟩

/-- The address that the parts of a text make. -/
theorem Splits.parse?_eq
    (h : Splits text slashes authority behind)
    (htext : ∀ c ∈ text.toList, 0x20 < c.toNat) :
    parse? text = (hostBeforePort? .web (withoutUser authority)).map fun host =>
      ⟨"https", host, (queryAndFragment behind).1, (queryAndFragment behind).2⟩ := by
  have hslashes : ∀ c ∈ List.replicate slashes '/', isSlash c = true := by
    intro c hc
    rw [List.eq_of_mem_replicate hc]
    rfl
  have hfirst : ∀ c ∈ (authority ++ behind).head?, isSlash c = false := by
    intro c hc
    obtain ⟨first, more, rfl⟩ := List.exists_cons_of_ne_nil h.nonempty
    cases hc
    exact isSlash_of_endsAuthority (h.inside _ List.mem_cons_self)
  rw [parse?_https h.spelled htext, (takeWhile_dropWhile_append hslashes hfirst).2,
    withAuthority?_web h.inside h.behind]

/-- Without backslashes, the slashes that are read past are plain ones. -/
theorem exists_slashes
    {chars : List Char}
    (h : '\\' ∉ chars) :
    ∃ slashes, chars = List.replicate slashes '/' ++ chars.dropWhile isSlash := by
  have hslashes : chars.takeWhile isSlash
      = List.replicate (chars.takeWhile isSlash).length '/' := by
    refine List.eq_replicate_of_mem fun c hc => ?_
    have hne : c ≠ '\\' := ne_of_mem_of_not_mem (List.takeWhile_subset _ hc) h
    have hslash : isSlash c = true := List.mem_takeWhile_imp hc
    simpa [isSlash, hne] using hslash
  exact ⟨(chars.takeWhile isSlash).length, by rw [← hslashes, List.takeWhile_append_dropWhile]⟩

/-- A text that is read as a secure web address has the parts of one, unless it has backslashes in
place of slashes. -/
theorem exists_splits
    {rest : List Char}
    (hspelled : text.toList = "https:".toList ++ rest)
    (htext : ∀ c ∈ text.toList, 0x20 < c.toNat)
    (hslash : '\\' ∉ rest)
    (hparse : (parse? text).isSome = true) :
    ∃ slashes authority behind, Splits text slashes authority behind := by
  obtain ⟨slashes, hrest⟩ := exists_slashes hslash
  obtain ⟨authority, behind, hbody, hinside, hbehind⟩ :=
    exists_span (fun c => !endsAuthority c) (rest.dropWhile isSlash)
  simp only [Bool.not_eq_true', Bool.not_eq_false'] at hinside hbehind
  refine ⟨slashes, authority, behind, by rw [← hbody, ← hrest, hspelled], ?_, hinside, hbehind⟩
  rintro rfl
  -- an empty authority has no host
  rw [parse?_https hspelled htext, hbody, withAuthority?_web hinside hbehind] at hparse
  cases hparse

end Url
end WorkloadIdentity
