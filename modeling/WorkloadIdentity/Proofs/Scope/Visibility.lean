import WorkloadIdentity.Store.Scope

/-!
# Which scope is innermost

The scopes that enclose a build's scope enclose each other.  A build is offered the issuers of all
of them, the innermost first, so the first that satisfies a condition lies inside all others that
do.

* `encloses_of_size_le`: of two scopes around a third, the shorter one is around the longer one.
* `find?_visible`: the first visible issuer with a property is the innermost one.
-/

namespace WorkloadIdentity
namespace Scope

/-- A URI is another or lies below it. -/
def Below
    (outer inner : String) : Prop :=
  inner = outer ∨ ∃ rest, inner = outer ++ "/" ++ rest

theorem encloses_iff
    {outer inner : String} :
    encloses outer inner = true ↔ outer = "" ∨ Below outer inner := by
  simp only [encloses, Below, Bool.or_eq_true, beq_iff_eq, List.isPrefixOf_iff_prefix, or_assoc]
  have hstarts : (outer ++ "/").toList <+: inner.toList ↔
      ∃ rest, inner = outer ++ "/" ++ rest := by
    constructor
    · rintro ⟨rest, hrest⟩
      refine ⟨String.ofList rest, ?_⟩
      rw [← String.toList_inj, String.toList_append, String.toList_ofList, hrest]
    · rintro ⟨rest, rfl⟩
      exact ⟨rest.toList, String.toList_append.symm⟩
  rw [hstarts]

theorem encloses_self
    (uri : String) :
    encloses uri uri = true :=
  encloses_iff.mpr (Or.inr (Or.inl rfl))

/-- What lies below a scope has a longer URI. -/
theorem Below.eq_of_size_le
    {outer inner : String}
    (h : Below outer inner)
    (hsize : inner.utf8ByteSize ≤ outer.utf8ByteSize) :
    inner = outer := by
  rcases h with heq | ⟨rest, rfl⟩
  · exact heq
  · have hslash : "/".utf8ByteSize = 1 := by decide
    simp only [String.utf8ByteSize_append] at hsize
    omega

/-- If one path goes on as far as another and its slash, it is the other path or lies below it. -/
theorem below_of_append_slash
    {outer inner : String} {rest : List Char}
    (h : outer.toList ++ '/' :: rest = inner.toList ++ ['/']) :
    Below outer inner := by
  rcases List.eq_nil_or_concat rest with rfl | ⟨before, last, rfl⟩
  · left
    rw [← String.toList_inj]
    exact (List.append_cancel_right h).symm
  · right
    have hlist : (outer.toList ++ '/' :: before) ++ [last] = inner.toList ++ ['/'] := by
      simpa using h
    obtain ⟨hinner, -⟩ := List.append_inj' hlist rfl
    refine ⟨String.ofList before, ?_⟩
    rw [← String.toList_inj, ← hinner]
    simp

/-- Of two scopes around a third, the one with the shorter URI is around the other. -/
theorem encloses_of_size_le
    {a b scope : String}
    (ha : encloses a scope = true)
    (hb : encloses b scope = true)
    (hsize : a.utf8ByteSize ≤ b.utf8ByteSize) :
    encloses a b = true := by
  rw [encloses_iff] at ha hb ⊢
  rcases ha with rfl | ha
  · exact Or.inl rfl
  · rcases hb with rfl | hb
    · left
      simpa using hsize
    · right
      rcases ha with rfl | ⟨restA, hrestA⟩
      · exact Or.inl (hb.eq_of_size_le hsize).symm
      · rcases hb with rfl | ⟨restB, hrestB⟩
        · exact Or.inr ⟨restA, hrestA⟩
        · have hstartsA : (a ++ "/").toList <+: scope.toList :=
            ⟨restA.toList, hrestA ▸ String.toList_append.symm⟩
          have hstartsB : (b ++ "/").toList <+: scope.toList :=
            ⟨restB.toList, hrestB ▸ String.toList_append.symm⟩
          rcases List.prefix_or_prefix_of_prefix hstartsA hstartsB with ⟨rest, h⟩ | ⟨rest, h⟩
          · exact below_of_append_slash (by simpa using h)
          · have hbelow : Below b a := below_of_append_slash (by simpa using h)
            exact Or.inl (hbelow.eq_of_size_le hsize).symm

/-- Issuers are offered from the innermost scope outwards. -/
theorem pairwise_visible
    (issuers : List Issuer) (scope : String) :
    (visible issuers scope).Pairwise fun a b => b.uri.utf8ByteSize ≤ a.uri.utf8ByteSize := by
  have hsorted := @List.pairwise_mergeSort Issuer
    (fun a b => decide (b.uri.utf8ByteSize ≤ a.uri.utf8ByteSize))
    (fun a b c hab hbc => by simp only [decide_eq_true_eq] at *; omega)
    (fun a b => by simp only [Bool.or_eq_true, decide_eq_true_eq]; omega)
    (issuers.filter fun issuer => encloses issuer.uri scope)
  exact hsorted.imp fun h => of_decide_eq_true h

/-- The first visible issuer with a property lies inside all others with it. -/
theorem find?_visible
    {issuers : List Issuer} {scope : String} {p : Issuer → Bool} {found : Issuer}
    (h : (visible issuers scope).find? p = some found) :
    found ∈ issuers ∧
      encloses found.uri scope = true ∧
      p found = true ∧
      ∀ other ∈ issuers, encloses other.uri scope = true → p other = true →
        encloses other.uri found.uri = true := by
  obtain ⟨hp, before, after, hsplit, hbefore⟩ := List.find?_eq_some_iff_append.mp h
  have hfound : found ∈ visible issuers scope := by simp [hsplit]
  obtain ⟨hmem, hencloses⟩ := mem_visible_iff.mp hfound
  refine ⟨hmem, hencloses, hp, ?_⟩
  intro other hother hotherEncloses hotherP
  have hsorted := pairwise_visible issuers scope
  have hvisible := mem_visible_iff.mpr ⟨hother, hotherEncloses⟩
  rw [hsplit] at hvisible hsorted
  rcases List.mem_append.mp hvisible with hearly | hlate
  · have hfails := hbefore other hearly
    rw [hotherP] at hfails
    cases hfails
  · rcases List.mem_cons.mp hlate with rfl | hlater
    · exact encloses_self other.uri
    · have htail := (List.pairwise_append.mp hsorted).2.1
      exact encloses_of_size_le hotherEncloses hencloses
        ((List.pairwise_cons.mp htail).1 other hlater)

end Scope
end WorkloadIdentity
