import WorkloadIdentity.Json.Document
import WorkloadIdentity.Json.Limits
import WorkloadIdentity.Json.Record
import WorkloadIdentity.Proofs.Json.Lexing

/-!
# Documents are read back from their texts

The reader keeps the open containers on a stack.  The tokens of a value, read in any such state,
have the effect of the value itself, so that a document is read back from both of its texts.

* `reads_of_plain`: the tokens of a value complete that value inside whatever containers are open.
* `parse?_compact` and `parse?_pretty`: a plain document is read back.
* `record?_of_parse?`: a text without brackets spells no record.
-/

namespace WorkloadIdentity
namespace Json

/-- A value whose strings have texts and whose numbers are natural numbers in plain spelling. -/
inductive Plain : Json → Prop
  | null : Plain .null
  | bool (value : Bool) : Plain (.bool value)
  | ofNat (n : Nat) : Plain (.ofNat n)
  | ofText (string : String) : Plain (.ofText string)
  | array {items : List Json} :
      (∀ item ∈ items, Plain item) →
      Plain (.array items)
  | object {members : List (Literal × Json)} :
      (∀ member ∈ members, member.1.isSome) →
      (∀ member ∈ members, Plain member.2) →
      Plain (.object members)

/-- Tokens that can be read back wherever they stand. -/
structure Legible (tokens : List Token) : Prop where
  plain : ∀ token ∈ tokens, token.IsPlain
  separated : Separated tokens

theorem Legible.join
    {before after : List Token} {token : Token}
    (hplain : token.IsPlain)
    (htoken : token.isOpenEnded = false)
    (hbefore : Legible before)
    (hafter : Legible after) :
    Legible (before ++ token :: after) := by
  refine ⟨?_, hbefore.separated.join htoken hafter.separated⟩
  intro t ht
  rcases List.mem_append.mp ht with ht | ht
  · exact hbefore.plain t ht
  · rcases List.mem_cons.mp ht with rfl | ht
    · exact hplain
    · exact hafter.plain t ht

theorem Legible.nil :
    Legible [] :=
  ⟨by simp, .nil⟩

theorem Legible.single
    {token : Token}
    (hplain : token.IsPlain) :
    Legible [token] :=
  ⟨by simpa using hplain, .singleton token⟩

/-- A token that ends itself may stand before legible tokens. -/
theorem Legible.cons
    {tokens : List Token} {token : Token}
    (hplain : token.IsPlain)
    (htoken : token.isOpenEnded = false)
    (h : Legible tokens) :
    Legible (token :: tokens) :=
  Legible.nil.join hplain htoken h

theorem itemTokens_cons_cons
    (item next : Json) (items : List Json) :
    itemTokens (item :: next :: items) = item.tokens ++ .comma :: itemTokens (next :: items) := by
  rw [itemTokens]
  simp

theorem memberTokens_cons_cons
    (key : Literal) (value : Json) (next : Literal × Json) (members : List (Literal × Json)) :
    memberTokens ((key, value) :: next :: members)
      = .text key :: .colon :: (value.tokens ++ .comma :: memberTokens (next :: members)) := by
  rw [memberTokens]
  simp

theorem legible_itemTokens
    {items : List Json}
    (h : ∀ item ∈ items, Legible item.tokens) :
    Legible (itemTokens items) := by
  induction items with
  | nil => exact .single trivial
  | cons item items ih =>
      have hitem := h item (by simp)
      have hrest := ih fun next hnext => h next (by simp [hnext])
      cases items with
      | nil => exact hitem.join trivial rfl .nil
      | cons next items => exact hitem.join trivial rfl hrest

theorem legible_memberTokens
    {members : List (Literal × Json)}
    (hkeys : ∀ member ∈ members, member.1.isSome)
    (h : ∀ member ∈ members, Legible member.2.tokens) :
    Legible (memberTokens members) := by
  induction members with
  | nil => exact .single trivial
  | cons member members ih =>
      obtain ⟨key, value⟩ := member
      have hkey : (Token.text key).IsPlain := hkeys (key, value) (by simp)
      have hvalue : Legible value.tokens := h (key, value) (by simp)
      have hrest := ih (fun next hnext => hkeys next (by simp [hnext]))
        fun next hnext => h next (by simp [hnext])
      cases members with
      | nil =>
          have hlast := @Legible.join _ _ .closeObject trivial rfl hvalue .nil
          exact .cons hkey rfl (.cons trivial rfl hlast)
      | cons next members =>
          have hmore := @Legible.join _ _ .comma trivial rfl hvalue hrest
          exact .cons hkey rfl (.cons trivial rfl hmore)

/-- The tokens of a plain value are legible. -/
theorem Plain.legible
    {json : Json}
    (h : json.Plain) :
    Legible json.tokens := by
  induction h with
  | null =>
      simp only [tokens]
      exact .single trivial
  | bool value =>
      simp only [tokens]
      exact .single trivial
  | ofNat n =>
      simp only [Json.ofNat, tokens]
      exact .single ⟨n, rfl⟩
  | ofText string =>
      simp only [Json.ofText, tokens]
      exact .single rfl
  | array _ ih =>
      simp only [tokens]
      exact .cons trivial rfl (legible_itemTokens ih)
  | object hkeys _ ih =>
      simp only [tokens]
      exact .cons trivial rfl (legible_memberTokens hkeys ih)

namespace Progress

theorem run?_cons
    (progress : Progress) (token : Token) (rest : List Token) :
    run? progress (token :: rest) = (step? progress token).bind fun next => run? next rest := by
  simp [run?]

/-- The first token of a value is not the end of a container. -/
theorem tokens_eq_cons
    (json : Json) :
    ∃ first rest, json.tokens = first :: rest ∧ first ≠ .closeArray := by
  cases json <;> exact ⟨_, _, by rw [tokens], by simp⟩

/-- The tokens of a value complete it inside the containers that are open. -/
def Reads (json : Json) : Prop :=
  ∀ frames rest, run? (.value frames) (json.tokens ++ rest) = run? (complete json frames) rest

theorem run?_itemTokens
    {items : List Json}
    (h : ∀ item ∈ items, Reads item)
    (hne : items ≠ [])
    (done : List Json) (frames : List Frame) (rest : List Token) :
    run? (.value (.array done :: frames)) (itemTokens items ++ rest)
      = run? (complete (.array (done.reverse ++ items)) frames) rest := by
  induction items generalizing done with
  | nil => exact absurd rfl hne
  | cons item items ih =>
      have hitem := h item (by simp) (.array done :: frames)
      cases items with
      | nil =>
          rw [itemTokens, List.append_assoc, hitem]
          simp only [complete, List.singleton_append, run?_cons, step?, Option.bind_some]
          simp
      | cons next items =>
          have hrest := ih (fun later hlater => h later (by simp [hlater])) (by simp)
            (item :: done)
          rw [itemTokens_cons_cons, List.append_assoc, hitem]
          simp only [complete, List.cons_append, run?_cons, step?, Option.bind_some, hrest]
          simp

theorem run?_memberTokens
    {members : List (Literal × Json)}
    (h : ∀ member ∈ members, Reads member.2)
    (hne : members ≠ [])
    (done : List (Literal × Json)) (frames : List Frame) (rest : List Token) :
    run? (.key done frames) (memberTokens members ++ rest)
      = run? (complete (.object (done.reverse ++ members)) frames) rest := by
  induction members generalizing done with
  | nil => exact absurd rfl hne
  | cons member members ih =>
      obtain ⟨key, value⟩ := member
      have hvalue := h (key, value) (by simp) (.member done key :: frames)
      cases members with
      | nil =>
          simp only [memberTokens, List.cons_append, run?_cons, step?, Option.bind_some,
            List.append_assoc, hvalue, complete, List.nil_append]
          simp
      | cons next members =>
          have hrest := ih (fun later hlater => h later (by simp [hlater])) (by simp)
            ((key, value) :: done)
          simp only [memberTokens_cons_cons, List.cons_append, run?_cons, step?,
            Option.bind_some, List.append_assoc, hvalue, complete, hrest]
          simp

theorem itemTokens_eq_cons
    (item : Json) (items : List Json) :
    ∃ first rest, itemTokens (item :: items) = first :: rest ∧ first ≠ .closeArray := by
  obtain ⟨first, rest, htokens, hfirst⟩ := tokens_eq_cons item
  cases items with
  | nil => exact ⟨first, rest ++ [.closeArray], by simp [itemTokens, htokens], hfirst⟩
  | cons next items =>
      exact ⟨first, rest ++ .comma :: itemTokens (next :: items), by simp [itemTokens, htokens],
        hfirst⟩

theorem memberTokens_eq_cons
    (member : Literal × Json) (members : List (Literal × Json)) :
    ∃ rest, memberTokens (member :: members) = .text member.1 :: rest := by
  obtain ⟨key, value⟩ := member
  cases members with
  | nil => exact ⟨_, by rw [memberTokens]⟩
  | cons next members => exact ⟨_, memberTokens_cons_cons key value next members⟩

/-- Every plain value is read from its tokens, whatever containers are open around it. -/
theorem reads_of_plain
    {json : Json}
    (h : json.Plain) :
    Reads json := by
  intro frames rest
  induction h generalizing frames rest with
  | null => simp [tokens, run?_cons, step?, begin?]
  | bool value => simp [tokens, run?_cons, step?, begin?]
  | ofNat n => simp [Json.ofNat, tokens, run?_cons, step?, begin?]
  | ofText string => simp [Json.ofText, tokens, run?_cons, step?, begin?]
  | @array items _ ih =>
      simp only [tokens, List.cons_append, run?_cons, step?, begin?, Option.bind_some]
      cases items with
      | nil => simp [itemTokens, run?_cons, step?]
      | cons item items =>
          have hitems := run?_itemTokens ih (by simp) [] frames rest
          obtain ⟨first, more, hfirst, hopen⟩ := itemTokens_eq_cons item items
          rw [hfirst, List.cons_append, run?_cons] at hitems ⊢
          simpa [step?, hopen] using hitems
  | @object members _ _ ih =>
      simp only [tokens, List.cons_append, run?_cons, step?, begin?, Option.bind_some]
      cases members with
      | nil => simp [memberTokens, run?_cons, step?]
      | cons member members =>
          have hmembers := run?_memberTokens ih (by simp) [] frames rest
          obtain ⟨more, hfirst⟩ := memberTokens_eq_cons member members
          rw [hfirst, List.cons_append, run?_cons] at hmembers ⊢
          simpa [step?] using hmembers

end Progress

/-- A plain value is read back from its tokens. -/
theorem ofTokens?_tokens
    {json : Json}
    (h : json.Plain) :
    ofTokens? json.tokens = some json := by
  have hread := Progress.reads_of_plain h [] []
  rw [List.append_nil] at hread
  rw [ofTokens?, hread]
  rfl

/-- A plain document is read back from its compact text. -/
theorem parse?_compact
    {json : Json}
    (h : json.Plain) :
    parse? json.compact = some json := by
  have htokens := tokens?_compactChars h.legible.plain h.legible.separated
  rw [parse?, compact, String.toList_ofList, htokens, Option.bind_some, ofTokens?_tokens h]

/-- A plain document is read back from its text with one member on a line. -/
theorem parse?_pretty
    {json : Json}
    (h : json.Plain) :
    parse? json.pretty = some json := by
  have htokens := tokens?_prettyChars h.legible.plain h.legible.separated 0
  rw [parse?, pretty, String.toList_ofList, htokens, Option.bind_some, ofTokens?_tokens h]

/-- A text is read in the same way where its line ends. -/
theorem parse?_append_newline
    {text : String} {json : Json}
    (h : parse? text = some json) :
    parse? (text ++ "\n") = some json := by
  obtain ⟨tokens, htokens, hjson⟩ := Option.bind_eq_some_iff.mp h
  have hmore : tokens? (text.toList ++ ['\n']) = some tokens :=
    tokensFrom?_append_space (by decide) htokens
  rw [parse?, String.toList_append]
  exact Option.bind_eq_some_iff.mpr ⟨tokens, hmore, hjson⟩

def Token.isOpening : Token → Bool
  | openArray | openObject => true
  | _ => false

def isBracket (c : Char) : Bool :=
  c == '[' || c == '\x7b'

theorem isSuffix_of_literalBody?
    {done units : List Nat} {chars rest : List Char}
    (h : literalBody? done chars = some (units, rest)) :
    rest <:+ chars := by
  fun_induction literalBody? done chars with
  | case1 => cases h
  | case2 =>
      cases h
      exact List.suffix_cons _ _
  | case3 => cases h
  | case4 _ a b c d _ _ _ ih => exact (ih h).trans ⟨['\\', 'u', a, b, c, d], rfl⟩
  | case5 => cases h
  | case6 _ c _ _ _ _ ih => exact (ih h).trans ⟨['\\', c], rfl⟩
  | case7 => cases h
  | case8 _ c _ _ _ _ _ ih => exact (ih h).trans (List.suffix_cons _ _)

theorem isOpening_of_punctuation?
    {c : Char} {token : Token}
    (h : punctuation? c = some token)
    (hc : isBracket c = false) :
    token.isOpening = false := by
  unfold punctuation? at h
  split at h <;> simp_all [isBracket, Token.isOpening]
  all_goals (subst h; rfl)

theorem isOpening_of_wordToken?
    {letters : List Char} {token : Token}
    (h : wordToken? letters = some token) :
    token.isOpening = false := by
  unfold wordToken? at h
  split at h
  · cases h
    rfl
  · split at h
    · cases h
      rfl
    · split at h
      · cases h
        rfl
      · cases h

/-- A text without brackets gives no tokens that open containers. -/
theorem isOpening_of_tokensFrom?
    {done tokens : List Token} {chars : List Char}
    (h : tokensFrom? done chars = some tokens)
    (hchars : ∀ c ∈ chars, isBracket c = false)
    (hdone : ∀ token ∈ done, token.isOpening = false) :
    ∀ token ∈ tokens, token.isOpening = false := by
  fun_induction tokensFrom? done chars with
  | case1 =>
      cases h
      simpa using hdone
  | case2 done c rest _ ih =>
      exact ih h (List.forall_mem_cons.mp hchars).2 hdone
  | case3 => cases h
  | case4 done rest units after hbody _ ih =>
      have hafter := (isSuffix_of_literalBody? hbody).subset
      exact ih h (fun c hc => hchars c (List.mem_cons_of_mem _ (hafter hc)))
        (List.forall_mem_cons.mpr ⟨rfl, hdone⟩)
  | case5 done c rest _ _ token htoken ih =>
      obtain ⟨hc, hrest⟩ := List.forall_mem_cons.mp hchars
      exact ih h hrest (List.forall_mem_cons.mpr ⟨isOpening_of_punctuation? htoken hc, hdone⟩)
  | case6 => cases h
  | case7 done c rest _ _ _ _ token htoken ih =>
      have hrest := (List.forall_mem_cons.mp hchars).2
      exact ih h (fun c hc => hrest c ((List.dropWhile_sublist _).subset hc))
        (List.forall_mem_cons.mpr ⟨isOpening_of_wordToken? htoken, hdone⟩)
  | case8 => cases h
  | case9 done c rest _ _ _ _ numeral _ ih =>
      have hrest := (List.forall_mem_cons.mp hchars).2
      exact ih h (fun c hc => hrest c ((List.dropWhile_sublist _).subset hc))
        (List.forall_mem_cons.mpr ⟨rfl, hdone⟩)

/-- Tokens that open no container spell no container. -/
theorem record?_of_ofTokens?
    {tokens : List Token} {json : Json}
    (h : ofTokens? tokens = some json)
    (htokens : ∀ token ∈ tokens, token.isOpening = false)
    (names : List String) :
    json.record? names = none := by
  cases tokens with
  | nil => cases h
  | cons token tokens =>
      have htoken := htokens token List.mem_cons_self
      unfold ofTokens? at h
      rw [Progress.run?_cons] at h
      cases tokens with
      | nil =>
          cases token <;> cases h <;> rfl
      | cons next tokens =>
          cases token <;> simp [Progress.step?, Progress.begin?, Progress.complete,
            Progress.run?_cons, Token.isOpening] at h htoken

/-- A text without brackets spells no record. -/
theorem record?_of_parse?
    {text : String} {json : Json}
    (h : parse? text = some json)
    (htext : ∀ c ∈ text.toList, isBracket c = false)
    (names : List String) :
    json.record? names = none := by
  obtain ⟨tokens, htokens, hjson⟩ := Option.bind_eq_some_iff.mp h
  exact record?_of_ofTokens? hjson (isOpening_of_tokensFrom? htokens htext (by simp)) names

end Json
end WorkloadIdentity
