import Hyperfiction.Proofs.Text.Delimiter
import Hyperfiction.Text.Entity

/-! # Entities read back

    Writing a text with entities and reading it back gives the text again, whatever
    follows it: each character is written as what reading takes as one character, and an
    ampersand that a text holds is itself written as an entity.

    Reading is one pass. `Reads` says it as a relation between what is left to read and
    what is left to show, in which nothing that has been shown is read.
-/

namespace Hyperfiction.Entity

/-! ## Section 1: One character -/

theorem decode_cons_of_ne {c : Char} (h : c ≠ '&') (cs : List Char) :
    decode (c :: cs) = c :: decode cs := by
  rw [decode]
  -- each of the other equations would begin with an ampersand
  all_goals exact fun _ hc _ => h hc

/-- A character that has no entity is written as it is. -/
theorem encodeChar_of_not_mem {c : Char} (h : c ∉ ['&', '<', '>', '\"', '\'']) :
    encodeChar c = [c] := by
  simp only [List.mem_cons, List.not_mem_nil, or_false, not_or] at h
  obtain ⟨hamp, hlt, hgt, hquote, hapos⟩ := h
  rw [encodeChar] <;> assumption

theorem decode_encodeChar_append (c : Char) (rest : List Char) :
    decode (encodeChar c ++ rest) = c :: decode rest := by
  by_cases h : c ∈ ['&', '<', '>', '\"', '\'']
  · simp only [List.mem_cons, List.not_mem_nil, or_false] at h
    rcases h with rfl | rfl | rfl | rfl | rfl <;> simp [encodeChar, decode]
  · -- no entity begins with such a character
    have hne : c ≠ '&' := by
      rintro rfl
      exact h List.mem_cons_self
    rw [encodeChar_of_not_mem h]
    exact decode_cons_of_ne hne rest

theorem length_encodeChar_pos (c : Char) : 0 < (encodeChar c).length := by
  unfold encodeChar
  split <;> simp

/-- Of the special characters only the ampersand is used in writing. -/
theorem not_mem_encodeChar {d : Char} (hd : d ∈ ['<', '>', '\"', '\'']) (c : Char) :
    d ∉ encodeChar c := by
  by_cases h : c ∈ ['&', '<', '>', '\"', '\'']
  · simp only [List.mem_cons, List.not_mem_nil, or_false] at h hd
    rcases h with rfl | rfl | rfl | rfl | rfl
    all_goals rcases hd with rfl | rfl | rfl | rfl <;> decide
  · -- a character without an entity is written as itself, and `d` has one
    rw [encodeChar_of_not_mem h, List.mem_singleton]
    intro heq
    apply h
    rw [← heq]
    exact List.mem_cons_of_mem _ hd

/-! ## Section 2: Texts -/

@[simp] theorem encode_cons (c : Char) (cs : List Char) :
    encode (c :: cs) = encodeChar c ++ encode cs := rfl

/-- A text without special characters is written as it is. -/
theorem encode_eq_self {cs : List Char} (h : ∀ c ∈ cs, c ∉ ['&', '<', '>', '\"', '\'']) :
    encode cs = cs := by
  induction cs with
  | nil => rfl
  | cons c cs ih =>
    rw [encode_cons, encodeChar_of_not_mem (h c List.mem_cons_self),
      ih fun d hd => h d (List.mem_cons_of_mem c hd)]
    rfl

/-- What was written is read back, whatever follows it. -/
theorem decode_encode_append (cs rest : List Char) :
    decode (encode cs ++ rest) = cs ++ decode rest := by
  induction cs with
  | nil => rfl
  | cons c cs ih =>
    rw [encode_cons, List.append_assoc, decode_encodeChar_append, ih]
    rfl

@[simp] theorem decode_encode (cs : List Char) : decode (encode cs) = cs := by
  have h := decode_encode_append cs []
  rwa [List.append_nil, decode, List.append_nil] at h

/-- What is written can stand between quotes and between tags. -/
theorem not_mem_encode {d : Char} (hd : d ∈ ['<', '>', '\"', '\'']) (cs : List Char) :
    d ∉ encode cs := by
  intro h
  obtain ⟨c, -, hc⟩ := List.mem_flatMap.1 h
  exact not_mem_encodeChar hd c hc

theorem quote_not_mem_encode (cs : List Char) : '\"' ∉ encode cs :=
  not_mem_encode (by decide) cs

@[simp] theorem unescape_escape (s : String) : unescape (escape s) = s := by
  unfold unescape
  rw [toList_escape, decode_encode, String.ofList_toList]

/-! ## Section 3: One pass -/

/-- A text is read as another, from left to right. An entity is read as the character that
    it stands for, and a character with which no entity begins as itself. What has been read
    is shown, and is not read again together with what follows. -/
inductive Reads : List Char → List Char → Prop where
  | nothing : Reads [] []
  | entity {c : Char} {cs shown : List Char} : c ∈ ['&', '<', '>', '\"', '\''] →
      Reads cs shown → Reads (encodeChar c ++ cs) (c :: shown)
  | itself {c : Char} {cs shown : List Char} :
      (∀ d ∈ ['&', '<', '>', '\"', '\''], ¬ encodeChar d <+: c :: cs) →
      Reads cs shown → Reads (c :: cs) (c :: shown)

/-- Where no entity begins one character is read. -/
theorem decode_cons_of_no_entity {c : Char} {cs : List Char}
    (h : ∀ d ∈ ['&', '<', '>', '\"', '\''], ¬ encodeChar d <+: c :: cs) :
    decode (c :: cs) = c :: decode cs := by
  rw [decode]
  -- each of the other equations would have one of the five begin here
  · rintro rest rfl rfl
    exact h '&' (by decide) ⟨rest, rfl⟩
  · rintro rest rfl rfl
    exact h '<' (by decide) ⟨rest, rfl⟩
  · rintro rest rfl rfl
    exact h '>' (by decide) ⟨rest, rfl⟩
  · rintro rest rfl rfl
    exact h '\"' (by decide) ⟨rest, rfl⟩
  · rintro rest rfl rfl
    exact h '\'' (by decide) ⟨rest, rfl⟩

theorem Reads.decode_eq {cs shown : List Char} (h : Reads cs shown) : decode cs = shown := by
  induction h with
  | nothing => rfl
  | @entity c cs shown _ _ ih => rw [decode_encodeChar_append, ih]
  | itself hnone _ ih => rw [decode_cons_of_no_entity hnone, ih]

theorem reads_decode (cs : List Char) : Reads cs (decode cs) := by
  induction cs using Text.token_induction
      fun t => ∃ c ∈ ['&', '<', '>', '\"', '\''], t = encodeChar c with
  | nonempty t ht =>
    obtain ⟨c, -, rfl⟩ := ht
    exact List.ne_nil_of_length_pos (length_encodeChar_pos c)
  | nil => exact .nothing
  | token t cs ht ih =>
    obtain ⟨c, hc, rfl⟩ := ht
    rw [decode_encodeChar_append]
    exact .entity hc ih
  | other c cs hnone ih =>
    have hentity : ∀ d ∈ ['&', '<', '>', '\"', '\''], ¬ encodeChar d <+: c :: cs :=
      fun d hd => hnone _ ⟨d, hd, rfl⟩
    rw [decode_cons_of_no_entity hentity]
    exact .itself hentity ih

/-- Every text is read in one way only. -/
theorem reads_iff {cs shown : List Char} : Reads cs shown ↔ decode cs = shown := by
  constructor
  · exact Reads.decode_eq
  · rintro rfl
    exact reads_decode cs

theorem unescape_escape_append (s t : String) : unescape (escape s ++ t) = s ++ unescape t := by
  apply String.toList_inj.1
  rw [toList_unescape, String.toList_append, String.toList_append, toList_escape,
    toList_unescape, decode_encode_append]

/-- **Reading undoes writing, exactly once.** What was written is read back whatever follows
    it, and what follows is read as if it stood alone. So a text is read back as it was, two
    texts are never written alike, and a written text holds none of the special characters
    but the ampersand. And reading is one pass over the text, in which no character that has
    been shown is read as a part of an entity. -/
theorem unescape_undoes_escape :
    (∀ s t : String, unescape (escape s ++ t) = s ++ unescape t) ∧
    (∀ s : String, unescape (escape s) = s) ∧
    Function.Injective escape ∧
    (∀ s : String, ∀ c ∈ ['<', '>', '\"', '\''], c ∉ (escape s).toList) ∧
    ∀ t shown : String, Reads t.toList shown.toList ↔ unescape t = shown := by
  have hback : Function.LeftInverse unescape escape := unescape_escape
  refine ⟨unescape_escape_append, hback, hback.injective, ?_, ?_⟩
  · intro s c hc
    rw [toList_escape]
    exact not_mem_encode hc s.toList
  · intro t shown
    rw [reads_iff, ← toList_unescape, String.toList_inj]

/-- The ampersand that is shown first does not make an entity of what follows it. -/
example : unescape "&amp;lt; &lt;&#39 &amp;#39;" = "&lt; <&#39 &#39;" := by decide

end Hyperfiction.Entity
