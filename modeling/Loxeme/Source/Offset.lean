/-!
# Offsets in a source

An offset is a number of bytes from the start of a source. A character takes one to four bytes in
UTF-8, so not each offset is the edge of a character; the length of each text at the front is.

* `utf8ByteSize_ofList`: the bytes of a string are those of its characters.
* `get?_byteLength`: the character at the offset behind a text.
* `exists_of_get?`: a character is found at no other offset.
* `extract_byteLength`: the text between the offsets behind two texts.
* `isValid_iff`: the edges of characters are the offsets behind the texts at the front.
-/

namespace Loxeme

/-- The number of bytes that a text takes in UTF-8. -/
def byteLength (text : List Char) : Nat :=
  text.foldr (fun c n => c.utf8Size + n) 0

@[simp] theorem byteLength_nil : byteLength [] = 0 := rfl

@[simp] theorem byteLength_cons (c : Char) (text : List Char) :
    byteLength (c :: text) = c.utf8Size + byteLength text := rfl

@[simp] theorem byteLength_append (a b : List Char) :
    byteLength (a ++ b) = byteLength a + byteLength b := by
  induction a with
  | nil => exact (Nat.zero_add _).symm
  | cons c a ih =>
    show c.utf8Size + byteLength (a ++ b) = c.utf8Size + byteLength a + byteLength b
    rw [ih, Nat.add_assoc]

/-- The bytes of a string are those of its characters. -/
theorem utf8ByteSize_ofList (text : List Char) :
    (String.ofList text).utf8ByteSize = byteLength text := by
  induction text with
  | nil => rfl
  | cons c text ih =>
    have hcons : String.ofList (c :: text) = String.singleton c ++ String.ofList text := by
      rw [String.singleton_eq_ofList, ← String.ofList_append]
      rfl
    rw [hcons, String.utf8ByteSize_append, String.utf8ByteSize_singleton, ih]
    rfl

/-! ## Offsets

The look-ups of strings by offset go through the characters from the front, one step for each. -/

section Steps

open String.Pos.Raw

private theorem get?_eq (text : String) (p : String.Pos.Raw) :
    get? text p = utf8GetAux? text.toList 0 p := rfl

private theorem utf8GetAux?_nil (i p : String.Pos.Raw) : utf8GetAux? [] i p = none := rfl

private theorem utf8GetAux?_cons (c : Char) (text : List Char) (i p : String.Pos.Raw) :
    utf8GetAux? (c :: text) i p = if i = p then some c else utf8GetAux? text (i + c) p := rfl

private theorem extract_eq (text : String) (b e : String.Pos.Raw) :
    extract text b e =
      if b.byteIdx ≥ e.byteIdx then "" else String.ofList (extract.go₁ text.toList 0 b e) := rfl

private theorem go₁_nil (i b e : String.Pos.Raw) : extract.go₁ [] i b e = [] := rfl

private theorem go₁_cons (c : Char) (text : List Char) (i b e : String.Pos.Raw) :
    extract.go₁ (c :: text) i b e =
      if i = b then extract.go₂ (c :: text) i e else extract.go₁ text (i + c) b e := rfl

private theorem go₂_nil (i e : String.Pos.Raw) : extract.go₂ [] i e = [] := rfl

private theorem go₂_cons (c : Char) (text : List Char) (i e : String.Pos.Raw) :
    extract.go₂ (c :: text) i e = if i = e then [] else c :: extract.go₂ text (i + c) e := rfl

end Steps

/-- The character at the offset behind a text is the first one of the text that follows. -/
theorem get?_byteLength (before rest : List Char) :
    String.Pos.Raw.get? (String.ofList (before ++ rest)) ⟨byteLength before⟩ = rest.head? := by
  suffices h : ∀ n, String.Pos.Raw.utf8GetAux? (before ++ rest) ⟨n⟩ ⟨n + byteLength before⟩ =
      rest.head? by
    have h0 := h 0
    rw [Nat.zero_add] at h0
    rw [get?_eq, String.toList_ofList]
    exact h0
  induction before with
  | nil =>
    intro n
    cases rest <;> simp [utf8GetAux?_nil, utf8GetAux?_cons]
  | cons c before ih =>
    intro n
    have hpos := c.utf8Size_pos
    have hne : (⟨n⟩ : String.Pos.Raw) ≠ ⟨n + byteLength (c :: before)⟩ := by
      simp only [ne_eq, String.Pos.Raw.mk.injEq, byteLength_cons]
      omega
    rw [List.cons_append, utf8GetAux?_cons, if_neg hne, byteLength_cons, ← Nat.add_assoc]
    exact ih (n + c.utf8Size)

/-- A character is found only at the offset behind the text before it. -/
theorem exists_of_get? {text : String} {offset : Nat} {c : Char}
    (h : String.Pos.Raw.get? text ⟨offset⟩ = some c) :
    ∃ before rest, text = String.ofList (before ++ c :: rest) ∧ offset = byteLength before := by
  suffices haux : ∀ (l : List Char) (n : Nat),
      String.Pos.Raw.utf8GetAux? l ⟨n⟩ ⟨offset⟩ = some c →
        ∃ before rest, l = before ++ c :: rest ∧ offset = n + byteLength before by
    obtain ⟨before, rest, htext, hoffset⟩ := haux text.toList 0 h
    exact ⟨before, rest, by rw [← htext, String.ofList_toList], by rw [hoffset, Nat.zero_add]⟩
  intro l
  induction l with
  | nil =>
    intro n hn
    cases hn
  | cons d l ih =>
    intro n hn
    rw [utf8GetAux?_cons] at hn
    split at hn
    · rename_i he
      obtain rfl : d = c := Option.some.inj hn
      exact ⟨[], l, rfl, (congrArg String.Pos.Raw.byteIdx he).symm⟩
    · obtain ⟨before, rest, rfl, rfl⟩ := ih (n + d.utf8Size) hn
      exact ⟨d :: before, rest, rfl, Nat.add_assoc ..⟩

/-- A character is found only at offsets before the end of the text. -/
theorem lt_utf8ByteSize_of_get? {text : String} {offset : Nat} {c : Char}
    (h : String.Pos.Raw.get? text ⟨offset⟩ = some c) : offset < text.utf8ByteSize := by
  obtain ⟨before, rest, rfl, rfl⟩ := exists_of_get? h
  have hpos := c.utf8Size_pos
  rw [utf8ByteSize_ofList, byteLength_append, byteLength_cons]
  omega

/-- The edges of characters are the offsets behind the texts at the front. -/
theorem isValid_iff {text : String} {offset : Nat} :
    String.Pos.Raw.IsValid text ⟨offset⟩ ↔
      ∃ before rest, text = String.ofList (before ++ rest) ∧ offset = byteLength before := by
  rw [String.Pos.Raw.isValid_iff_exists_append]
  constructor
  · rintro ⟨front, back, rfl, hoffset⟩
    refine ⟨front.toList, back.toList, ?_, ?_⟩
    · rw [← String.toList_append, String.ofList_toList]
    · rw [← utf8ByteSize_ofList, String.ofList_toList]
      exact congrArg String.Pos.Raw.byteIdx hoffset
  · rintro ⟨before, rest, rfl, rfl⟩
    refine ⟨String.ofList before, String.ofList rest, String.ofList_append, ?_⟩
    rw [← utf8ByteSize_ofList]
    rfl

/-- The offset behind a text is at the edge of a character. -/
theorem isValid_byteLength (before rest : List Char) :
    String.Pos.Raw.isValid (String.ofList (before ++ rest)) ⟨byteLength before⟩ = true :=
  String.Pos.Raw.isValid_eq_true_iff.mpr (isValid_iff.mpr ⟨before, rest, rfl, rfl⟩)

private theorem go₂_byteLength (lexeme rest : List Char) (n : Nat) :
    String.Pos.Raw.extract.go₂ (lexeme ++ rest) ⟨n⟩ ⟨n + byteLength lexeme⟩ = lexeme := by
  induction lexeme generalizing n with
  | nil => cases rest <;> simp [go₂_nil, go₂_cons]
  | cons c lexeme ih =>
    have hpos := c.utf8Size_pos
    have hne : (⟨n⟩ : String.Pos.Raw) ≠ ⟨n + byteLength (c :: lexeme)⟩ := by
      simp only [ne_eq, String.Pos.Raw.mk.injEq, byteLength_cons]
      omega
    rw [List.cons_append, go₂_cons, if_neg hne, byteLength_cons, ← Nat.add_assoc]
    exact congrArg (c :: ·) (ih (n + c.utf8Size))

private theorem go₁_byteLength (before lexeme rest : List Char) (n : Nat) :
    String.Pos.Raw.extract.go₁ (before ++ lexeme ++ rest) ⟨n⟩ ⟨n + byteLength before⟩
      ⟨n + byteLength before + byteLength lexeme⟩ = lexeme := by
  induction before generalizing n with
  | nil =>
    cases h : lexeme ++ rest with
    | nil => simp_all [go₁_nil]
    | cons c text =>
      rw [List.nil_append, h, go₁_cons, byteLength_nil, Nat.add_zero, if_pos rfl, ← h]
      exact go₂_byteLength lexeme rest n
  | cons c before ih =>
    have hpos := c.utf8Size_pos
    have hne : (⟨n⟩ : String.Pos.Raw) ≠ ⟨n + byteLength (c :: before)⟩ := by
      simp only [ne_eq, String.Pos.Raw.mk.injEq, byteLength_cons]
      omega
    rw [List.cons_append, List.cons_append, go₁_cons, if_neg hne, byteLength_cons,
      ← Nat.add_assoc]
    exact ih (n + c.utf8Size)

/-- The text between the offsets behind two texts, the second one longer than the first. -/
theorem extract_byteLength (before lexeme rest : List Char) :
    String.Pos.Raw.extract (String.ofList (before ++ lexeme ++ rest)) ⟨byteLength before⟩
      ⟨byteLength before + byteLength lexeme⟩ = String.ofList lexeme := by
  rw [extract_eq]
  split
  · rename_i h
    cases lexeme with
    | nil => rfl
    | cons c lexeme =>
      have := c.utf8Size_pos
      simp only [ge_iff_le, byteLength_cons] at h
      omega
  · have := go₁_byteLength before lexeme rest 0
    rw [Nat.zero_add] at this
    rw [String.toList_ofList]
    exact congrArg String.ofList this

end Loxeme
