import BuildConfig.Proofs.Value.Rendering

namespace BuildConfig
namespace Value

-- The rule by which a literal is read on from its opening quote: a backslash takes the next character
-- as it is, and a quote without one ends the literal. The texts are what is read from, what the
-- literal says, and what stands behind its closing quote.
inductive Spells : List Char → List Char → List Char → Prop
  | closed {rest} : Spells ('"' :: rest) [] rest
  | escaped {c text content rest} (h : Spells text content rest) :
    Spells ('\\' :: c :: text) (c :: content) rest
  | plain {c text content rest} (hq : c ≠ '"') (hb : c ≠ '\\') (h : Spells text content rest) :
    Spells (c :: text) (c :: content) rest

variable {text content content₁ content₂ rest rest₁ rest₂ : List Char}

theorem spells_of_readLiteral? (h : readLiteral? text = some (content, rest)) :
    Spells text content rest := by
  fun_induction readLiteral? text generalizing content with
  | case1 => contradiction
  | case2 =>
    cases h
    exact .closed
  | case3 c text ih =>
    obtain ⟨⟨content, rest⟩, hr, he⟩ := Option.map_eq_some_iff.mp h
    cases he
    exact .escaped (ih hr)
  | case4 c text hq hb ih =>
    obtain ⟨⟨content, rest⟩, hr, he⟩ := Option.map_eq_some_iff.mp h
    cases he
    have hs : Spells text content rest := ih hr
    refine .plain hq (fun hc => ?_) hs
    -- A backslash with a text behind it is read together with the first character of that text.
    cases text with
    | nil       => contradiction
    | cons d ds => exact hb d ds hc rfl

theorem Spells.readLiteral? (h : Spells text content rest) :
    readLiteral? text = some (content, rest) := by
  induction h with
  | closed => rfl
  | escaped _ ih =>
    rw [Value.readLiteral?, ih]
    rfl
  | plain hq hb _ ih =>
    rw [readLiteral?_cons hq hb, ih]
    rfl

theorem Spells.unique (h₁ : Spells text content₁ rest₁) (h₂ : Spells text content₂ rest₂) :
    content₁ = content₂ ∧ rest₁ = rest₂ := by
  have h := h₁.readLiteral?.symm.trans h₂.readLiteral?
  simpa using h

-- A literal is read to its own closing quote and no further.
theorem spells_escape_iff :
    Spells (text.flatMap escape ++ ['"'] ++ rest₁) content rest ↔ content = text ∧ rest = rest₁ := by
  have hs : Spells (text.flatMap escape ++ ['"'] ++ rest₁) text rest₁ := by
    rw [List.append_assoc]
    exact spells_of_readLiteral? readLiteral?_escape
  constructor
  case mp => exact fun h => h.unique hs
  case mpr =>
    rintro ⟨rfl, rfl⟩
    exact hs

theorem render_string_append_iff {text₁ text₂ further₁ further₂ : String} :
    (string text₁).render ++ further₁ = (string text₂).render ++ further₂ ↔
      text₁ = text₂ ∧ further₁ = further₂ := by
  constructor
  case mp =>
    intro h
    have h := congrArg String.toList h
    simp only [render, String.toList_append, String.toList_ofList] at h
    obtain ⟨ht, hf⟩ := literal_append_inj h
    exact ⟨String.toList_injective ht, String.toList_injective hf⟩
  case mpr =>
    rintro ⟨rfl, rfl⟩
    rfl

-- A rendered text says where it ends. Read by the rule it gives the text back and is used up to its last
-- character, whatever comes behind it. So no rendered text is the start of another one.
theorem render_selfDelimiting (text : String) :
    (∃ written, (string text).render.toList = '"' :: written ∧
      ∀ further content rest,
        Spells (written ++ further) content rest ↔ content = text.toList ∧ rest = further) ∧
    ∀ other further₁ further₂ : String,
      (string text).render ++ further₁ = (string other).render ++ further₂ ↔
        text = other ∧ further₁ = further₂ :=
  ⟨⟨text.toList.flatMap escape ++ ['"'], String.toList_ofList, fun _ _ _ => spells_escape_iff⟩,
    fun _ _ _ => render_string_append_iff⟩

-- A backslash at the end is no escape for the closing quote.
example : (string "\\\"\\").render = "\"\\\\\\\"\\\\\"" := by
  decide

end Value
end BuildConfig
