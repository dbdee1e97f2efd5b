import StarterCode.Proofs.TypeExpr.RoundTrip

/-!
# What stands round a type expression

A line holds a type expression among other things: blanks at either end, and sometimes a name in
front. Blanks make no difference. A name that is no keyword makes one that cannot be overlooked:
with such a name in front, the text is no type expression any more. For either the name is a
connective, with which no type begins, or it denotes a type by itself and there is something behind
it. What is behind it begins with a word and never with a suffix, so none of it can belong to the
name.
-/

set_option autoImplicit false

namespace StarterCode.TypeExpr

/-- Blanks at its ends do not change what a text denotes. -/
theorem parse_trim (text : List Char) : parse (Text.trim text) = parse text := by
  rw [parse, Token.scan_trim, parse]

/-- A word that is no keyword stands alone if it denotes a type. -/
theorem exists_ofTokens_eq_error {name : List Char} (hkeyword : Keyword.ofWord? name = none)
    (letters : List Char) (rest : List Token) :
    ∃ error, ofTokens (.word name :: .word letters :: rest) = .error error := by
  simp only [ofTokens, List.isEmpty_cons, maxNesting, readType, readPrimary, hkeyword]
  by_cases hconnective : Keyword.isConnective name = true
  · rw [if_pos hconnective]
    exact ⟨_, rfl⟩
  · rw [if_neg hconnective]
    by_cases hidentifier : Text.isIdentifier name = true
    · -- the name is a custom type without suffixes, and the next word is left over
      rw [if_pos hidentifier]
      exact ⟨.trailing (.word letters) (.custom (String.ofList name)), rfl⟩
    · rw [if_neg hidentifier]
      exact ⟨_, rfl⟩

/-- **A name in front is no part of a type.** Where a type expression stands behind a blank, there
is none with a name in front of the blank, unless the name is a keyword. -/
theorem exists_parse_append_eq_error {name rest : List Char} {c : Char} {type : ValueType}
    (hname : Text.isIdentifier name = true) (hkeyword : Keyword.ofWord? name = none)
    (hc : Text.isBlank c = true) (h : parse (c :: rest) = .ok type) :
    ∃ error, parse (name ++ c :: rest) = .error error := by
  obtain ⟨phrase, hscan, hspell, -⟩ := exists_phrase_of_parse h
  -- the phrase begins with a word, and this is what stands behind the name
  obtain ⟨letters, others, htokens, -⟩ := phrase.tokens_eq_word hspell
  have hbracket : c ≠ ']' := by
    rintro rfl
    exact absurd hc (by decide)
  have hboth := Token.scan_append (Token.isNameChar_of_isBlank hc) hbracket
    (Token.scan_of_isIdentifier hname) hscan
  rw [htokens, List.singleton_append] at hboth
  obtain ⟨error, herror⟩ := exists_ofTokens_eq_error hkeyword letters others
  exact ⟨error, by rw [parse, hboth]; exact herror⟩

end StarterCode.TypeExpr
