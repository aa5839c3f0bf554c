import SearchQuery.Proofs.Decimal.Grammar
import SearchQuery.Proofs.Sql.Scan

/-!
# Literals are read back

A value stands in a statement as a numeral or between quotes, and it can be told from the literal
which: no numeral begins with a quote.  Between quotes it ends where its author meant it to end.  A
reader that stops at the first quote not taken by a backslash (`readLiteral?`) stops at the last
character of the literal, whatever stands behind it, and has read the value by then.

* `readLiteral?_quote`: a quoted text is read back and the rest is left.
* `head?_literal`: a literal begins with a quote exactly if the value is not numeric.
* `literals_faithful`: what literals are, and what is read from them.
-/

namespace SearchQuery.Sql

open Decimal (NumeralForm)

/-- Reads a literal behind its opening quote, up to the first quote that no backslash takes with
it: what stands in the literal, and what stands behind it. -/
def readLiteral? : List Char → Option (List Char × List Char)
  | [] => none
  | '\'' :: rest => some ([], rest)
  | ['\\'] => none
  | '\\' :: c :: rest => (readLiteral? rest).map fun (cs, after) => (unescapedChar c :: cs, after)
  | c :: rest => (readLiteral? rest).map fun (cs, after) => (c :: cs, after)

theorem readLiteral?_cons {c : Char} (hquote : c ≠ '\'') (hback : c ≠ '\\') (rest : List Char) :
    readLiteral? (c :: rest) = (readLiteral? rest).map fun (cs, after) => (c :: cs, after) := by
  rw [readLiteral?]
  · exact hquote
  · exact fun hc _ => hback hc
  · exact fun _ _ hc _ => hback hc

theorem readLiteral?_escapedChar (c : Char) (rest : List Char) :
    readLiteral? (escapedChar c ++ rest)
      = (readLiteral? rest).map fun (cs, after) => (c :: cs, after) := by
  unfold escapedChar
  split
  · next h => rcases h with rfl | rfl | rfl <;> rfl
  · next h =>
    split
    · next h => subst h; rfl
    · have hback : c ≠ '\\' := fun hc => h (.inl hc)
      have hquote : c ≠ '\'' := fun hc => h (.inr (.inl hc))
      exact readLiteral?_cons hquote hback rest

/-- Behind an escaped text the next quote closes. -/
theorem readLiteral?_escapeChars (cs rest : List Char) :
    readLiteral? (escapeChars cs ++ '\'' :: rest) = some (cs, rest) := by
  induction cs with
  | nil => rfl
  | cons c cs ih =>
    rw [escapeChars, List.flatMap_cons, List.append_assoc, readLiteral?_escapedChar, ← escapeChars,
      ih]
    rfl

def quoteTail (text : String) : List Char :=
  escapeChars text.toList ++ ['\'']

theorem toList_quote (text : String) : (quote text).toList = '\'' :: quoteTail text := by
  simp [quote, escape, quoteTail]

/-- **A quoted text is read back**, and the rest is left. -/
theorem readLiteral?_quote (text : String) (rest : List Char) :
    readLiteral? (quoteTail text ++ rest) = some (text.toList, rest) := by
  rw [quoteTail, List.append_assoc, List.singleton_append, readLiteral?_escapeChars]

theorem quote_injective : Function.Injective quote := by
  intro s t h
  have htail := congrArg String.toList h
  rw [toList_quote, toList_quote] at htail
  have hread := readLiteral?_quote s []
  rw [(List.cons.inj htail).2, readLiteral?_quote t []] at hread
  exact (String.toList_inj.mp (Prod.mk.inj (Option.some.inj hread)).1).symm

theorem numeralForm_literal {v : Scalar} (h : v.isNumeric = true) :
    NumeralForm (literal v).toList := by
  rw [literal_eq, if_pos h]
  exact Decimal.form_of_isNumeral (Scalar.isNumeral_content h)

theorem literal_of_not_numeric {v : Scalar} (h : v.isNumeric = false) :
    literal v = quote v.content := by
  rw [literal_eq, h]
  rfl

/-- **A literal begins with a quote** exactly if the value is not numeric. -/
theorem head?_literal (v : Scalar) :
    (literal v).toList.head? = some '\'' ↔ v.isNumeric = false := by
  cases h : v.isNumeric with
  | false => simp [literal_of_not_numeric h, toList_quote]
  | true =>
    have hnumeral : Decimal.isNumeral (literal v) = true :=
      Decimal.isNumeral_of_form (numeralForm_literal h)
    refine iff_of_false (fun hquote => ?_) (by decide)
    exact absurd (Decimal.isNumeralChar_of_mem hnumeral (List.mem_of_mem_head? hquote)) (by decide)

/-- **Literals are safe and faithful.**  A literal is bare exactly if its value is numeric, and then
it is a numeral.  A text is bare exactly if it is a numeral itself, which is also to say that it has
a digit, holds the characters of numerals alone and is read as a number, and it is not changed then.
Between quotes the literal ends at its last character, whatever stands behind it, and gives back the
content of the value; so two quoted texts with one literal are one text. -/
theorem literals_faithful :
    (∀ v : Scalar, (literal v).toList.head? ≠ some '\'' ↔ v.isNumeric = true)
      ∧ (∀ v : Scalar, v.isNumeric = true → NumeralForm (literal v).toList)
      ∧ (∀ s, ((Scalar.text s).isNumeric = true ↔ NumeralForm s.toList)
        ∧ ((Scalar.text s).isNumeric = true ↔ (∃ c ∈ s.toList, c.isDigit = true)
          ∧ (∀ c ∈ s.toList, Decimal.isNumeralChar c = true)
          ∧ (Decimal.readFloat? s).isSome = true)
        ∧ ((Scalar.text s).isNumeric = true → literal (.text s) = s))
      ∧ (∀ v : Scalar, v.isNumeric = false → ∃ tail, (literal v).toList = '\'' :: tail
        ∧ ∀ rest, readLiteral? (tail ++ rest) = some (v.content.toList, rest))
      ∧ ∀ s t, (Scalar.text s).isNumeric = false → (Scalar.text t).isNumeric = false →
        literal (.text s) = literal (.text t) → s = t := by
  refine ⟨fun v => ?_, fun v h => numeralForm_literal h, fun s => ⟨?_, ?_, fun h => ?_⟩,
    fun v h => ?_, fun s t hs ht h => ?_⟩
  · rw [ne_eq, head?_literal, Bool.not_eq_false]
  · exact Decimal.isNumeral_iff_form
  · exact Decimal.isNumeral_iff_readFloat?
  · rw [literal_eq, if_pos h]
    rfl
  · rw [literal_of_not_numeric h]
    exact ⟨quoteTail v.content, toList_quote v.content, readLiteral?_quote v.content⟩
  · rw [literal_of_not_numeric hs, literal_of_not_numeric ht] at h
    exact quote_injective h

/-- Texts near numerals, and one of a backslash, a quote and a NUL before a digit. -/
example :
    ["1e5", "5.", "+.5", "-0", "007E-3"].all (fun s => literal (.text s) == s) = true
      ∧ ["e5", "1-2", ".", "1e", "+", "inf", "0x1", ""].all
        (fun s => literal (.text s) == "'" ++ s ++ "'") = true
      ∧ (literal (.text "\\'\x000")).toList
        = ['\'', '\\', '\\', '\\', '\'', '\\', '0', '0', '\''] := by
  decide +kernel

end SearchQuery.Sql
