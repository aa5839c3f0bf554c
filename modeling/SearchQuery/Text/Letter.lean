import SearchQuery.Text.AlphanumericTable
import SearchQuery.Text.CaseTable

/-!
# Letters, digits and case

Upper and lower case, letters and numbers over all of Unicode.  Below 128 the answers are core's
own, so that statements about plain names need no table.

A whole text is lower-cased by `lowercase`, where a capital sigma at the end of a word becomes the
final form; a single character is lower-cased by `lowerChar`, which knows no neighbours.
-/

namespace SearchQuery.Text

def isUppercase (c : Char) : Bool :=
  if c.toNat < 128 then c.isUpper else inRuns uppercaseRuns c

def isLowercase (c : Char) : Bool :=
  if c.toNat < 128 then c.isLower else inRuns lowercaseRuns c

def isAlphanumeric (c : Char) : Bool :=
  if c.toNat < 128 then c.isAlphanum else inRuns alphanumericRuns c

def isCased (c : Char) : Bool :=
  isUppercase c || isLowercase c || inRuns titlecaseRuns c

/-- A character that the final sigma rule looks through. -/
def isCaseIgnorable (c : Char) : Bool :=
  inRuns caseIgnorableRuns c

/-- The lower-case form of one character.  The capital I with a dot above is the only one whose
form has two characters. -/
def lowerChar (c : Char) : List Char :=
  if c.toNat < 128 then [c.toLower]
  else if c == 'İ' then ['i', '\u0307']
  else match lowercaseShifts.find? fun (run, _) => run.contains c.toNat with
    | some (_, shift) => [Char.ofNat (c.toNat + shift).toNat]
    | none => [c]

theorem lowerChar_ne_nil (c : Char) : lowerChar c ≠ [] := by
  unfold lowerChar
  split
  · exact List.cons_ne_nil _ _
  · split
    · exact List.cons_ne_nil _ _
    · split <;> exact List.cons_ne_nil _ _

/-- Whether the first character that is not looked through has case. -/
def startsCased (cs : List Char) : Bool :=
  match cs.dropWhile isCaseIgnorable with
  | [] => false
  | c :: _ => isCased c

/-- Lower-cases `cs`, where `before` holds the characters already passed, the nearest first. -/
def lowercaseAfter (before : List Char) : List Char → List Char
  | [] => []
  | c :: rest =>
    let lower :=
      if c == 'Σ' then [if startsCased before && !startsCased rest then 'ς' else 'σ']
      else lowerChar c
    lower ++ lowercaseAfter (c :: before) rest

def lowercase (text : String) : String :=
  String.ofList (lowercaseAfter [] text.toList)

theorem eq_empty_of_lowercase {text : String} (h : lowercase text = "") : text = "" := by
  have hchars : lowercaseAfter [] text.toList = [] := by
    rw [← String.toList_ofList (l := lowercaseAfter [] text.toList), ← lowercase, h]
    rfl
  cases htext : text.toList with
  | nil => exact String.toList_eq_nil_iff.mp htext
  | cons c rest =>
    rw [htext, lowercaseAfter, List.append_eq_nil_iff] at hchars
    have hlower := hchars.1
    split at hlower
    · exact absurd hlower (List.cons_ne_nil _ _)
    · exact absurd hlower (lowerChar_ne_nil c)

def asciiLowercase (text : String) : String :=
  String.ofList (text.toList.map Char.toLower)

end SearchQuery.Text
