import Mathlib.Data.List.Forall2
import SearchQuery.Proofs.Decimal.Numeral
import SearchQuery.Proofs.Sql.Piece
import SearchQuery.Sql.Literal

/-!
# Quoted texts are read back

A text `Scans` as pieces if a reader outside all quotes reads these pieces from it, whatever stands
behind it, and is outside all quotes again.

* `scans_bare`: a text without quotes and backticks scans as its characters.
* `scans_quote`: a quoted text scans as one literal, the text itself.
* `scans_identifier_append`: a name between backticks scans as one piece, the name itself, unless a
  backtick follows.
* `Scans.append` and `Scans.intercalate`: texts that scan do so one behind another.
-/

namespace SearchQuery

/-- The value as text, without the quotes that it may stand in. -/
def Scalar.content : Scalar → String
  | .boolean b => if b then "1" else "0"
  | .integer n => toString n.toInt
  | .float x => Decimal.plain.text x
  | .text s => s

theorem Scalar.isNumeral_content {v : Scalar} (h : v.isNumeric = true) :
    Decimal.isNumeral v.content = true := by
  cases v with
  | boolean b => cases b <;> decide +kernel
  | integer n => exact Decimal.isNumeral_toString n.toInt
  | float x => exact Decimal.isNumeral_plain h
  | text s => exact h

namespace Sql

theorem literal_eq (v : Scalar) :
    literal v = if v.isNumeric then v.content else quote v.content := by
  cases v with
  | boolean b => rfl
  | integer n => rfl
  | text s => rfl
  | float x =>
    rw [literal]
    cases h : x.isFinite with
    | true => simp [Scalar.isNumeric, Scalar.content, h]
    | false =>
      -- None of the names of what is not finite holds a character to escape.
      have hescape : escape (Decimal.plain.text x) = Decimal.plain.text x := by
        rcases Decimal.text_of_not_finite h Decimal.plain with h | h | h <;> rw [h] <;>
          decide +kernel
      simp [Scalar.isNumeric, Scalar.content, h, quote, hescape]

/-! ### Between quotes -/

theorem scanFrom_escapedChar (read : List Char) (c : Char) (rest : List Char) :
    scanFrom (.literal read) (escapedChar c ++ rest) = scanFrom (.literal (read ++ [c])) rest := by
  unfold escapedChar
  split
  · next h => rcases h with rfl | rfl | rfl <;> rfl
  · next h =>
    split
    · next h => subst h; rfl
    · have hback : c ≠ '\\' := fun hc => h (.inl hc)
      have hquote : c ≠ '\'' := fun hc => h (.inr (.inl hc))
      rw [List.singleton_append, scanFrom.eq_def]
      simp [hback, hquote]

theorem scanFrom_escapeChars (read cs rest : List Char) :
    scanFrom (.literal read) (escapeChars cs ++ rest) = scanFrom (.literal (read ++ cs)) rest := by
  induction cs generalizing read with
  | nil => simp [escapeChars]
  | cons c cs ih =>
    rw [escapeChars, List.flatMap_cons, List.append_assoc, scanFrom_escapedChar, ← escapeChars, ih,
      List.append_assoc, List.singleton_append]

theorem scanFrom_identifierChar (read : List Char) (c : Char) (rest : List Char) :
    scanFrom (.name read) (identifierChar c ++ rest) = scanFrom (.name (read ++ [c])) rest := by
  unfold identifierChar
  split
  · next h => subst h; rfl
  · next h => rw [List.singleton_append, scanFrom.eq_def]; simp [h]

theorem scanFrom_identifierChars (read cs rest : List Char) :
    scanFrom (.name read) (cs.flatMap identifierChar ++ rest)
      = scanFrom (.name (read ++ cs)) rest := by
  induction cs generalizing read with
  | nil => simp
  | cons c cs ih =>
    rw [List.flatMap_cons, List.append_assoc, scanFrom_identifierChar, ih, List.append_assoc,
      List.singleton_append]

theorem scanFrom_literal_close (read rest : List Char) :
    scanFrom (.literal read) ('\'' :: rest)
      = (scanFrom .outside rest).map (.literal (String.ofList read) :: ·) := by
  rw [scanFrom.eq_def]
  rfl

theorem scanFrom_name_close (read : List Char) {rest : List Char}
    (hrest : rest.head? ≠ some '\x60') :
    scanFrom (.name read) ('\x60' :: rest)
      = (scanFrom .outside rest).map (.name (String.ofList read) :: ·) := by
  cases rest with
  | nil => rfl
  | cons c rest =>
    have hc : c ≠ '\x60' := by simpa using hrest
    rw [scanFrom.eq_def]
    simp only [if_true]
    split
    · next heq => exact absurd (List.cons.inj heq).1 hc
    · rfl

/-! ### Texts that scan -/

def bares (text : String) : List Piece :=
  text.toList.map .bare

/-- A reader outside all quotes reads these pieces from the text, whatever stands behind it. -/
def Scans (text : String) (ps : List Piece) : Prop :=
  ∀ rest, scanFrom .outside (text.toList ++ rest) = (scanFrom .outside rest).map (ps ++ ·)

theorem Scans.scan {text : String} {ps : List Piece} (h : Scans text ps) :
    scan text = some ps := by
  have hnil := h []
  rw [List.append_nil] at hnil
  rw [Sql.scan, hnil]
  simp [scanFrom]

theorem scans_empty : Scans "" [] := by
  intro rest
  simp

theorem Scans.append {a b : String} {ps qs : List Piece} (ha : Scans a ps) (hb : Scans b qs) :
    Scans (a ++ b) (ps ++ qs) := by
  intro rest
  rw [String.toList_append, List.append_assoc, ha, hb, Option.map_map]
  congr 1
  funext rs
  exact (List.append_assoc ps qs rs).symm

theorem Scans.intercalate {separator : String} {between : List Piece}
    (hseparator : Scans separator between) {texts : List String} {pss : List (List Piece)}
    (h : List.Forall₂ Scans texts pss) :
    Scans (String.intercalate separator texts) (List.intercalate between pss) := by
  induction h with
  | nil => exact scans_empty
  | @cons text ps texts pss hfirst hrest ih =>
    cases hrest with
    | nil => simpa [List.intercalate] using hfirst
    | cons hsecond hrest =>
      have happend := (hfirst.append hseparator).append ih
      simpa [List.intercalate, String.intercalate_cons_cons, List.intersperse] using happend

/-- **A text without quotes and backticks scans as its characters.** -/
theorem scans_bare {text : String}
    (h : text.toList.all (fun c => c != '\'' && c != '\x60') = true) :
    Scans text (bares text) := by
  intro rest
  rw [bares]
  generalize text.toList = cs at h
  induction cs with
  | nil => simp
  | cons c cs ih =>
    simp only [List.all_cons, Bool.and_eq_true, bne_iff_ne] at h
    rw [List.cons_append, scanFrom, if_neg h.1.1, if_neg h.1.2, ih h.2, Option.map_map]
    rfl

/-- **A quoted text scans as one literal, the text itself.** -/
theorem scans_quote (text : String) : Scans (quote text) [.literal text] := by
  intro rest
  have hchars : (quote text).toList ++ rest
      = '\'' :: (escapeChars text.toList ++ '\'' :: rest) := by
    simp [quote, escape]
  rw [hchars, scanFrom, if_pos rfl, scanFrom_escapeChars, List.nil_append, scanFrom_literal_close,
    String.ofList_toList]
  rfl

/-- **A name between backticks scans as one piece, the name itself**, unless a backtick follows. -/
theorem scans_identifier_append (name : String) {b : String} {qs : List Piece} (hb : Scans b qs)
    (hne : b.toList ≠ []) (htick : b.toList.head? ≠ some '\x60') :
    Scans (identifier name ++ b) (.name name :: qs) := by
  intro rest
  have hchars : (identifier name ++ b).toList ++ rest
      = '\x60' :: (name.toList.flatMap identifierChar ++ '\x60' :: (b.toList ++ rest)) := by
    simp [identifier]
  have hhead : (b.toList ++ rest).head? ≠ some '\x60' := by
    cases hcs : b.toList with
    | nil => exact absurd hcs hne
    | cons c cs => simpa [hcs] using htick
  rw [hchars, scanFrom, if_neg (by decide), if_pos rfl, scanFrom_identifierChars, List.nil_append,
    scanFrom_name_close _ hhead, String.ofList_toList, hb, Option.map_map]
  rfl

theorem scans_numeral {text : String} (h : Decimal.isNumeral text = true) :
    Scans text (bares text) := by
  refine scans_bare (List.all_eq_true.mpr fun c hc => ?_)
  have hchar := Decimal.isNumeralChar_of_mem h hc
  rw [Bool.and_eq_true, bne_iff_ne, bne_iff_ne]
  constructor <;> rintro rfl <;> exact absurd hchar (by decide)

/-- The pieces of a value: bare characters if it is numeric, else one literal. -/
def operandPieces (v : Scalar) : List Piece :=
  if v.isNumeric then bares v.content else [.literal v.content]

theorem scans_literal (v : Scalar) : Scans (literal v) (operandPieces v) := by
  rw [literal_eq, operandPieces]
  cases h : v.isNumeric with
  | true => exact scans_numeral (Scalar.isNumeral_content h)
  | false => exact scans_quote v.content

end Sql

end SearchQuery
