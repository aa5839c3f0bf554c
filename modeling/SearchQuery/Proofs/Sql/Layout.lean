import SearchQuery.Proofs.Sql.Scan
import SearchQuery.Sql.Condition

/-!
# The pieces of a condition

What a reader makes of the text of a condition piece by piece, whatever the texts in it are.

* `Test.scans`: the text of a test, in both polarities.
* `Condition.scans`: the text of a condition.
-/

namespace SearchQuery.Sql

def distancePieces (place : Vicinity) : List Piece :=
  bares "GEODIST(" ++ .name place.latitudeField :: (bares ", " ++ .name place.longitudeField ::
    (bares ", " ++ (bares (Decimal.plain.text place.latitude) ++ (bares ", "
      ++ (bares (Decimal.plain.text place.longitude)
        ++ bares ", \x7bin=degrees, out=meters\x7d)")))))

def Test.pieces (negated : Bool) : Test → List Piece
  | .equals field v =>
    .name field :: (bares (if negated then " <> " else " = ") ++ operandPieces v)
  | .bounded field b v =>
    .name field :: (bares (" " ++ (if negated then b.complement else b).sign ++ " ")
      ++ operandPieces v)
  | .among field vs =>
    .name field :: (bares (if negated then " NOT IN (" else " IN (")
      ++ (List.intercalate (bares ", ") (vs.map operandPieces) ++ bares ")"))
  | .near place =>
    distancePieces place ++ (bares (if negated then " >= " else " < ")
      ++ bares (Decimal.plain.text place.distance))
  | .fullText clause =>
    bares (if negated then "NOT MATCH(" else "MATCH(")
      ++ .literal ("@" ++ clause.field ++ " " ++ clause.keywords) :: bares ")"

namespace Condition

mutual

def pieces : Condition → List Piece
  | .constant b => bares (if b then "1 = 1" else "1 = 0")
  | .test negated t => t.pieces negated
  | .all cs => List.intercalate (bares " AND ") (piecesOf cs)
  | .any cs => List.intercalate (bares " OR ") (piecesOf cs)
  | .parens c => bares "(" ++ (c.pieces ++ bares ")")
  | .not c => bares "NOT " ++ c.pieces

def piecesOf : List Condition → List (List Piece)
  | [] => []
  | c :: rest => c.pieces :: piecesOf rest

end

theorem texts_eq_map (cs : List Condition) : texts cs = cs.map text := by
  induction cs with
  | nil => rfl
  | cons c rest ih => rw [texts, ih, List.map_cons]

end Condition

/-! ### Tests -/

theorem scans_plain (x : Float) :
    Scans (Decimal.plain.text x) (bares (Decimal.plain.text x)) := by
  cases h : x.isFinite with
  | true => exact scans_numeral (Decimal.isNumeral_plain h)
  | false =>
    rcases Decimal.text_of_not_finite h Decimal.plain with h | h | h <;> rw [h] <;>
      exact scans_bare (by decide)

/-- A name is read back in front of bare text that does not begin with a backtick. -/
theorem scans_name_bare (name : String) {text b : String} {qs : List Piece}
    (htext : Scans text (bares text)) (hne : text.toList ≠ [])
    (htick : text.toList.head? ≠ some '\x60') (hb : Scans b qs) :
    Scans (identifier name ++ (text ++ b)) (.name name :: (bares text ++ qs)) := by
  refine scans_identifier_append name (htext.append hb) ?_ ?_
  · simp [hne]
  · cases hcs : text.toList with
    | nil => exact absurd hcs hne
    | cons c cs => simpa [hcs] using htick

theorem scans_distance (place : Vicinity) : Scans (distanceCall place) (distancePieces place) := by
  have hcomma : Scans ", " (bares ", ") := scans_bare (by decide)
  have hend : Scans ", \x7bin=degrees, out=meters\x7d)"
      (bares ", \x7bin=degrees, out=meters\x7d)") := scans_bare (by decide)
  have hnumbers := (scans_plain place.latitude).append
    (hcomma.append ((scans_plain place.longitude).append hend))
  have hfields := scans_name_bare place.latitudeField hcomma (by decide) (by decide)
    (scans_name_bare place.longitudeField hcomma (by decide) (by decide) hnumbers)
  have hcall : distanceCall place = "GEODIST(" ++ (identifier place.latitudeField ++ (", "
      ++ (identifier place.longitudeField ++ (", " ++ (Decimal.plain.text place.latitude ++ (", "
        ++ (Decimal.plain.text place.longitude ++ ", \x7bin=degrees, out=meters\x7d)"))))))) := by
    have hclose : (", \x7bin=degrees, out=meters\x7d)" : String)
        = ", " ++ ("\x7bin=degrees, out=meters\x7d" ++ ")") := by decide
    rw [hclose, distanceCall, commaSeparated]
    simp only [String.intercalate_cons_cons, String.intercalate_singleton, String.append_assoc]
  rw [hcall]
  exact (scans_bare (by decide)).append hfields

theorem scans_fullTextCall (clause : FullText) :
    Scans (fullTextCall clause) (bares "MATCH("
      ++ .literal ("@" ++ clause.field ++ " " ++ clause.keywords) :: bares ")") := by
  have hescape : "'@" ++ escape clause.field ++ " " ++ escape clause.keywords ++ "'"
      = quote ("@" ++ clause.field ++ " " ++ clause.keywords) := by
    apply String.toList_injective
    simp [quote, escape, escapeChars, escapedChar]
  have hcall : fullTextCall clause
      = "MATCH(" ++ (quote ("@" ++ clause.field ++ " " ++ clause.keywords) ++ ")") := by
    rw [← hescape, fullTextCall]
    apply String.toList_injective
    simp
  rw [hcall]
  exact (scans_bare (by decide)).append ((scans_quote _).append (scans_bare (by decide)))

theorem scans_sign (b : Bound) :
    Scans (" " ++ b.sign ++ " ") (bares (" " ++ b.sign ++ " ")) := by
  cases b <;> exact scans_bare (by decide)

/-- **The text of a test scans as its pieces**, in both polarities. -/
theorem Test.scans (negated : Bool) (t : Test) : Scans (t.text negated) (t.pieces negated) := by
  cases t with
  | equals field v =>
    rw [Test.text, Test.pieces, String.append_assoc]
    cases negated <;>
      exact scans_name_bare field (scans_bare (by decide)) (by decide) (by decide) (scans_literal v)
  | bounded field b v =>
    have hsign : (if negated then b.complement.sign else b.sign)
        = (if negated then b.complement else b).sign := by cases negated <;> rfl
    have hassoc : ∀ sign : String, identifier field ++ " " ++ sign ++ " " ++ literal v
        = identifier field ++ ((" " ++ sign ++ " ") ++ literal v) := by
      intro sign
      simp only [String.append_assoc]
    simp only [Test.text]
    rw [Test.pieces, hsign, hassoc]
    refine scans_name_bare field (scans_sign _) ?_ ?_ (scans_literal v) <;> simp
  | among field vs =>
    have hvalues : List.Forall₂ Scans (vs.map literal) (vs.map operandPieces) := by
      rw [List.forall₂_map_left_iff, List.forall₂_map_right_iff, List.forall₂_same]
      exact fun v _ => scans_literal v
    have hlist : Scans (commaSeparated (vs.map literal) ++ ")")
        (List.intercalate (bares ", ") (vs.map operandPieces) ++ bares ")") :=
      ((scans_bare (by decide)).intercalate hvalues).append (scans_bare (by decide))
    rw [Test.text, Test.pieces, String.append_assoc, String.append_assoc]
    cases negated <;>
      exact scans_name_bare field (scans_bare (by decide)) (by decide) (by decide) hlist
  | near place =>
    rw [Test.text, Test.pieces, String.append_assoc]
    refine (scans_distance place).append (Scans.append ?_ (scans_plain place.distance))
    cases negated <;> exact scans_bare (by decide)
  | fullText clause =>
    cases negated with
    | false => exact scans_fullTextCall clause
    | true =>
      have hnot : bares "NOT MATCH(" = bares "NOT " ++ bares "MATCH(" := by decide +kernel
      rw [Test.text, Test.pieces, if_pos rfl, if_pos rfl, hnot, List.append_assoc]
      exact (scans_bare (by decide)).append (scans_fullTextCall clause)

/-! ### Conditions -/

namespace Condition

mutual

/-- **The text of a condition scans as its pieces.** -/
theorem scans : ∀ c : Condition, Scans c.text c.pieces
  | .constant b => by
    rw [text, pieces]
    cases b <;> exact scans_bare (by decide)
  | .test negated t => by
    rw [text, pieces]
    exact t.scans negated
  | .all cs => by
    rw [text, pieces]
    exact Scans.intercalate (scans_bare (by decide)) (scansOf cs)
  | .any cs => by
    rw [text, pieces]
    exact Scans.intercalate (scans_bare (by decide)) (scansOf cs)
  | .parens c => by
    rw [text, pieces, String.append_assoc]
    exact (scans_bare (by decide)).append ((scans c).append (scans_bare (by decide)))
  | .not c => by
    rw [text, pieces]
    exact (scans_bare (by decide)).append (scans c)

theorem scansOf : ∀ cs : List Condition, List.Forall₂ Scans (texts cs) (piecesOf cs)
  | [] => by
    rw [texts, piecesOf]
    exact .nil
  | c :: rest => by
    rw [texts, piecesOf]
    exact .cons (scans c) (scansOf rest)

end

end Condition

end SearchQuery.Sql
