import SearchQuery.Proofs.Sql.Joining

/-!
# What stands between quotes, and what does not

The pieces of a condition, taken apart.

* `quotedTexts_pieces`: what stands between quotes is what the tests of the condition quote, in
  their order.
* `bareChars_mapTests`: what stands outside is the same for tests that differ only in what they
  quote (`Test.masked`).
-/

namespace SearchQuery

/-- What a value shows between quotes: nothing if it is numeric. -/
def Scalar.quoted (v : Scalar) : List String :=
  if v.isNumeric then [] else [v.content]

/-- What stands for every text of a caller. -/
def maskText : String := "x"

def Scalar.masked (v : Scalar) : Scalar :=
  if v.isNumeric then v else .text maskText

def Vicinity.masked (place : Vicinity) : Vicinity :=
  { place with latitudeField := maskText, longitudeField := maskText }

namespace Sql

/-! ### Pieces one behind another -/

def bareChars (ps : List Piece) : List Char :=
  ps.filterMap Piece.bare?

theorem filterMap_intercalate {α β : Type} (f : α → Option β) (between : List α)
    (pss : List (List α)) :
    (List.intercalate between pss).filterMap f
      = List.intercalate (between.filterMap f) (pss.map (List.filterMap f)) := by
  induction pss with
  | nil => rfl
  | cons ps pss ih =>
    cases pss with
    | nil => simp
    | cons ps' pss =>
      rw [List.intercalate_cons_cons, List.filterMap_append, List.filterMap_append, ih,
        List.map_cons, List.map_cons, List.map_cons, List.intercalate_cons_cons]

theorem intercalate_nil_left {α : Type} (xss : List (List α)) :
    List.intercalate [] xss = xss.flatten := by
  induction xss with
  | nil => rfl
  | cons xs xss ih =>
    cases xss with
    | nil => simp
    | cons ys yss =>
      rw [List.intercalate_cons_cons, ih, List.append_nil, List.flatten_cons (l := xs)]

@[simp] theorem quotedTexts_append (ps qs : List Piece) :
    quotedTexts (ps ++ qs) = quotedTexts ps ++ quotedTexts qs :=
  List.filterMap_append

@[simp] theorem quotedTexts_name (name : String) (ps : List Piece) :
    quotedTexts (.name name :: ps) = name :: quotedTexts ps :=
  rfl

@[simp] theorem quotedTexts_literal (text : String) (ps : List Piece) :
    quotedTexts (.literal text :: ps) = text :: quotedTexts ps :=
  rfl

@[simp] theorem quotedTexts_bares (text : String) : quotedTexts (bares text) = [] := by
  simp [quotedTexts, bares, Piece.quoted?]

@[simp] theorem quotedTexts_intercalate (between : String) (pss : List (List Piece)) :
    quotedTexts (List.intercalate (bares between) pss) = pss.flatMap quotedTexts := by
  have hbetween : (bares between).filterMap Piece.quoted? = [] := quotedTexts_bares between
  rw [quotedTexts, filterMap_intercalate, hbetween, intercalate_nil_left, List.flatMap_def]
  rfl

@[simp] theorem bareChars_append (ps qs : List Piece) :
    bareChars (ps ++ qs) = bareChars ps ++ bareChars qs :=
  List.filterMap_append

@[simp] theorem bareChars_name (name : String) (ps : List Piece) :
    bareChars (.name name :: ps) = bareChars ps :=
  rfl

@[simp] theorem bareChars_literal (text : String) (ps : List Piece) :
    bareChars (.literal text :: ps) = bareChars ps :=
  rfl

theorem bareChars_intercalate (between : List Piece) (pss : List (List Piece)) :
    bareChars (List.intercalate between pss)
      = List.intercalate (bareChars between) (pss.map bareChars) :=
  filterMap_intercalate Piece.bare? between pss

theorem bareText_congr {ps qs : List Piece} (h : bareChars ps = bareChars qs) :
    bareText ps = bareText qs :=
  congrArg String.ofList h

/-! ### Tests -/

theorem quotedTexts_operandPieces (v : Scalar) : quotedTexts (operandPieces v) = v.quoted := by
  rw [operandPieces, Scalar.quoted]
  split
  · exact quotedTexts_bares _
  · rfl

theorem bareChars_operandPieces_masked (v : Scalar) :
    bareChars (operandPieces v.masked) = bareChars (operandPieces v) := by
  rw [Scalar.masked]
  cases h : v.isNumeric with
  | true => rfl
  | false =>
    have hmask : (Scalar.text maskText).isNumeric = false := by decide +kernel
    rw [if_neg (by decide), operandPieces, operandPieces, h, hmask]
    rfl

namespace Test

/-- What a test quotes: the names of fields, and values that are not numeric. -/
def quoted : Test → List String
  | .equals field v => field :: v.quoted
  | .bounded field _ v => field :: v.quoted
  | .among field vs => field :: vs.flatMap Scalar.quoted
  | .near place => [place.latitudeField, place.longitudeField]
  | .fullText clause => ["@" ++ clause.field ++ " " ++ clause.keywords]

def masked : Test → Test
  | .equals _ v => .equals maskText v.masked
  | .bounded _ b v => .bounded maskText b v.masked
  | .among _ vs => .among maskText (vs.map Scalar.masked)
  | .near place => .near place.masked
  | .fullText _ => .fullText ⟨maskText, maskText⟩

theorem quotedTexts_pieces (negated : Bool) (t : Test) :
    quotedTexts (t.pieces negated) = t.quoted := by
  cases t with
  | equals field v => simp [pieces, quoted, quotedTexts_operandPieces]
  | bounded field b v => simp [pieces, quoted, quotedTexts_operandPieces]
  | among field vs => simp [pieces, quoted, List.flatMap_map, quotedTexts_operandPieces]
  | near place => simp [pieces, quoted, distancePieces]
  | fullText clause => simp [pieces, quoted]

theorem bareChars_masked (negated : Bool) (t : Test) :
    bareChars (t.masked.pieces negated) = bareChars (t.pieces negated) := by
  cases t with
  | equals field v => simp [pieces, masked, bareChars_operandPieces_masked]
  | bounded field b v => simp [pieces, masked, bareChars_operandPieces_masked]
  | among field vs =>
    have hvalues : ((vs.map Scalar.masked).map operandPieces).map bareChars
        = (vs.map operandPieces).map bareChars := by
      rw [List.map_map, List.map_map, List.map_map]
      exact List.map_congr_left fun v _ => bareChars_operandPieces_masked v
    simp only [pieces, masked, bareChars_name, bareChars_append, bareChars_intercalate, hvalues]
  | near place => simp [pieces, masked, distancePieces, Vicinity.masked]
  | fullText clause => simp [pieces, masked]

end Test

/-! ### Conditions -/

namespace Condition

mutual

def tests : Condition → List Test
  | .constant _ => []
  | .test _ t => [t]
  | .all cs => testsOf cs
  | .any cs => testsOf cs
  | .parens c => c.tests
  | .not c => c.tests

def testsOf : List Condition → List Test
  | [] => []
  | c :: rest => c.tests ++ testsOf rest

end

mutual

def mapTests (f : Test → Test) : Condition → Condition
  | .constant b => .constant b
  | .test negated t => .test negated (f t)
  | .all cs => .all (mapTestsOf f cs)
  | .any cs => .any (mapTestsOf f cs)
  | .parens c => .parens (c.mapTests f)
  | .not c => .not (c.mapTests f)

def mapTestsOf (f : Test → Test) : List Condition → List Condition
  | [] => []
  | c :: rest => c.mapTests f :: mapTestsOf f rest

end

theorem testsOf_eq_flatMap (cs : List Condition) : testsOf cs = cs.flatMap tests := by
  induction cs with
  | nil => rfl
  | cons c rest ih => rw [testsOf, ih, List.flatMap_cons]

theorem mapTestsOf_eq_map (f : Test → Test) (cs : List Condition) :
    mapTestsOf f cs = cs.map (mapTests f) := by
  induction cs with
  | nil => rfl
  | cons c rest ih => rw [mapTestsOf, ih, List.map_cons]

mutual

/-- **A condition quotes what its tests quote**, in their order. -/
theorem quotedTexts_pieces : ∀ c : Condition,
    quotedTexts c.pieces = c.tests.flatMap Test.quoted
  | .constant b => by
    rw [pieces, tests, quotedTexts_bares]
    rfl
  | .test negated t => by
    rw [pieces, tests, t.quotedTexts_pieces, List.flatMap_singleton]
  | .all cs => by
    rw [pieces, tests, quotedTexts_intercalate]
    exact quotedTexts_piecesOf cs
  | .any cs => by
    rw [pieces, tests, quotedTexts_intercalate]
    exact quotedTexts_piecesOf cs
  | .parens c => by
    rw [pieces, tests, quotedTexts_append, quotedTexts_append, quotedTexts_bares,
      quotedTexts_bares, List.nil_append, List.append_nil, quotedTexts_pieces c]
  | .not c => by
    rw [pieces, tests, quotedTexts_append, quotedTexts_bares, List.nil_append,
      quotedTexts_pieces c]

theorem quotedTexts_piecesOf : ∀ cs : List Condition,
    (piecesOf cs).flatMap quotedTexts = (testsOf cs).flatMap Test.quoted
  | [] => rfl
  | c :: rest => by
    rw [piecesOf, testsOf, List.flatMap_cons, List.flatMap_append, quotedTexts_pieces c,
      quotedTexts_piecesOf rest]

end

mutual

/-- **What stands outside quotes stays**, if it does in each test. -/
theorem bareChars_mapTests {f : Test → Test}
    (hf : ∀ negated t, bareChars ((f t).pieces negated) = bareChars (t.pieces negated)) :
    ∀ c : Condition, bareChars (c.mapTests f).pieces = bareChars c.pieces
  | .constant b => by rw [mapTests]
  | .test negated t => by
    rw [mapTests, pieces, pieces, hf]
  | .all cs => by
    rw [mapTests, pieces, pieces, bareChars_intercalate, bareChars_intercalate,
      bareChars_mapTestsOf hf cs]
  | .any cs => by
    rw [mapTests, pieces, pieces, bareChars_intercalate, bareChars_intercalate,
      bareChars_mapTestsOf hf cs]
  | .parens c => by
    rw [mapTests, pieces, pieces, bareChars_append, bareChars_append, bareChars_append,
      bareChars_append, bareChars_mapTests hf c]
  | .not c => by
    rw [mapTests, pieces, pieces, bareChars_append, bareChars_append, bareChars_mapTests hf c]

theorem bareChars_mapTestsOf {f : Test → Test}
    (hf : ∀ negated t, bareChars ((f t).pieces negated) = bareChars (t.pieces negated)) :
    ∀ cs : List Condition,
      (piecesOf (mapTestsOf f cs)).map bareChars = (piecesOf cs).map bareChars
  | [] => rfl
  | c :: rest => by
    rw [mapTestsOf, piecesOf, piecesOf, List.map_cons, List.map_cons, bareChars_mapTests hf c,
      bareChars_mapTestsOf hf rest]

end

/-! ### Conditions put together -/

variable {matching must should mustNot : List Condition}

theorem tests_join : (join matching must should mustNot).toList.flatMap tests
    = matching.flatMap tests ++ must.flatMap tests ++ should.flatMap tests
      ++ mustNot.flatMap tests := by
  have hgroup : ∀ (cs : List Condition) (d : Condition), d.tests = cs.flatMap tests →
      (if cs.isEmpty then [] else [d]).flatMap tests = cs.flatMap tests := by
    intro cs d hd
    cases cs with
    | nil => rfl
    | cons c rest => simpa using hd
  have hall : ∀ cs : List Condition, (all cs).tests = cs.flatMap tests := by
    intro cs
    rw [tests, testsOf_eq_flatMap]
  have hany : (any should).tests = should.flatMap tests := by
    rw [tests, testsOf_eq_flatMap]
  cases h : join matching must should mustNot with
  | none =>
    obtain ⟨rfl, rfl, rfl, rfl⟩ := join_eq_none.mp h
    rfl
  | some c =>
    obtain ⟨cs, -, rfl, rfl⟩ := join_eq_some h
    rw [Option.toList_some, List.flatMap_singleton, hall, List.flatMap_append, List.flatMap_append,
      List.flatMap_append, hgroup must _ (by rw [tests, hall]),
      hgroup should _ (by rw [tests, hany]), hgroup mustNot _ (hall mustNot)]

theorem join_mapTests (f : Test → Test) :
    join (matching.map (mapTests f)) (must.map (mapTests f)) (should.map (mapTests f))
      (mustNot.map (mapTests f)) = (join matching must should mustNot).map (mapTests f) := by
  cases matching <;> cases must <;> cases should <;> cases mustNot <;>
    simp [join, mapTests, mapTestsOf_eq_map]

end Condition

end Sql

end SearchQuery
