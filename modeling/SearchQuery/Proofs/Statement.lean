import SearchQuery.Proofs.Sql.Contents
import SearchQuery.Request

/-!
# No text leaves its place in a statement

A statement quotes the texts of its caller and nothing else, and what stands outside quotes does not
depend on these texts.

* `Sql.Statement.scans`: a statement scans as its pieces, unless it has clauses in the caller's own
  words.
* `Sql.Statement.quotedTexts_pieces`, `Sql.Statement.bareChars_masked`: what it quotes, and what it
  does not.
* `Query.texts_stay_quoted`: both for the statements of a query and of its structured form.
-/

namespace SearchQuery

open Sql (Piece Test Condition Statement bares quotedTexts bareChars Scans)

/-! ### Statements -/

def SortKey.masked (key : SortKey) : SortKey :=
  { key with field := maskText }

namespace Sql

def sortPieces (key : SortKey) : List Piece :=
  .name key.field :: bares (" " ++ key.direction.keyword)

theorem scans_sort (key : SortKey) : Scans (sortText key) (sortPieces key) := by
  rw [sortText, sortPieces, String.append_assoc]
  cases key.direction <;>
    exact scans_identifier_append key.field (scans_bare (by decide)) (by decide) (by decide)

theorem scans_word (n : UInt64) : Scans (toString n.toNat) (bares (toString n.toNat)) :=
  scans_numeral (Decimal.isNumeral_toString n.toNat)

namespace Statement

def partPieces (s : Statement) : List (List Piece) :=
  [some (bares "SELECT * FROM " ++ bares s.source),
    s.condition.map fun c => bares "WHERE " ++ c.pieces,
    if s.sort.isEmpty then none
    else some (bares "ORDER BY " ++ List.intercalate (bares ", ") (s.sort.map sortPieces)),
    s.window.map fun w => bares "LIMIT " ++ (bares (toString w.1.toNat)
      ++ (bares ", " ++ bares (toString w.2.toNat))),
    s.maxMatches.map fun n => bares "OPTION max_matches=" ++ bares (toString n.toNat)].filterMap id

def pieces (s : Statement) : List Piece :=
  List.intercalate (bares " ") s.partPieces

/-- The statement has no clauses in the caller's own words, and the name of its source needs no
quotes. -/
structure Plain (s : Statement) : Prop where
  columns : s.columns = []
  groupBy : s.groupBy = []
  having : s.having = []
  source : s.source.toList.all (fun c => c != '\'' && c != '\x60') = true

/-- **A statement scans as its pieces.** -/
theorem scans {s : Statement} (h : s.Plain) : Scans s.text s.pieces := by
  have hhead : Scans s.head (bares "SELECT * FROM " ++ bares s.source) := by
    have hfixed : s.head = "SELECT * FROM " ++ s.source := by
      rw [head, h.columns]
      rfl
    rw [hfixed]
    exact (scans_bare (by decide)).append (scans_bare h.source)
  have hparts : s.parts = [some s.head, s.condition.map fun c => "WHERE " ++ c.text,
      if s.sort.isEmpty then none else some ("ORDER BY " ++ commaSeparated (s.sort.map sortText)),
      s.window.map fun w => "LIMIT " ++ toString w.1.toNat ++ ", " ++ toString w.2.toNat,
      s.maxMatches.map fun n => "OPTION max_matches=" ++ toString n.toNat].filterMap id := by
    rw [parts, h.groupBy, h.having]
    rfl
  rw [text, pieces, hparts]
  refine (scans_bare (by decide)).intercalate ?_
  refine List.rel_filterMap (R := Option.Rel Scans) (fun _ _ hrel => hrel) ?_
  refine .cons (.some hhead) (.cons ?_ (.cons ?_ (.cons ?_ (.cons ?_ .nil))))
  · cases s.condition with
    | none => exact .none
    | some c => exact .some ((scans_bare (by decide)).append c.scans)
  · split
    · exact .none
    · refine .some ((scans_bare (by decide)).append ((scans_bare (by decide)).intercalate ?_))
      rw [List.forall₂_map_left_iff, List.forall₂_map_right_iff, List.forall₂_same]
      exact fun key _ => scans_sort key
  · cases s.window with
    | none => exact .none
    | some w =>
      refine .some ?_
      simp only [String.append_assoc]
      exact (scans_bare (by decide)).append ((scans_word w.1).append
        ((scans_bare (by decide)).append (scans_word w.2)))
  · cases s.maxMatches with
    | none => exact .none
    | some n => exact .some ((scans_bare (by decide)).append (scans_word n))

theorem quotedTexts_pieces (s : Statement) :
    quotedTexts s.pieces = (s.condition.toList.flatMap Condition.tests).flatMap Test.quoted
      ++ s.sort.map (·.field) := by
  have hsort : (s.sort.map sortPieces).flatMap quotedTexts = s.sort.map (·.field) := by
    rw [List.flatMap_map, List.map_eq_flatMap]
    exact List.flatMap_congr fun key _ => by simp [sortPieces]
  have hoption : ∀ os : List (Option (List Piece)),
      (os.filterMap id).flatMap quotedTexts = os.flatMap fun o => o.toList.flatMap quotedTexts := by
    intro os
    induction os with
    | nil => rfl
    | cons o os ih => cases o <;> simpa using ih
  rw [pieces, quotedTexts_intercalate, partPieces, hoption]
  simp only [List.flatMap_cons, List.flatMap_nil, Option.toList_some, quotedTexts_append,
    quotedTexts_bares, List.nil_append, List.append_nil]
  congr 1
  · cases s.condition with
    | none => rfl
    | some c => simp [c.quotedTexts_pieces]
  · have hnone : ∀ (α : Type) (o : Option α) (f : α → List Piece), (∀ a, quotedTexts (f a) = []) →
        (o.map f).toList.flatMap quotedTexts = [] := by
      intro α o f hf
      cases o with
      | none => rfl
      | some a => simp [hf]
    rw [hnone _ s.window _ (by simp), hnone _ s.maxMatches _ (by simp), List.append_nil,
      List.append_nil]
    cases hkeys : s.sort with
    | nil => rfl
    | cons key keys => rw [hkeys] at hsort; simpa using hsort

def masked (s : Statement) : Statement :=
  { s with condition := s.condition.map (Condition.mapTests Test.masked)
           sort := s.sort.map SortKey.masked }

theorem Plain.masked {s : Statement} (h : s.Plain) : s.masked.Plain :=
  ⟨h.columns, h.groupBy, h.having, h.source⟩

/-- What stands outside quotes does not depend on what the statement quotes. -/
theorem bareChars_masked (s : Statement) : bareChars s.masked.pieces = bareChars s.pieces := by
  have hoption : ∀ os : List (Option (List Piece)),
      (os.filterMap id).map bareChars = (os.map (Option.map bareChars)).filterMap id := by
    intro os
    induction os with
    | nil => rfl
    | cons o os ih => cases o <;> simpa using ih
  have hcondition : ∀ c : Condition,
      bareChars (c.mapTests Test.masked).pieces = bareChars c.pieces :=
    Condition.bareChars_mapTests Test.bareChars_masked
  have hsort : ((s.sort.map SortKey.masked).map sortPieces).map bareChars
      = (s.sort.map sortPieces).map bareChars := by
    rw [List.map_map, List.map_map, List.map_map]
    exact List.map_congr_left fun key _ => rfl
  rw [pieces, pieces, bareChars_intercalate, bareChars_intercalate, partPieces, partPieces, hoption,
    hoption]
  congr 2
  simp only [masked, List.map_cons, List.map_nil, Option.map_map, List.isEmpty_map]
  congr 2
  · cases s.condition <;> simp [hcondition]
  · cases s.sort.isEmpty with
    | true => rfl
    | false =>
      simp only [Bool.false_eq_true, if_false, Option.map_some, bareChars_append,
        bareChars_intercalate, hsort]

end Statement

end Sql

/-! ### Predicates and clauses -/

def Criterion.masked : Criterion → Criterion
  | .equals v => .equals v.masked
  | .bounded b v => .bounded b v.masked
  | .among vs => .among (vs.map Scalar.masked)
  | .between first second => .between (first.1, first.2.masked) (second.1, second.2.masked)
  | .near place => .near place.masked

namespace Predicate

/-- What a predicate quotes: its field and then the values that are not numeric, once for each
comparison, or the two fields of a vicinity.  A predicate without values to be among compares
nothing. -/
def quoted (p : Predicate) : List String :=
  match p.criterion with
  | .equals v => p.field :: v.quoted
  | .bounded _ v => p.field :: v.quoted
  | .among vs => if vs.isEmpty then [] else p.field :: vs.flatMap Scalar.quoted
  | .between first second =>
    (p.field :: first.2.quoted) ++ (p.field :: second.2.quoted)
  | .near place => [place.latitudeField, place.longitudeField]

def masked (p : Predicate) : Predicate where
  field := maskText
  criterion := p.criterion.masked
  negated := p.negated
  named := by decide

theorem quoted_condition (negated : Bool) (p : Predicate) :
    ((Node.ofPredicate p).condition negated).tests.flatMap Test.quoted = p.quoted := by
  rw [Node.ofPredicate_eq, quoted]
  cases p.criterion with
  | equals v => simp [Node.condition, Condition.tests, Test.quoted]
  | bounded b v => simp [Node.condition, Condition.ofRange, Condition.tests, Test.quoted]
  | among vs => cases vs <;> simp [Node.condition, Condition.tests, Test.quoted]
  | between first second =>
    cases negated <;>
      simp [Node.condition, Condition.ofRange, Condition.tests, Condition.testsOf, Test.quoted]
  | near place => simp [Node.condition, Condition.tests, Test.quoted]

theorem condition_masked (negated : Bool) (p : Predicate) :
    (Node.ofPredicate p.masked).condition negated
      = ((Node.ofPredicate p).condition negated).mapTests Test.masked := by
  rw [Node.ofPredicate_eq, Node.ofPredicate_eq, masked]
  cases p.criterion with
  | equals v => simp [Criterion.masked, Node.condition, Condition.mapTests, Test.masked]
  | bounded b v =>
    simp [Criterion.masked, Node.condition, Condition.ofRange, Condition.mapTests, Test.masked]
  | among vs =>
    cases vs <;> simp [Criterion.masked, Node.condition, Condition.mapTests, Test.masked]
  | between first second =>
    cases negated <;> simp [Criterion.masked, Node.condition, Condition.ofRange,
      Condition.mapTests, Condition.mapTestsOf, Test.masked]
  | near place => simp [Criterion.masked, Node.condition, Condition.mapTests, Test.masked]

theorem condition_ofAlternative (p : Predicate) : (Node.ofAlternative p).condition false
    = if p.negated then .parens (.all [.all [(Node.ofPredicate p).condition true]])
      else (Node.ofPredicate p).condition false := by
  unfold Node.ofAlternative
  cases p.negated with
  | false => rfl
  | true => simp [Node.condition, Node.conditions, Condition.join, Condition.ofGroup]

theorem quoted_ofAlternative (p : Predicate) :
    ((Node.ofAlternative p).condition false).tests.flatMap Test.quoted = p.quoted := by
  rw [condition_ofAlternative]
  cases p.negated with
  | false => exact quoted_condition false p
  | true => simpa [Condition.tests, Condition.testsOf] using quoted_condition true p

theorem ofAlternative_masked (p : Predicate) : (Node.ofAlternative p.masked).condition false
    = ((Node.ofAlternative p).condition false).mapTests Test.masked := by
  rw [condition_ofAlternative, condition_ofAlternative, condition_masked, condition_masked]
  change (if p.negated then _ else _) = _
  cases p.negated with
  | false => rfl
  | true => simp [Condition.mapTests, Condition.mapTestsOf]

end Predicate

namespace FullText

def quoted (clause : FullText) : String :=
  "@" ++ clause.field ++ " " ++ clause.keywords

def masked (_ : FullText) : FullText :=
  ⟨maskText, maskText⟩

end FullText

namespace Clauses

def quoted (matching : List FullText) (c : Clauses Predicate) : List String :=
  matching.map FullText.quoted ++ c.must.flatMap Predicate.quoted
    ++ c.should.flatMap Predicate.quoted ++ c.mustNot.flatMap Predicate.quoted

def masked (c : Clauses Predicate) : Clauses Predicate where
  must := c.must.map Predicate.masked
  should := c.should.map Predicate.masked
  mustNot := c.mustNot.map Predicate.masked

/-- The clauses in the order of the structured form, which has negated predicates that must hold
among those that must not, and the other way round. -/
def regrouped (c : Clauses Predicate) : Clauses Predicate where
  must := (c.must.filter fun p => !p.negated) ++ c.mustNot.filter fun p => p.negated
  should := c.should
  mustNot := (c.must.filter fun p => p.negated) ++ c.mustNot.filter fun p => !p.negated

variable {matching : List FullText} {c : Clauses Predicate}

theorem quoted_map {α : Type} {f : α → Condition} {quoted : α → List String}
    (h : ∀ a, (f a).tests.flatMap Test.quoted = quoted a) (as : List α) :
    ((as.map f).flatMap Condition.tests).flatMap Test.quoted = as.flatMap quoted := by
  rw [List.flatMap_map, List.flatMap_assoc]
  exact List.flatMap_congr fun a _ => h a

theorem masked_map {α : Type} {mask : α → α} {f : α → Condition}
    (h : ∀ a, f (mask a) = (f a).mapTests Test.masked) (as : List α) :
    (as.map mask).map f = (as.map f).map (Condition.mapTests Test.masked) := by
  rw [List.map_map, List.map_map]
  exact List.map_congr_left fun a _ => h a

theorem quoted_whereCondition :
    ((c.whereCondition matching).toList.flatMap Condition.tests).flatMap Test.quoted
      = c.quoted matching := by
  have hpredicates : ∀ (negated : Bool) (ps : List Predicate),
      ((ps.map (Predicate.condition negated)).flatMap Condition.tests).flatMap Test.quoted
        = ps.flatMap Predicate.quoted :=
    fun _ => quoted_map fun p => Predicate.quoted_condition _ p
  have hmatching : ((matching.map fun m => Condition.test false (.fullText m)).flatMap
      Condition.tests).flatMap Test.quoted = matching.map FullText.quoted := by
    refine (quoted_map (fun m => ?_) matching).trans List.map_eq_flatMap.symm
    simp [Condition.tests, Test.quoted, FullText.quoted]
  rw [whereCondition, Condition.tests_join]
  simp only [List.flatMap_append, hpredicates, hmatching, quoted]

theorem quoted_toNodes :
    ((c.toNodes matching).condition.toList.flatMap Condition.tests).flatMap Test.quoted
      = c.regrouped.quoted matching := by
  have hpredicates : ∀ (negated : Bool) (ps : List Predicate),
      ((ps.map (Node.condition negated ∘ Node.ofPredicate)).flatMap Condition.tests).flatMap
        Test.quoted = ps.flatMap Predicate.quoted :=
    fun _ => quoted_map fun p => Predicate.quoted_condition _ p
  have hshould : ((c.should.map (Node.condition false ∘ Node.ofAlternative)).flatMap
      Condition.tests).flatMap Test.quoted = c.should.flatMap Predicate.quoted :=
    quoted_map (fun p => Predicate.quoted_ofAlternative p) c.should
  have hmatching : ((matching.map (Node.condition false ∘ Node.fullText)).flatMap
      Condition.tests).flatMap Test.quoted = matching.map FullText.quoted := by
    refine (quoted_map (fun m => ?_) matching).trans List.map_eq_flatMap.symm
    simp [Node.condition, Condition.tests, Test.quoted, FullText.quoted]
  rw [Clauses.condition, Condition.tests_join, toNodes]
  simp only [List.map_append, List.map_map, List.flatMap_append, hpredicates, hmatching, hshould,
    quoted, regrouped, List.flatMap_nil, List.nil_append, List.append_assoc]

theorem whereCondition_masked :
    c.masked.whereCondition (matching.map FullText.masked)
      = (c.whereCondition matching).map (Condition.mapTests Test.masked) := by
  have hpredicates : ∀ (negated : Bool) (ps : List Predicate),
      (ps.map Predicate.masked).map (Predicate.condition negated)
        = (ps.map (Predicate.condition negated)).map (Condition.mapTests Test.masked) :=
    fun _ => masked_map fun p => Predicate.condition_masked _ p
  have hmatching : (matching.map FullText.masked).map (fun m => Condition.test false (.fullText m))
      = (matching.map fun m => Condition.test false (.fullText m)).map
        (Condition.mapTests Test.masked) :=
    masked_map (fun m => by simp [Condition.mapTests, Test.masked, FullText.masked]) matching
  rw [whereCondition, whereCondition, ← Condition.join_mapTests]
  simp only [masked, hpredicates, hmatching]

theorem condition_toNodes_masked :
    (c.masked.toNodes (matching.map FullText.masked)).condition
      = (c.toNodes matching).condition.map (Condition.mapTests Test.masked) := by
  have hnodes : ∀ {α : Type} {mask : α → α} {node : α → Node} (negated : Bool),
      (∀ a, (node (mask a)).condition negated
        = ((node a).condition negated).mapTests Test.masked) → ∀ as : List α,
      ((as.map mask).map node).map (Node.condition negated)
        = ((as.map node).map (Node.condition negated)).map (Condition.mapTests Test.masked) := by
    intro α mask node negated h as
    have hmap := masked_map (f := Node.condition negated ∘ node) h as
    rwa [← List.map_map, ← List.map_map] at hmap
  have hpredicates : ∀ (negated : Bool) (keep : Bool → Bool) (ps : List Predicate),
      (((ps.map Predicate.masked).filter fun p => keep p.negated).map Node.ofPredicate).map
        (Node.condition negated)
      = (((ps.filter fun p => keep p.negated).map Node.ofPredicate).map
        (Node.condition negated)).map (Condition.mapTests Test.masked) := by
    intro negated keep ps
    rw [List.filter_map]
    exact hnodes negated (fun p => Predicate.condition_masked _ p) _
  have hshould := hnodes false (fun p => Predicate.ofAlternative_masked p) c.should
  have hmatching : ((matching.map FullText.masked).map Node.fullText).map (Node.condition false)
      = ((matching.map Node.fullText).map (Node.condition false)).map
        (Condition.mapTests Test.masked) := by
    refine hnodes false (fun m => ?_) matching
    simp [Node.condition, Condition.mapTests, Test.masked, FullText.masked]
  have hjoin := @Condition.join_mapTests [] ((c.toNodes matching).must.map (Node.condition false))
    ((c.toNodes matching).should.map (Node.condition false))
    ((c.toNodes matching).mustNot.map (Node.condition true)) Test.masked
  rw [Clauses.condition, Clauses.condition, ← hjoin]
  simp only [toNodes, masked, List.map_append, List.map_nil, hmatching, hshould,
    hpredicates false (!·), hpredicates false (·), hpredicates true (!·), hpredicates true (·)]

end Clauses

/-! ### Queries -/

namespace Query

variable {κ : Type}

def quoted (q : Query κ) : List String :=
  q.clauses.quoted q.matching ++ q.sort.map (·.field)

/-- The query without the texts that its statements quote. -/
def masked (q : Query κ) : Query κ :=
  { q with matching := q.matching.map FullText.masked
           clauses := q.clauses.masked
           sort := q.sort.map SortKey.masked }

theorem statement_masked (q : Query κ) (index : String) (settings : Settings) :
    q.masked.statement index settings = (q.statement index settings).masked := by
  simp [statement, masked, Statement.masked, Clauses.whereCondition_masked, matchLimit]

theorem request_masked (q : Query κ) (index : String) (settings : Settings) :
    (q.masked.request index settings).statement = (q.request index settings).statement.masked := by
  simp [request, Request.statement, masked, Statement.masked, Clauses.condition_toNodes_masked,
    matchLimit]

theorem plain_statement {q : Query κ} {index : String} (settings : Settings)
    (hplain : q.isTabular = false) (hindex : ∀ c ∈ index.toList, c ≠ '\'' ∧ c ≠ '\x60') :
    (q.statement index settings).Plain ∧ (q.request index settings).statement.Plain := by
  have hsource : index.toList.all (fun c => c != '\'' && c != '\x60') = true := by
    rw [List.all_eq_true]
    intro c hc
    rw [Bool.and_eq_true, bne_iff_ne, bne_iff_ne]
    exact hindex c hc
  simp only [isTabular, Bool.or_eq_false_iff, Bool.not_eq_false', List.isEmpty_iff] at hplain
  obtain ⟨⟨hgroupBy, hhaving⟩, hselect⟩ := hplain
  exact ⟨⟨hselect, hgroupBy, hhaving, hsource⟩, ⟨rfl, rfl, rfl, hsource⟩⟩

/-- **The texts of a query stay in their places.**  Read from left to right, its statement ends
outside quotes, has exactly these texts between them, and has outside of them what it has for any
other texts; so does the statement of its structured form. -/
theorem texts_stay_quoted (q : Query κ) (index : String) (settings : Settings)
    (hplain : q.isTabular = false) (hindex : ∀ c ∈ index.toList, c ≠ '\'' ∧ c ≠ '\x60') :
    (∃ ps ms, Sql.scan (q.statement index settings).text = some ps
      ∧ Sql.scan (q.masked.statement index settings).text = some ms
      ∧ quotedTexts ps = q.quoted ∧ Sql.bareText ps = Sql.bareText ms)
    ∧ ∃ ps ms, Sql.scan (q.request index settings).statement.text = some ps
      ∧ Sql.scan (q.masked.request index settings).statement.text = some ms
      ∧ quotedTexts ps = { q with clauses := q.clauses.regrouped }.quoted
      ∧ Sql.bareText ps = Sql.bareText ms := by
  obtain ⟨hstatement, hrequest⟩ := plain_statement settings hplain hindex
  rw [statement_masked, request_masked]
  refine ⟨⟨_, _, (Statement.scans hstatement).scan, (Statement.scans hstatement.masked).scan, ?_,
    Sql.bareText_congr (Statement.bareChars_masked _).symm⟩, _, _,
    (Statement.scans hrequest).scan, (Statement.scans hrequest.masked).scan, ?_,
    Sql.bareText_congr (Statement.bareChars_masked _).symm⟩
  · rw [Statement.quotedTexts_pieces, quoted, ← Clauses.quoted_whereCondition]
    rfl
  · rw [Statement.quotedTexts_pieces, quoted, ← Clauses.quoted_toNodes]
    rfl

/-- Quotes, backslashes and backticks in every place, and a text that is a numeral. -/
theorem texts_stay_quoted_hostile :
    let p : Predicate :=
      { field := "a`b", criterion := .among [.text "x' OR '1", .text "2", .text "\\"]
        negated := true, named := by decide }
    let q : Query Unit :=
      { matching := [⟨"it's \\", "*"⟩], clauses := { must := [p] }, sort := [⟨"``", .descending⟩] }
    (∃ ps ms, Sql.scan (q.statement "notes" default).text = some ps
      ∧ Sql.scan (q.masked.statement "notes" default).text = some ms
      ∧ quotedTexts ps = q.quoted ∧ Sql.bareText ps = Sql.bareText ms)
    ∧ ∃ ps ms, Sql.scan (q.request "notes" default).statement.text = some ps
      ∧ Sql.scan (q.masked.request "notes" default).statement.text = some ms
      ∧ quotedTexts ps = { q with clauses := q.clauses.regrouped }.quoted
      ∧ Sql.bareText ps = Sql.bareText ms := by
  intro p q
  exact texts_stay_quoted q "notes" default rfl (by simp)

end Query

end SearchQuery
