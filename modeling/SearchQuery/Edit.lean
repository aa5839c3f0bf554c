import SearchQuery.Query

/-!
# Wishes about queries

The setters by which a query is made, one wish at a time.  Those that test a field may refuse the
wish.  Setters of one family are one definition for different lists, signs and directions; they only
add to the lists of a query, and the setters of single values replace them.
-/

namespace SearchQuery

inductive ClauseList where
  | must
  | should
  | mustNot
  deriving DecidableEq, Repr

def Clauses.push {α : Type} (c : Clauses α) (a : α) : ClauseList → Clauses α
  | .must => { c with must := c.must ++ [a] }
  | .should => { c with should := c.should ++ [a] }
  | .mustNot => { c with mustNot := c.mustNot ++ [a] }

/-- Puts a value under a name in a list of first come, first kept places. -/
def setNamed {α : Type} (name : String) (value : α) : List (String × α) → List (String × α)
  | [] => [(name, value)]
  | (n, v) :: rest => if n = name then (n, value) :: rest else (n, v) :: setNamed name value rest

namespace Query

variable {κ : Type} (q : Query κ)

/-! ### Predicates -/

def push (list : ClauseList) (p : Predicate) : Query κ :=
  { q with clauses := q.clauses.push p list }

def filter (p : Predicate) : Query κ :=
  q.push .must p

/-- Compares a field with a value by a sign, in one of the lists. -/
def compare (list : ClauseList) (field sign : String) (value : Scalar) : Except Error (Query κ) :=
  (Predicate.compare field sign value).map (q.push list)

def whereOp (field sign : String) (value : Scalar) : Except Error (Query κ) :=
  q.compare .must field sign value

def whereEq (field : String) (value : Scalar) : Except Error (Query κ) :=
  q.whereOp field "=" value

def orWhereOp (field sign : String) (value : Scalar) : Except Error (Query κ) :=
  q.compare .should field sign value

def orWhere (field : String) (value : Scalar) : Except Error (Query κ) :=
  q.orWhereOp field "=" value

def whereNotOp (field sign : String) (value : Scalar) : Except Error (Query κ) :=
  q.compare .mustNot field sign value

def whereNot (field : String) (value : Scalar) : Except Error (Query κ) :=
  q.whereNotOp field "=" value

/-- Asks for a field that is one of the values, or that is none of them. -/
def choose (negated : Bool) (field : String) (values : List Scalar) : Except Error (Query κ) :=
  (Predicate.isIn field values).map fun p => q.push .must (if negated then p.negate else p)

def whereIn (field : String) (values : List Scalar) : Except Error (Query κ) :=
  q.choose false field values

def whereNotIn (field : String) (values : List Scalar) : Except Error (Query κ) :=
  q.choose true field values

def whereBetween (field : String) (low high : Scalar) : Except Error (Query κ) :=
  (Predicate.between field low high).map (q.push .must)

def whereNear (source : String) (latitude longitude distance : Float) : Except Error (Query κ) :=
  (Predicate.near source latitude longitude distance).map (q.push .must)

/-! ### Full text and order -/

def addFullText (clause : FullText) : Query κ :=
  { q with matching := q.matching ++ [clause] }

def matchText (keywords : String) : Query κ :=
  q.addFullText (.anywhere keywords)

def matchField (field keywords : String) : Query κ :=
  q.addFullText { keywords, field }

def orderBy (field : String) (direction : Direction) : Query κ :=
  { q with sort := q.sort ++ [{ field, direction }] }

def orderByDesc (field : String) : Query κ :=
  q.orderBy field .descending

/-! ### Relations -/

def addLoad (load : EagerLoad κ) : Query κ :=
  { q with eager := q.eager ++ [load] }

def withRelation (relation : String) : Query κ :=
  q.addLoad { relation }

def withColumns (relation : String) (columns : List String) : Query κ :=
  q.addLoad { relation, projection := some columns }

def withScope (relation : String) (scope : κ) : Query κ :=
  q.addLoad { relation, scope := some scope }

end Query

/-- A call of a setter. -/
inductive Edit (κ : Type) where
  | filter (predicate : Predicate)
  | whereEq (field : String) (value : Scalar)
  | whereOp (field sign : String) (value : Scalar)
  | orWhere (field : String) (value : Scalar)
  | orWhereOp (field sign : String) (value : Scalar)
  | whereNot (field : String) (value : Scalar)
  | whereNotOp (field sign : String) (value : Scalar)
  | whereIn (field : String) (values : List Scalar)
  | whereNotIn (field : String) (values : List Scalar)
  | whereBetween (field : String) (low high : Scalar)
  | whereNear (source : String) (latitude longitude distance : Float)
  | matchText (keywords : String)
  | matchField (field keywords : String)
  | orderBy (field : String) (direction : Direction)
  | orderByDesc (field : String)
  | limit (n : UInt64)
  | offset (n : UInt64)
  | maxMatches (n : UInt64)
  | withHighlight
  | aggregate (name field : String) (size : Option UInt64)
  | select (columns : List String)
  | groupBy (columns : List String)
  | having (condition : String)
  | rawQuery (sql : String) (mode : AnswerMode)
  | withRelation (relation : String)
  | withColumns (relation : String) (columns : List String)
  | withScope (relation : String) (scope : κ)

/-- The query with one more wish, or why the wish cannot be granted. -/
def Query.edit {κ : Type} (q : Query κ) : Edit κ → Except Error (Query κ)
  | .filter p => .ok (q.filter p)
  | .whereEq field value => q.whereEq field value
  | .whereOp field sign value => q.whereOp field sign value
  | .orWhere field value => q.orWhere field value
  | .orWhereOp field sign value => q.orWhereOp field sign value
  | .whereNot field value => q.whereNot field value
  | .whereNotOp field sign value => q.whereNotOp field sign value
  | .whereIn field values => q.whereIn field values
  | .whereNotIn field values => q.whereNotIn field values
  | .whereBetween field low high => q.whereBetween field low high
  | .whereNear source latitude longitude distance =>
    q.whereNear source latitude longitude distance
  | .matchText keywords => .ok (q.matchText keywords)
  | .matchField field keywords => .ok (q.matchField field keywords)
  | .orderBy field direction => .ok (q.orderBy field direction)
  | .orderByDesc field => .ok (q.orderByDesc field)
  | .limit n => .ok { q with limit := some n }
  | .offset n => .ok { q with offset := some n }
  | .maxMatches n => .ok { q with maxMatches := some n }
  | .withHighlight => .ok { q with highlight := true }
  | .aggregate name field size =>
    .ok { q with aggregations := setNamed name { field, size } q.aggregations }
  | .select columns => .ok { q with select := q.select ++ columns }
  | .groupBy columns => .ok { q with groupBy := q.groupBy ++ columns }
  | .having condition => .ok { q with having := q.having ++ [condition] }
  | .rawQuery sql mode => .ok { q with raw := some { sql, mode } }
  | .withRelation relation => .ok (q.withRelation relation)
  | .withColumns relation columns => .ok (q.withColumns relation columns)
  | .withScope relation scope => .ok (q.withScope relation scope)

end SearchQuery
