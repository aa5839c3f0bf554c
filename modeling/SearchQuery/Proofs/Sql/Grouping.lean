import SearchQuery.Proofs.Sql.Formula
import SearchQuery.Proofs.Sql.Words

/-!
# The groups of a test

Tokens put together to items by their parentheses, and the items of a test.

* `Groups`, `Shows`: tokens, and pieces, that are put together to items whatever stands around
  them.
* `Test.shows`: a test falls into the items that its structure has.
-/

namespace SearchQuery.Sql

/-! ### Groups -/

namespace Item

theorem ofTokensFrom_token {t : Token} (hopen : t ≠ .mark '(') (hclose : t ≠ .mark ')')
    (outer : List (List Item)) (items : List Item) (rest : List Token) :
    ofTokensFrom outer items (t :: rest) = ofTokensFrom outer (items ++ [.token t]) rest := by
  rw [ofTokensFrom.eq_def]
  simp [hopen, hclose]

theorem ofTokensFrom_open (outer : List (List Item)) (items : List Item) (rest : List Token) :
    ofTokensFrom outer items (.mark '(' :: rest) = ofTokensFrom (items :: outer) [] rest := by
  rw [ofTokensFrom.eq_def]
  rfl

theorem ofTokensFrom_close (above : List Item) (outer : List (List Item)) (items : List Item)
    (rest : List Token) :
    ofTokensFrom (above :: outer) items (.mark ')' :: rest)
      = ofTokensFrom outer (above ++ [.group items]) rest := by
  rw [ofTokensFrom.eq_def]
  rfl

end Item

/-- The tokens are put together to these items, whatever stands around them. -/
def Groups (ts : List Token) (is : List Item) : Prop :=
  ∀ outer items rest,
    Item.ofTokensFrom outer items (ts ++ rest) = Item.ofTokensFrom outer (items ++ is) rest

theorem Groups.ofTokens? {ts : List Token} {is : List Item} (h : Groups ts is) :
    Item.ofTokens? ts = some is := by
  have hnil := h [] [] []
  rwa [List.append_nil] at hnil

theorem groups_nil : Groups [] [] := by
  intro outer items rest
  rw [List.nil_append, List.append_nil]

theorem Groups.append {ts us : List Token} {is js : List Item} (ht : Groups ts is)
    (hu : Groups us js) : Groups (ts ++ us) (is ++ js) := by
  intro outer items rest
  rw [List.append_assoc, ht, hu, List.append_assoc]

theorem groups_tokens (ts : List Token) (h : ∀ t ∈ ts, t ≠ .mark '(' ∧ t ≠ .mark ')') :
    Groups ts (ts.map .token) := by
  intro outer items rest
  induction ts generalizing items with
  | nil => rw [List.map_nil, List.append_nil, List.nil_append]
  | cons t ts ih =>
    obtain ⟨hopen, hclose⟩ := h t List.mem_cons_self
    rw [List.cons_append, Item.ofTokensFrom_token hopen hclose,
      ih fun u hu => h u (List.mem_cons_of_mem t hu), List.map_cons, List.append_assoc,
      List.singleton_append]

theorem Groups.parens {ts : List Token} {is : List Item} (h : Groups ts is) :
    Groups (.mark '(' :: (ts ++ [.mark ')'])) [.group is] := by
  intro outer items rest
  rw [List.cons_append, Item.ofTokensFrom_open, List.append_assoc, h, List.singleton_append,
    Item.ofTokensFrom_close, List.nil_append]

theorem Groups.intercalate {between : List Token} {joint : List Item}
    (hbetween : Groups between joint) {tss : List (List Token)} {iss : List (List Item)}
    (h : List.Forall₂ Groups tss iss) :
    Groups (List.intercalate between tss) (List.intercalate joint iss) := by
  induction h with
  | nil => exact groups_nil
  | cons hfirst hrest ih =>
    cases hrest with
    | nil => simpa [List.intercalate] using hfirst
    | cons hsecond hrest =>
      rw [List.intercalate_cons_cons, List.intercalate_cons_cons]
      exact (hfirst.append hbetween).append ih

/-! ### Tests -/

def valueTokens (vs : List Scalar) : List Token :=
  List.intercalate [.mark ','] (vs.map fun v => [operandToken v])

def distanceTokens (place : Vicinity) : List Token :=
  .name place.latitudeField :: .mark ',' :: .name place.longitudeField :: .mark ','
    :: .word (Decimal.plain.text place.latitude) :: .mark ','
    :: .word (Decimal.plain.text place.longitude) :: .mark ',' :: distanceUnits

def Test.items (negated : Bool) : Test → List Item
  | .equals field v =>
    [.token (.name field), .word (if negated then "<>" else "="), .token (operandToken v)]
  | .bounded field b v =>
    [.token (.name field), .word (if negated then b.complement else b).sign,
      .token (operandToken v)]
  | .among field vs =>
    .token (.name field) :: ((if negated then [.word "NOT", .word "IN"] else [.word "IN"])
      ++ [.group ((valueTokens vs).map .token)])
  | .near place =>
    [.word "GEODIST", .group ((distanceTokens place).map .token),
      .word (if negated then ">=" else "<"), .word (Decimal.plain.text place.distance)]
  | .fullText clause =>
    (if negated then [.word "NOT"] else []) ++ [.word "MATCH",
      .group [.token (.literal ("@" ++ clause.field ++ " " ++ clause.keywords))]]

end SearchQuery.Sql

namespace SearchQuery

structure Vicinity.Finite (place : Vicinity) : Prop where
  latitude : place.latitude.isFinite = true
  longitude : place.longitude.isFinite = true
  distance : place.distance.isFinite = true

namespace Sql

/-- The text of the test can be read: there is a value to be among, and numbers are finite. -/
def Test.Readable : Test → Prop
  | .among _ vs => vs ≠ []
  | .near place => place.Finite
  | _ => True

theorem operandToken_ne_mark (v : Scalar) (c : Char) : operandToken v ≠ .mark c := by
  unfold operandToken
  split <;> simp

theorem mem_valueTokens {vs : List Scalar} {t : Token} (h : t ∈ valueTokens vs) :
    t = .mark ',' ∨ ∃ v ∈ vs, t = operandToken v := by
  induction vs with
  | nil => exact absurd h (by simp [valueTokens])
  | cons v vs ih =>
    cases vs with
    | nil => exact .inr ⟨v, List.mem_cons_self, by simpa [valueTokens] using h⟩
    | cons v' vs =>
      rw [valueTokens, List.map_cons, List.map_cons, List.intercalate_cons_cons,
        List.append_assoc, List.singleton_append, List.mem_cons, List.singleton_append,
        List.mem_cons] at h
      rcases h with h | h | h
      · exact .inr ⟨v, List.mem_cons_self, h⟩
      · exact .inl h
      · rcases ih h with h | ⟨u, hu, h⟩
        · exact .inl h
        · exact .inr ⟨u, List.mem_cons_of_mem v hu, h⟩

theorem groups_valueTokens (vs : List Scalar) :
    Groups (valueTokens vs) ((valueTokens vs).map .token) := by
  refine groups_tokens _ fun t ht => ?_
  rcases mem_valueTokens ht with rfl | ⟨v, -, rfl⟩
  · decide
  · exact ⟨operandToken_ne_mark v '(', operandToken_ne_mark v ')'⟩

theorem ofPieces_values (vs : List Scalar) :
    Token.ofPieces (List.intercalate (bares ", ") (vs.map operandPieces)) = valueTokens vs := by
  have hcomma : Token.ofPieces (bares ", ") = [.mark ','] := by decide +kernel
  rw [Token.ofPieces_intercalate (by decide) (by decide), hcomma, List.map_map, valueTokens]
  congr 1
  exact List.map_congr_left fun v _ => Token.ofPieces_operandPieces v

theorem ofPieces_distance {place : Vicinity} (h : place.Finite) :
    Token.ofPieces (distancePieces place)
      = .word "GEODIST" :: .mark '(' :: (distanceTokens place ++ [.mark ')']) := by
  have hcall : Token.ofPieces (bares "GEODIST(") = [.word "GEODIST", .mark '('] := by
    decide +kernel
  have hend : Token.ofPieces (bares ", {in=degrees, out=meters})")
      = .mark ',' :: (distanceUnits ++ [.mark ')']) := by decide +kernel
  have hcomma : Token.ofPieces (bares ", ") = [.mark ','] := by decide +kernel
  have hname : ∀ name ps, Token.ofPieces (.name name :: ps) = .name name :: Token.ofPieces ps :=
    fun _ _ => rfl
  rw [distancePieces, Token.ofPieces_append (.inl (by decide)), hcall, hname,
    Token.ofPieces_append (.inl (by decide)), hcomma, hname,
    Token.ofPieces_append (.inl (by decide)), hcomma,
    Token.ofPieces_append (.of_head (by decide) _ _),
    Token.ofPieces_numeral (Decimal.isNumeral_plain h.latitude),
    Token.ofPieces_append (.inl (by decide)), hcomma,
    Token.ofPieces_append (.inr (by decide)),
    Token.ofPieces_numeral (Decimal.isNumeral_plain h.longitude), hend]
  rfl

/-- The pieces fall into these items. -/
def Shows (ps : List Piece) (is : List Item) : Prop :=
  Groups (Token.ofPieces ps) is

theorem Shows.append {ps qs : List Piece} {is js : List Item} (hp : Shows ps is)
    (h : Parted ps qs) (hq : Shows qs js) : Shows (ps ++ qs) (is ++ js) := by
  rw [Shows, Token.ofPieces_append h]
  exact Groups.append hp hq

theorem Shows.name {ps : List Piece} {is : List Item} (name : String) (h : Shows ps is) :
    Shows (.name name :: ps) (.token (.name name) :: is) := by
  have hname : Groups [.name name] [.token (.name name)] :=
    groups_tokens [.name name] (by simp)
  exact Groups.append hname h

theorem shows_word {ps : List Piece} {text : String} (h : Token.ofPieces ps = [.word text]) :
    Shows ps [.word text] := by
  rw [Shows, h]
  exact groups_tokens [.word text] (by simp)

theorem shows_operand (v : Scalar) : Shows (operandPieces v) [.token (operandToken v)] := by
  rw [Shows, Token.ofPieces_operandPieces]
  refine groups_tokens [operandToken v] fun t ht => ?_
  rw [List.mem_singleton.mp ht]
  exact ⟨operandToken_ne_mark v '(', operandToken_ne_mark v ')'⟩

theorem Shows.parens {ps : List Piece} {is : List Item} (h : Shows ps is) :
    Shows (bares "(" ++ (ps ++ bares ")")) [.group is] := by
  have hopen : Token.ofPieces (bares "(") = [.mark '('] := by decide +kernel
  have hclose : Token.ofPieces (bares ")") = [.mark ')'] := by decide +kernel
  rw [Shows, Token.ofPieces_append (.inl (by decide)), Token.ofPieces_append (.inr (by decide)),
    hopen, hclose]
  exact Groups.parens h

theorem Shows.intercalate {between : List Piece} {joint : List Item}
    (hhead : between.head?.any Piece.apart = true) (hlast : between.getLast?.any Piece.apart = true)
    (hbetween : Shows between joint) {pss : List (List Piece)} {iss : List (List Item)}
    (h : List.Forall₂ Shows pss iss) :
    Shows (List.intercalate between pss) (List.intercalate joint iss) := by
  rw [Shows, Token.ofPieces_intercalate hhead hlast]
  refine Groups.intercalate hbetween ?_
  rw [List.forall₂_map_left_iff]
  exact h

theorem shows_distance {place : Vicinity} (h : place.Finite) :
    Shows (distancePieces place)
      [.word "GEODIST", .group ((distanceTokens place).map .token)] := by
  rw [Shows, ofPieces_distance h]
  have hcall : Groups [.word "GEODIST"] [.word "GEODIST"] :=
    groups_tokens [.word "GEODIST"] (by simp)
  refine hcall.append (Groups.parens (groups_tokens _ fun t ht => ?_))
  simp only [distanceTokens, distanceUnits, List.mem_cons, List.not_mem_nil, or_false] at ht
  rcases ht with rfl | rfl | rfl | rfl | rfl | rfl | rfl | rfl | rfl | rfl | rfl | rfl | rfl | rfl
    | rfl | rfl | rfl <;> simp

theorem shows_fullTextCall (query : String) :
    Shows (bares "MATCH(" ++ .literal query :: bares ")")
      [.word "MATCH", .group [.token (.literal query)]] := by
  have hcall : Groups [.word "MATCH"] [.word "MATCH"] :=
    groups_tokens [.word "MATCH"] (by simp)
  have hquery : Groups [.literal query] [.token (.literal query)] :=
    groups_tokens [.literal query] (by simp)
  have hopen : Token.ofPieces (bares "MATCH(") = [.word "MATCH", .mark '('] := by decide +kernel
  rw [Shows, Token.ofPieces_append (.inl (by decide)), hopen]
  exact hcall.append hquery.parens

/-- **A test falls into its items**, in both polarities. -/
theorem Test.shows (negated : Bool) {t : Test} (h : t.Readable) :
    Shows (t.pieces negated) (t.items negated) := by
  cases t with
  | equals field v =>
    have hsign : Shows (bares (if negated then " <> " else " = "))
        [.word (if negated then "<>" else "=")] := by
      cases negated <;> exact shows_word (by decide +kernel)
    refine (hsign.append (.inl ?_) (shows_operand v)).name field
    cases negated <;> decide
  | bounded field b v =>
    have hsign : ∀ b : Bound, Shows (bares (" " ++ b.sign ++ " ")) [.word b.sign]
        ∧ (bares (" " ++ b.sign ++ " ")).getLast?.any Piece.apart = true := by
      intro b
      cases b <;> exact ⟨shows_word (by decide +kernel), by decide⟩
    obtain ⟨hshows, hlast⟩ := hsign (if negated then b.complement else b)
    exact (hshows.append (.inl hlast) (shows_operand v)).name field
  | among field vs =>
    have hvalues : Shows (List.intercalate (bares ", ") (vs.map operandPieces))
        ((valueTokens vs).map .token) := by
      rw [Shows, ofPieces_values]
      exact groups_valueTokens vs
    have hin : Shows (bares (if negated then " NOT IN " else " IN "))
        (if negated then [.word "NOT", .word "IN"] else [.word "IN"]) := by
      cases negated with
      | false => exact shows_word (by decide +kernel)
      | true =>
        have hwords : Token.ofPieces (bares " NOT IN ") = [.word "NOT", .word "IN"] := by
          decide +kernel
        rw [if_pos rfl, if_pos rfl, Shows, hwords]
        exact groups_tokens [.word "NOT", .word "IN"] (by simp)
    have hsplit : bares (if negated then " NOT IN (" else " IN (")
        = bares (if negated then " NOT IN " else " IN ") ++ bares "(" := by
      cases negated <;> decide +kernel
    rw [Test.pieces, hsplit, List.append_assoc]
    refine (hin.append (.inl ?_) hvalues.parens).name field
    cases negated <;> decide
  | near place =>
    have hsign : Shows (bares (if negated then " >= " else " < "))
        [.word (if negated then ">=" else "<")] := by
      cases negated <;> exact shows_word (by decide +kernel)
    have hnumber := shows_word (Token.ofPieces_numeral (Decimal.isNumeral_plain h.distance))
    refine (shows_distance h).append (.of_head ?_ _ _) (hsign.append (.inl ?_) hnumber)
    · cases negated <;> decide
    · cases negated <;> decide
  | fullText clause =>
    cases negated with
    | false => exact shows_fullTextCall _
    | true =>
      have hnot : bares "NOT MATCH(" = bares "NOT " ++ bares "MATCH(" := by decide +kernel
      have hword : Shows (bares "NOT ") [.word "NOT"] := shows_word (by decide +kernel)
      rw [Test.pieces, if_pos rfl, hnot, List.append_assoc]
      exact hword.append (.inl (by decide)) (shows_fullTextCall _)

end Sql

end SearchQuery
