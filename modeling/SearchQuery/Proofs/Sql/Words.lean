import SearchQuery.Proofs.Sql.Layout
import SearchQuery.Proofs.Sql.Token

/-!
# Pieces are put together to words

* `Token.ofPieces_append`, `Token.ofPieces_intercalate`: pieces are put together one part after
  another, if no word reaches from one part into the next (`Parted`).
* `Token.ofPieces_numeral`, `Token.ofPieces_operandPieces`: a numeral is one word, and a value one
  token.
-/

namespace SearchQuery.Sql

/-- A piece that no word reaches over. -/
def Piece.apart : Piece → Bool
  | .bare c => CharKind.of c == .blank || CharKind.of c == .mark
  | _ => true

/-- No word reaches from the first pieces into the others. -/
def Parted (ps qs : List Piece) : Prop :=
  ps.getLast?.any Piece.apart = true ∨ qs.head?.all Piece.apart = true

instance (ps qs : List Piece) : Decidable (Parted ps qs) :=
  inferInstanceAs (Decidable (_ ∨ _))

theorem Parted.of_head {qs : List Piece} (h : qs.head?.any Piece.apart = true)
    (ps rs : List Piece) : Parted ps (qs ++ rs) := by
  cases qs with
  | nil => exact absurd h (by simp)
  | cons q qs => exact .inr h

namespace Token

/-- A piece adds tokens to what has been put together, and begins or goes on with a word, unless no
word reaches over it. -/
theorem ofPiecesFrom_cons (word : List Char) (p : Piece) :
    ∃ ts next, (∀ ps, ofPiecesFrom word (p :: ps) = ts ++ ofPiecesFrom next ps)
      ∧ (p.apart = true → next = []) := by
  cases p with
  | literal text => exact ⟨ofWord word ++ [.literal text], [], by simp [ofPiecesFrom], by simp⟩
  | name text => exact ⟨ofWord word ++ [.name text], [], by simp [ofPiecesFrom], by simp⟩
  | bare c =>
    cases hkind : CharKind.of c with
    | blank => exact ⟨ofWord word, [], by simp [ofPiecesFrom, hkind], by simp⟩
    | mark => exact ⟨ofWord word ++ [.mark c], [], by simp [ofPiecesFrom, hkind], by simp⟩
    | sign | letter =>
      have hapart : (Piece.bare c).apart ≠ true := by simp [Piece.apart, hkind]
      by_cases hword : (word.all fun d => CharKind.of d = CharKind.of c) = true
      · rw [hkind] at hword
        exact ⟨[], word ++ [c], by simp [ofPiecesFrom, hkind, hword], (absurd · hapart)⟩
      · rw [hkind] at hword
        exact ⟨ofWord word, [c], by simp [ofPiecesFrom, hkind, hword], (absurd · hapart)⟩

/-- A word ends where a piece follows that no word reaches over. -/
theorem ofPiecesFrom_of_head {qs : List Piece} (h : qs.head?.all Piece.apart = true)
    (word : List Char) : ofPiecesFrom word qs = ofWord word ++ ofPiecesFrom [] qs := by
  cases qs with
  | nil => simp [ofPiecesFrom, ofWord]
  | cons p qs =>
    cases p with
    | literal text => simp [ofPiecesFrom, ofWord]
    | name text => simp [ofPiecesFrom, ofWord]
    | bare c =>
      cases hkind : CharKind.of c with
      | blank => simp [ofPiecesFrom, ofWord, hkind]
      | mark => simp [ofPiecesFrom, ofWord, hkind]
      | sign => exact absurd h (by simp [Piece.apart, hkind])
      | letter => exact absurd h (by simp [Piece.apart, hkind])

/-- The word under way when the first pieces end is the only one that could reach further. -/
theorem ofPiecesFrom_append {ps qs : List Piece} (h : Parted ps qs) (word : List Char) :
    ofPiecesFrom word (ps ++ qs) = ofPiecesFrom word ps ++ ofPiecesFrom [] qs := by
  induction ps generalizing word with
  | nil =>
    rcases h with h | h
    · exact absurd h (by simp)
    · exact ofPiecesFrom_of_head h word
  | cons p ps ih =>
    obtain ⟨ts, next, hstep, hapart⟩ := ofPiecesFrom_cons word p
    rw [List.cons_append, hstep, hstep, List.append_assoc]
    congr 1
    cases ps with
    -- Only behind the last piece does it matter which of the two sides parts the words.
    | nil =>
      rcases h with h | h
      · rw [hapart (by simpa using h)]
        rfl
      · exact ih (.inr h) next
    | cons p' ps => exact ih (by simpa [Parted] using h) next

/-- **Pieces are put together one part after another.** -/
theorem ofPieces_append {ps qs : List Piece} (h : Parted ps qs) :
    ofPieces (ps ++ qs) = ofPieces ps ++ ofPieces qs :=
  ofPiecesFrom_append h []

theorem ofPieces_intercalate {between : List Piece} (hhead : between.head?.any Piece.apart = true)
    (hlast : between.getLast?.any Piece.apart = true) (pss : List (List Piece)) :
    ofPieces (List.intercalate between pss)
      = List.intercalate (ofPieces between) (pss.map ofPieces) := by
  induction pss with
  | nil => rfl
  | cons ps pss ih =>
    cases pss with
    | nil => simp [List.intercalate]
    | cons ps' pss =>
      rw [List.intercalate_cons_cons, List.append_assoc, ofPieces_append (.of_head hhead _ _),
        ofPieces_append (.inl hlast), ih, List.map_cons, List.map_cons, List.map_cons,
        List.intercalate_cons_cons, List.append_assoc]

theorem ofPiecesFrom_bares {kind : CharKind} (hkind : kind = .sign ∨ kind = .letter)
    {word cs : List Char} (hword : ∀ c ∈ word, CharKind.of c = kind)
    (hcs : ∀ c ∈ cs, CharKind.of c = kind) :
    ofPiecesFrom word (cs.map .bare) = ofWord (word ++ cs) := by
  induction cs generalizing word with
  | nil => rw [List.map_nil, List.append_nil, ofPiecesFrom]
  | cons c cs ih =>
    have hc : CharKind.of c = kind := hcs c List.mem_cons_self
    have hall : (word.all fun d => CharKind.of d = kind) = true := by
      rw [List.all_eq_true]
      exact fun d hd => decide_eq_true (hword d hd)
    have hnext : ∀ d ∈ word ++ [c], CharKind.of d = kind := by
      intro d hd
      rcases List.mem_append.mp hd with hd | hd
      · exact hword d hd
      · rw [List.mem_singleton.mp hd, hc]
    have hstep := ih hnext fun d hd => hcs d (List.mem_cons_of_mem c hd)
    rw [List.append_assoc, List.singleton_append] at hstep
    rw [List.map_cons, ofPiecesFrom, hc]
    rcases hkind with rfl | rfl
    · simp only [hall, if_true]
      exact hstep
    · simp only [hall, if_true]
      exact hstep

theorem ofPieces_letters {text : String} (hne : text.toList ≠ [])
    (h : ∀ c ∈ text.toList, CharKind.of c = .letter) : ofPieces (bares text) = [.word text] := by
  rw [ofPieces, bares, ofPiecesFrom_bares (.inr rfl) (by simp) h, List.nil_append, ofWord]
  simp [hne]

end Token

theorem CharKind.of_isNumeralChar {c : Char} (h : Decimal.isNumeralChar c = true) :
    CharKind.of c = .letter := by
  unfold CharKind.of
  split
  · next hblank =>
    simp only [Char.isWhitespace, Bool.or_eq_true, decide_eq_true_eq] at hblank
    rcases hblank with ((rfl | rfl) | rfl) | rfl <;> exact absurd h (by decide)
  · split
    · next hmark =>
      simp only [List.contains_eq_mem, decide_eq_true_eq, List.mem_cons, List.not_mem_nil,
        or_false] at hmark
      rcases hmark with rfl | rfl | rfl | rfl | rfl <;> exact absurd h (by decide)
    · split
      · next hsign =>
        simp only [List.contains_eq_mem, decide_eq_true_eq, List.mem_cons, List.not_mem_nil,
          or_false] at hsign
        rcases hsign with rfl | rfl | rfl <;> exact absurd h (by decide)
      · rfl

theorem Token.ofPieces_numeral {text : String} (h : Decimal.isNumeral text = true) :
    ofPieces (bares text) = [.word text] :=
  ofPieces_letters (Decimal.toList_ne_nil_of_isNumeral h) fun _ hc =>
    CharKind.of_isNumeralChar (Decimal.isNumeralChar_of_mem h hc)

def operandToken (v : Scalar) : Token :=
  if v.isNumeric then .word v.content else .literal v.content

theorem Token.ofPieces_operandPieces (v : Scalar) :
    ofPieces (operandPieces v) = [operandToken v] := by
  rw [operandPieces, operandToken]
  cases h : v.isNumeric with
  | true => exact ofPieces_numeral (Scalar.isNumeral_content h)
  | false => rfl

end SearchQuery.Sql
