import SearchQuery.Proofs.Identifier

/-!
# What casts do

A cast turns a whole number of seconds into a timestamp and `0` and `1` into a truth value, whether
the value is a number or a text.  It takes place after the fields have their names and the
identifier has moved, so that a record with casts differs from the record without them in the values
that are cast and in nothing else.

* `Json.asSecond?_eq_some_iff`, `Json.asFlag?_eq_some_iff`: which values are cast.
* `Cast.apply_dateTime`, `Cast.apply_boolean`, `Cast.apply_kept`: what becomes of a value.
* `Schema.normalize_casts`: a record beside the same record without casts.
* `Schema.casts_change_declared`: both together.
-/

namespace SearchQuery

/-! ### Values that are cast -/

namespace Json

/-- The value states a whole number: it is the number, or a text of its digits, with zeros before
them or without. -/
inductive Denotes : Json → Int → Prop where
  | number (n : Int) : Denotes (.number (.integer n)) n
  | digits (ds : List Char) (filled : ds ≠ []) (digits : ∀ d ∈ ds, d.isDigit = true) :
      Denotes (.string (String.ofList ds)) (Nat.ofDigitChars 10 ds 0)

/-- The value stands for a truth value: `0` is false and `1` is true. -/
inductive IsFlag : Json → Bool → Prop where
  | zero : IsFlag (.number (.integer 0)) false
  | one : IsFlag (.number (.integer 1)) true
  | zeroText : IsFlag (.string "0") false
  | oneText : IsFlag (.string "1") true

theorem map_toInt_signedWord? {n t : Int} :
    (signedWord? n).map Int64.toInt = some t
      ↔ n = t ∧ -9223372036854775808 ≤ t ∧ t ≤ 9223372036854775807 := by
  rw [signedWord?]
  by_cases hfits : -9223372036854775808 ≤ n ∧ n ≤ 9223372036854775807
  · rw [if_pos hfits, Option.map_some, Option.some.injEq,
      Int64.toInt_ofInt_of_le (by omega) (by omega)]
    omega
  · rw [if_neg hfits, Option.map_none]
    refine iff_of_false (by simp) ?_
    rintro ⟨rfl, hrange⟩
    exact hfits hrange

theorem denotes_string_iff {s : String} {t : Int} :
    (Json.string s).Denotes t
      ↔ (s.toList ≠ [] ∧ ∀ d ∈ s.toList, d.isDigit = true)
        ∧ Nat.ofDigitChars 10 s.toList 0 = t := by
  constructor
  · intro h
    generalize hv : Json.string s = v at h
    cases h with
    | number n => exact nomatch hv
    | digits ds filled digits =>
      obtain rfl := Json.string.inj hv
      rw [String.toList_ofList]
      exact ⟨⟨filled, digits⟩, rfl⟩
  · rintro ⟨⟨filled, digits⟩, rfl⟩
    have h := Denotes.digits s.toList filled digits
    rwa [String.ofList_toList] at h

theorem asSecond?_eq_some_iff {v : Json} {t : Int} :
    v.asSecond? = some t
      ↔ v.Denotes t ∧ -9223372036854775808 ≤ t ∧ t ≤ 9223372036854775807 := by
  have hother : (∀ n, v ≠ .number (.integer n)) → (∀ s, v ≠ .string s) → ¬ v.Denotes t := by
    intro hnumber hstring h
    cases h with
    | number => exact hnumber t rfl
    | digits ds filled digits => exact hstring _ rfl
  cases v with
  | string s =>
    rw [denotes_string_iff, asSecond?]
    by_cases hdigits : s.toList ≠ [] ∧ ∀ d ∈ s.toList, d.isDigit = true
    · rw [if_pos (by simpa using hdigits), and_iff_right hdigits]
      exact map_toInt_signedWord?
    · rw [if_neg (by simpa using hdigits)]
      exact iff_of_false (by simp) fun h => hdigits h.1.1
  | number n =>
    cases n with
    | integer n =>
      have hdenotes : (Json.number (.integer n)).Denotes t ↔ n = t := by
        constructor
        · intro h
          cases h
          rfl
        · rintro rfl
          exact .number n
      rw [hdenotes]
      exact map_toInt_signedWord?
    | float x =>
      exact iff_of_false (by simp [asSecond?, asInt64?]) fun h => hother (by simp) (by simp) h.1
  | null =>
    exact iff_of_false (by simp [asSecond?, asInt64?]) fun h => hother (by simp) (by simp) h.1
  | boolean b =>
    exact iff_of_false (by simp [asSecond?, asInt64?]) fun h => hother (by simp) (by simp) h.1
  | array items =>
    exact iff_of_false (by simp [asSecond?, asInt64?]) fun h => hother (by simp) (by simp) h.1
  | object members =>
    exact iff_of_false (by simp [asSecond?, asInt64?]) fun h => hother (by simp) (by simp) h.1

theorem asFlag?_eq_some_iff {v : Json} {b : Bool} : v.asFlag? = some b ↔ v.IsFlag b := by
  constructor
  · intro h
    unfold asFlag? at h
    split at h
    · obtain rfl := Option.some.inj h
      exact .zero
    · obtain rfl := Option.some.inj h
      exact .one
    · obtain rfl := Option.some.inj h
      exact .zeroText
    · obtain rfl := Option.some.inj h
      exact .oneText
    · exact nomatch h
  · intro h
    cases h <;> rfl

end Json

/-! ### What becomes of a value -/

namespace Cast

theorem apply_dateTime {v : Json} {t : Int} (hv : v.Denotes t)
    (hrange : -8334601228800 ≤ t ∧ t ≤ 8210266876799) :
    apply (some .dateTime) v = .timestamp ⟨t, hrange⟩ := by
  have hsecond : v.asSecond? = some t :=
    Json.asSecond?_eq_some_iff.mpr ⟨hv, by omega, by omega⟩
  have htimestamp : v.asSecond?.bind Timestamp.ofSecond? = some ⟨t, hrange⟩ := by
    rw [hsecond, Option.bind_some, Timestamp.ofSecond?, dif_pos hrange]
  simp only [apply, htimestamp]

theorem apply_boolean {v : Json} {b : Bool} (hv : v.IsFlag b) :
    apply (some .boolean) v = .json (.boolean b) := by
  have hflag : v.asFlag? = some b := Json.asFlag?_eq_some_iff.mpr hv
  simp only [apply, hflag]

/-- A value stays as it is unless it states a second within the range and its cast asks for one, or
it stands for a truth value and its cast asks for that. -/
theorem apply_kept {cast : Option Cast} {v : Json}
    (hsecond : ∀ t, cast = some .dateTime → v.Denotes t → t < -8334601228800 ∨ 8210266876799 < t)
    (hflag : ∀ b, cast = some .boolean → ¬ v.IsFlag b) : apply cast v = .json v := by
  match cast with
  | some .dateTime =>
    have hnone : v.asSecond?.bind Timestamp.ofSecond? = none := by
      refine Option.eq_none_iff_forall_ne_some.mpr fun timestamp h => ?_
      obtain ⟨t, ht, htimestamp⟩ := Option.bind_eq_some_iff.mp h
      have hout := hsecond t rfl (Json.asSecond?_eq_some_iff.mp ht).1
      rw [Timestamp.ofSecond?, dif_neg (by omega)] at htimestamp
      exact nomatch htimestamp
    simp only [apply, hnone]
  | some .boolean =>
    have hnone : v.asFlag? = none := by
      refine Option.eq_none_iff_forall_ne_some.mpr fun b h => ?_
      exact hflag b rfl (Json.asFlag?_eq_some_iff.mp h)
    simp only [apply, hnone]
  | some .other => rfl
  | none => rfl

end Cast

/-! ### Records with casts and without -/

namespace Schema

def DeclaredFirst (casts : List (String × Cast)) (name : String) (cast : Cast) : Prop :=
  ∃ before after, casts = before ++ (name, cast) :: after ∧ ∀ c ∈ before, c.1 ≠ name

theorem castOf?_eq_some_iff {s : Schema} {name : String} {cast : Cast} :
    s.castOf? name = some cast ↔ DeclaredFirst s.casts name cast := by
  rw [castOf?, Option.map_eq_some_iff]
  constructor
  · rintro ⟨⟨other, c⟩, hfound, rfl⟩
    obtain ⟨hname, before, after, heq, hbefore⟩ := List.find?_eq_some_iff_append.mp hfound
    obtain rfl : other = name := beq_iff_eq.mp hname
    refine ⟨before, after, heq, ?_⟩
    intro d hd
    simpa using hbefore d hd
  · rintro ⟨before, after, heq, hbefore⟩
    refine ⟨(name, cast), ?_, rfl⟩
    refine List.find?_eq_some_iff_append.mpr ⟨beq_self_eq_true name, before, after, heq, ?_⟩
    intro d hd
    simpa using hbefore d hd

variable (s : Schema) (casts : List (String × Cast)) (id : Option Json) (data : Dictionary Json)
  (highlight : Option Json)

/-- A record has the same attributes with casts and without, the same highlight, and under each name
the value that its cast makes. -/
theorem normalize_casts :
    let plain := { s with casts := [] }.normalize id data highlight
    let cast := { s with casts := casts }.normalize id data highlight
    cast.attributes.names = plain.attributes.names ∧ cast.highlight = plain.highlight
      ∧ ∀ name value, plain.attributes.get? name = some value →
        ∃ v, value = .json v ∧ cast.attributes.get? name
          = some (Cast.apply ({ s with casts := casts }.castOf? name) v) := by
  intro plain cast
  refine ⟨?_, rfl, ?_⟩
  · show (Dictionary.mapValues _ _).names = (Dictionary.mapValues _ _).names
    rw [Dictionary.names_mapValues, Dictionary.names_mapValues]
    rfl
  · intro name value hvalue
    rw [Document.get?_normalize, Option.map_eq_some_iff] at hvalue
    obtain ⟨v, hv, rfl⟩ := hvalue
    refine ⟨v, rfl, ?_⟩
    rw [Document.get?_normalize, Option.map_eq_some_iff]
    exact ⟨v, hv, rfl⟩

/-- **Casts change the values that they are declared for and nothing else.**  With any casts a
record has the same attributes and the same highlight as without.  Where the first cast of an
attribute is a date and time, and its value states a second that a calendar has, by a number or by
digits, it becomes that second; where the cast is a truth value, and the value is `0` or `1`, it
becomes false or true; and every other value stays as it is. -/
theorem casts_change_declared :
    let plain := { s with casts := [] }.normalize id data highlight
    let cast := { s with casts := casts }.normalize id data highlight
    cast.attributes.names = plain.attributes.names ∧ cast.highlight = plain.highlight
      ∧ ∀ name value, plain.attributes.get? name = some value →
        ∃ v, value = .json v
          ∧ (∀ t, DeclaredFirst casts name .dateTime → v.Denotes t →
              -8334601228800 ≤ t → t ≤ 8210266876799 →
              ∃ timestamp, timestamp.second = t
                ∧ cast.attributes.get? name = some (.timestamp timestamp))
          ∧ (∀ b, DeclaredFirst casts name .boolean → v.IsFlag b →
              cast.attributes.get? name = some (.json (.boolean b)))
          ∧ ((∀ t, DeclaredFirst casts name .dateTime → v.Denotes t →
                t < -8334601228800 ∨ 8210266876799 < t) →
              (∀ b, DeclaredFirst casts name .boolean → ¬ v.IsFlag b) →
              cast.attributes.get? name = some value) := by
  intro plain cast
  obtain ⟨hnames, hhighlight, hvalues⟩ := normalize_casts s casts id data highlight
  refine ⟨hnames, hhighlight, ?_⟩
  intro name value hvalue
  obtain ⟨v, rfl, hcast⟩ := hvalues name value hvalue
  refine ⟨v, rfl, ?_, ?_, ?_⟩
  · intro t hfirst hdenotes hlow hhigh
    have hcastOf : { s with casts := casts }.castOf? name = some .dateTime :=
      castOf?_eq_some_iff.mpr hfirst
    refine ⟨⟨t, hlow, hhigh⟩, rfl, ?_⟩
    rw [hcast, hcastOf, Cast.apply_dateTime hdenotes ⟨hlow, hhigh⟩]
  · intro b hfirst hflag
    have hcastOf : { s with casts := casts }.castOf? name = some .boolean :=
      castOf?_eq_some_iff.mpr hfirst
    rw [hcast, hcastOf, Cast.apply_boolean hflag]
  · intro hsecond hflag
    rw [hcast, Cast.apply_kept]
    · intro t hcastOf
      exact hsecond t (castOf?_eq_some_iff.mp hcastOf)
    · intro b hcastOf
      exact hflag b (castOf?_eq_some_iff.mp hcastOf)

/-- A text of digits with zeros before them under the first of two casts, a number that stands for a
truth value, a floating-point number, and an identifier that moves to the primary key and is a
second too many. -/
theorem casts_change_declared_mixed :
    let s : Schema := { primaryKey := "key", fillable := ["created_at", "active"] }
    let casts := [("created_at", Cast.dateTime), ("created_at", .boolean), ("active", .boolean),
      ("size", .dateTime), ("key", .dateTime)]
    let data := Dictionary.ofList [("created_at", Json.string "0001700000000"),
      ("active", .ofInt 1), ("size", .number (.float 1.0))]
    let cast := { s with casts := casts }.normalize (some (.ofInt 8210266876800)) data none
    DeclaredFirst casts "created_at" .dateTime
      ∧ (Json.string "0001700000000").Denotes 1700000000
      ∧ (∃ timestamp, timestamp.second = 1700000000
        ∧ cast.attributes.get? "created_at" = some (.timestamp timestamp))
      ∧ cast.attributes.get? "active" = some (.json (.boolean true))
      ∧ cast.attributes.get? "size" = some (.json (.number (.float 1.0)))
      ∧ cast.attributes.get? "key" = some (.json (.ofInt 8210266876800)) := by
  intro s casts data cast
  obtain ⟨-, -, hvalues⟩ :=
    casts_change_declared s casts (some (.ofInt 8210266876800)) data none
  have hplain : ({ s with casts := [] }.normalize (some (.ofInt 8210266876800)) data
      none).attributes.entries = [("active", .json (.ofInt 1)),
        ("created_at", .json (.string "0001700000000")), ("key", .json (.ofInt 8210266876800)),
        ("size", .json (.number (.float 1.0)))] := by
    simp only [s, data]
    rfl
  have hcreated : DeclaredFirst casts "created_at" .dateTime :=
    ⟨[], casts.tail, rfl, fun _ h => absurd h List.not_mem_nil⟩
  have hactive : DeclaredFirst casts "active" .boolean :=
    ⟨casts.take 2, casts.drop 3, rfl, by decide⟩
  have hdenotes : (Json.string "0001700000000").Denotes 1700000000 :=
    Json.denotes_string_iff.mpr ⟨⟨by decide, List.all_eq_true.mp (by decide)⟩, by decide⟩
  refine ⟨hcreated, hdenotes, ?_, ?_, ?_, ?_⟩
  · obtain ⟨v, hv, hsecond, -, -⟩ := hvalues "created_at" (.json (.string "0001700000000"))
      (Dictionary.get?_eq_some_iff.mpr (by simp [hplain]))
    obtain rfl := AttributeValue.json.inj hv
    exact hsecond _ hcreated hdenotes (by decide) (by decide)
  · obtain ⟨v, hv, -, hflag, -⟩ := hvalues "active" (.json (.ofInt 1))
      (Dictionary.get?_eq_some_iff.mpr (by simp [hplain]))
    obtain rfl := AttributeValue.json.inj hv
    exact hflag true hactive .one
  · obtain ⟨v, hv, -, -, hkept⟩ := hvalues "size" (.json (.number (.float 1.0)))
      (Dictionary.get?_eq_some_iff.mpr (by simp [hplain]))
    obtain rfl := AttributeValue.json.inj hv
    refine hkept ?_ ?_
    · intro t _ ht
      exact nomatch ht
    · intro b _ hb
      exact nomatch hb
  · obtain ⟨v, hv, -, -, hkept⟩ := hvalues "key" (.json (.ofInt 8210266876800))
      (Dictionary.get?_eq_some_iff.mpr (by simp [hplain]))
    obtain rfl := AttributeValue.json.inj hv
    refine hkept ?_ ?_
    · intro t _ ht
      cases ht
      exact .inr (by decide)
    · intro b _ hb
      exact nomatch hb

end Schema

end SearchQuery
