import SearchQuery.Json.Fields
import SearchQuery.Proofs.Decimal.Whole
import SearchQuery.Proofs.Json.Text
import SearchQuery.Proofs.Range

/-!
# What is found in values with fixed members

A field is found as a member of an object or as an item of an array, so that what is found is part
of the value.  A JSON value has only numbers of 64 bits and finite floating-point numbers
(`isRepresentable`), and so have its parts; read as a floating-point number, each of them is finite.

* `named?_eq`: in an object, fields that may be left out are found by their names.
* `isRepresentable_of_fields?`: the fields of a value are as its numbers are.
* `isFinite_of_asFloat?`: what is read as a floating-point number is finite.
* `listOf?_map`, `dictionaryOf?_map`: lists and dictionaries are read back if their parts are.
-/

namespace SearchQuery

/-! ### Numbers that JSON values have -/

def Number.isRepresentable : Number → Bool
  | .integer n => decide (Json.Fits n)
  | .float x => x.isFinite

namespace Json

mutual

/-- Whether all numbers in the value are whole numbers of 64 bits or finite. -/
def isRepresentable : Json → Bool
  | .null => true
  | .boolean _ => true
  | .number n => n.isRepresentable
  | .string _ => true
  | .array vs => areRepresentable vs
  | .object ms => membersRepresentable ms
termination_by structural v => v

def areRepresentable : List Json → Bool
  | [] => true
  | v :: rest => isRepresentable v && areRepresentable rest
termination_by structural vs => vs

def membersRepresentable : List (String × Json) → Bool
  | [] => true
  | (_, v) :: rest => isRepresentable v && membersRepresentable rest
termination_by structural ms => ms

end

theorem areRepresentable_iff {vs : List Json} :
    areRepresentable vs = true ↔ ∀ v ∈ vs, v.isRepresentable = true := by
  induction vs with
  | nil => simp [areRepresentable]
  | cons v vs ih => rw [areRepresentable, Bool.and_eq_true, ih, List.forall_mem_cons]

theorem membersRepresentable_iff {ms : List (String × Json)} :
    membersRepresentable ms = true ↔ ∀ m ∈ ms, m.2.isRepresentable = true := by
  induction ms with
  | nil => simp [membersRepresentable]
  | cons m ms ih =>
    obtain ⟨name, v⟩ := m
    rw [membersRepresentable, Bool.and_eq_true, ih, List.forall_mem_cons]

theorem isFinite_of_fits {n : Int} (h : Fits n) : (Float.ofInt n).isFinite = true := by
  have hlow : -2 ^ 64 ≤ n ∧ n ≤ 2 ^ 64 := by
    rcases h with h | h
    · rw [word?] at h
      split at h
      · next hword => simp only [UInt64.size] at hword; omega
      · exact absurd h (by simp)
    · rw [signedWord?] at h
      split at h
      · next hword => omega
      · exact absurd h (by simp)
  exact Decimal.isFinite_ofInt hlow.1 hlow.2

/-- **What is read as a floating-point number is finite**, also if it is rounded. -/
theorem isFinite_of_asFloat? {v : Json} (hv : v.isRepresentable = true) {x : Float}
    (h : v.asFloat? = some x) : x.isFinite = true := by
  cases v with
  | number n =>
    rw [isRepresentable] at hv
    cases n with
    | integer n =>
      obtain rfl : Float.ofInt n = x := Option.some.inj h
      exact isFinite_of_fits (of_decide_eq_true hv)
    | float y =>
      obtain rfl : y = x := Option.some.inj h
      exact hv
  | _ => exact nomatch h

/-! ### Fields -/

theorem named?_eq (members : List (String × Json)) {fields : List (String × Presence)}
    (h : ∀ f ∈ fields, f.2 ≠ .required) :
    named? members fields = some (fields.map fun f => Entries.find? f.1 members) := by
  induction fields with
  | nil => rfl
  | cons f fields ih =>
    obtain ⟨name, presence⟩ := f
    obtain ⟨hfirst, hrest⟩ := List.forall_mem_cons.mp h
    rw [named?, ih hrest, List.map_cons]
    cases Entries.find? name members with
    | none => exact if_neg hfirst
    | some v => rfl

theorem mem_of_find? {name : String} {members : List (String × Json)} {v : Json}
    (h : Entries.find? name members = some v) : ∃ m ∈ members, m.2 = v := by
  induction members with
  | nil => exact nomatch h
  | cons m members ih =>
    obtain ⟨n, w⟩ := m
    rw [Entries.find?] at h
    split at h
    · exact ⟨(n, w), List.mem_cons_self, Option.some.inj h⟩
    · obtain ⟨m, hm, hv⟩ := ih h
      exact ⟨m, List.mem_cons_of_mem _ hm, hv⟩

theorem mem_of_named? {members : List (String × Json)} {fields : List (String × Presence)}
    {found : List (Option Json)} (h : named? members fields = some found) {v : Json}
    (hv : some v ∈ found) : ∃ m ∈ members, m.2 = v := by
  induction fields generalizing found with
  | nil =>
    obtain rfl : [] = found := Option.some.inj h
    exact nomatch hv
  | cons f fields ih =>
    obtain ⟨name, presence⟩ := f
    rw [named?] at h
    cases hfind : Entries.find? name members with
    | none =>
      rw [hfind] at h
      dsimp only at h
      split at h
      · exact nomatch h
      · obtain ⟨rest, hrest, rfl⟩ := Option.map_eq_some_iff.mp h
        exact ih hrest ((List.mem_cons.mp hv).resolve_left fun hnone => nomatch hnone)
    | some w =>
      rw [hfind] at h
      obtain ⟨rest, hrest, rfl⟩ := Option.map_eq_some_iff.mp h
      rcases List.mem_cons.mp hv with hw | hv
      · obtain rfl : v = w := Option.some.inj hw
        exact mem_of_find? hfind
      · exact ih hrest hv

theorem mem_of_positional? {presences : List Presence} {items : List Json}
    {found : List (Option Json)} (h : positional? presences items = some found) {v : Json}
    (hv : some v ∈ found) : v ∈ items := by
  induction presences generalizing items found with
  | nil =>
    cases items with
    | nil =>
      obtain rfl : [] = found := Option.some.inj h
      exact nomatch hv
    | cons w items => exact nomatch h
  | cons presence presences ih =>
    cases items with
    | nil =>
      rw [positional?] at h
      split at h
      · obtain ⟨rest, hrest, rfl⟩ := Option.map_eq_some_iff.mp h
        exact ih hrest ((List.mem_cons.mp hv).resolve_left fun hnone => nomatch hnone)
      · exact nomatch h
    | cons w items =>
      obtain ⟨rest, hrest, rfl⟩ := Option.map_eq_some_iff.mp h
      rcases List.mem_cons.mp hv with hw | hv
      · obtain rfl : v = w := Option.some.inj hw
        exact List.mem_cons_self
      · exact List.mem_cons_of_mem w (ih hrest hv)

/-- **The fields of a value are as its numbers are**, in either form. -/
theorem isRepresentable_of_fields? {value : Json} (hvalue : value.isRepresentable = true)
    {fields : List (String × Presence)} {found : List (Option Json)}
    (h : value.fields? fields = some found) {v : Json} (hv : some v ∈ found) :
    v.isRepresentable = true := by
  cases value with
  | object members =>
    rw [isRepresentable, membersRepresentable_iff] at hvalue
    obtain ⟨m, hm, rfl⟩ := mem_of_named? h hv
    exact hvalue m hm
  | array items =>
    rw [isRepresentable, areRepresentable_iff] at hvalue
    exact hvalue v (mem_of_positional? h hv)
  | _ => exact nomatch h

/-! ### Fields of fixed readings -/

section Readings

variable {α : Type} {read : Json → Option α}

theorem orDefault_eq_some_iff {default a : α} {field : Option Json} :
    orDefault default read field = some a
      ↔ (field = none ∧ a = default) ∨ ∃ v, field = some v ∧ read v = some a := by
  cases field <;> simp [orDefault, eq_comm]

theorem orDefault_of_read {default a : α} {v : Json} (h : read v = some a) :
    orDefault default read (some v) = some a :=
  h

theorem exists_of_nullable {field : Option Json} {a : α}
    (h : nullable read field = some (some a)) :
    ∃ v, field = some v ∧ v ≠ .null ∧ read v = some a := by
  cases field with
  | none => exact nomatch h
  | some v =>
    cases v with
    | null => exact nomatch h
    | _ =>
      obtain ⟨b, hb, hsome⟩ := Option.map_eq_some_iff.mp h
      obtain rfl : b = a := Option.some.inj hsome
      exact ⟨_, rfl, Json.noConfusion, hb⟩

theorem nullable_of_ne_null {v : Json} (h : v ≠ .null) :
    nullable read (some v) = (read v).map some := by
  cases v with
  | null => exact absurd rfl h
  | _ => rfl

theorem listOf?_map {write : α → Json} {as : List α}
    (h : ∀ a ∈ as, read (write a) = some a) : listOf? read (.array (as.map write)) = some as := by
  show (as.map write).mapM read = some as
  induction as with
  | nil => rfl
  | cons a as ih =>
    obtain ⟨hfirst, hrest⟩ := List.forall_mem_cons.mp h
    rw [List.map_cons, List.mapM_cons, hfirst, ih hrest]
    rfl

theorem dictionaryOf?_map {write : α → Json} (h : ∀ a, read (write a) = some a)
    (d : Dictionary α) :
    dictionaryOf? read (.object (d.entries.map fun e => (e.1, write e.2))) = some d := by
  have hentries : ∀ entries : List (String × α),
      (entries.map fun e => (e.1, write e.2)).mapM
        (fun m => (read m.2).map fun a => (m.1, a)) = some entries := by
    intro entries
    induction entries with
    | nil => rfl
    | cons e rest ih =>
      rw [List.map_cons, List.mapM_cons, ih, h]
      rfl
  rw [dictionaryOf?, hentries, Option.map_some, Dictionary.ofList_entries]

theorem of_mem_listOf? {v : Json} {as : List α} (h : listOf? read v = some as) {a : α}
    (ha : a ∈ as) : ∃ items, v = .array items ∧ ∃ item ∈ items, read item = some a := by
  cases v with
  | array items => exact ⟨items, rfl, (mem_mapM h a).mp ha⟩
  | _ => exact nomatch h

end Readings

theorem dictionaryOf?_ofDictionary (d : Dictionary Json) :
    dictionaryOf? some (ofDictionary d) = some d := by
  have hread : dictionaryOf? some (.object (d.entries.map fun e => (e.1, id e.2))) = some d :=
    dictionaryOf?_map (fun _ => rfl) d
  rw [ofDictionary]
  simpa using hread

theorem asWord?_ofWord (n : UInt64) : (ofWord n).asWord? = some n := by
  rw [ofWord, asWord?, word?_toNat]

theorem asWord?_eq_some_iff {v : Json} {w : UInt64} : v.asWord? = some w ↔ v = ofWord w := by
  constructor
  · intro h
    unfold asWord? at h
    split at h
    · next n =>
      rw [word?] at h
      split at h
      · next hword =>
        have hn : n.toNat < UInt64.size := by omega
        obtain rfl : UInt64.ofNat n.toNat = w := Option.some.inj h
        rw [ofWord, UInt64.toNat_ofNat_of_lt' hn, Int.toNat_of_nonneg hword.1]
      · contradiction
    · contradiction
  · rintro rfl
    exact asWord?_ofWord w

theorem ofWord_injective : Function.Injective ofWord := by
  intro n m h
  have hread := asWord?_ofWord n
  rw [h, asWord?_ofWord] at hread
  exact (Option.some.inj hread).symm

end Json

end SearchQuery
