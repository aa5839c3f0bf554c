import SearchQuery.Json.Printer
import SearchQuery.Proofs.Decimal.Numeral
import SearchQuery.Proofs.Json.Members
import SearchQuery.Proofs.Json.Reader

/-!
# What is written is read back

A text is read as the value that was written.  Floating-point numbers are left out: their text is
read by a quick rule, which may give a neighbour.  An object is written with its members as they
stand, and of several members with one name the last is read.

* `readQuoted?_quote`, `read?_integer`: strings and whole numbers.
* `read?_array`, `read?_object`: arrays and objects, if their parts are read back.
* `read?_of_isPlain`: values without floating-point numbers.
-/

namespace SearchQuery.Json

/-! ### Strings -/

theorem hexValue?_digitChar : ∀ n < 16, hexValue? (Nat.digitChar n) = some n := by
  decide

theorem readCodePoint?_control {c : Char} (h : c.toNat < 32) (rest : List Char) :
    readCodePoint?
        ('0' :: '0' :: Nat.digitChar (c.toNat / 16) :: Nat.digitChar (c.toNat % 16) :: rest)
      = some (c, rest) := by
  have hhigh := hexValue?_digitChar (c.toNat / 16) (by omega)
  have hlow := hexValue?_digitChar (c.toNat % 16) (by omega)
  have hzero : hexValue? '0' = some 0 := by decide
  have hunit : readUnit?
      ('0' :: '0' :: Nat.digitChar (c.toNat / 16) :: Nat.digitChar (c.toNat % 16) :: rest)
      = some (c.toNat, rest) := by
    simp only [readUnit?, hhigh, hlow, hzero, Option.bind_eq_bind, Option.bind_some,
      Option.pure_def, Option.some.injEq, Prod.mk.injEq, and_true]
    omega
  rw [readCodePoint?, hunit, Option.bind_eq_bind, Option.bind_some]
  dsimp only
  rw [if_neg (by omega), if_neg (by omega), Char.ofNat_toNat]

theorem readString?_escapedChar (c : Char) (fuel : Nat) (cs : List Char) :
    readString? (fuel + 1) (escapedChar c ++ cs)
      = (readString? fuel cs).map fun (s, rest) => (c :: s, rest) := by
  unfold escapedChar
  split
  case h_8 hquote hescape _ _ _ _ _ =>
    split
    · next hcontrol =>
      have hpoint := readCodePoint?_control hcontrol cs
      cases hread : readString? fuel cs <;> simp [readString?, hpoint, hread]
    · next hplain =>
      have hquote : c ≠ '"' := hquote
      have hescape : c ≠ '\\' := hescape
      cases hread : readString? fuel cs <;> simp [readString?, hquote, hescape, hplain, hread]
  all_goals cases hread : readString? fuel cs <;> simp [readString?, unescaped?, hread]

theorem readString?_escaped (cs : List Char) {fuel : Nat} (h : cs.length < fuel)
    (tail : List Char) :
    readString? fuel (cs.flatMap escapedChar ++ '"' :: tail) = some (cs, tail) := by
  induction cs generalizing fuel with
  | nil =>
    obtain ⟨fuel, rfl⟩ := Nat.exists_eq_add_one.mpr h
    rfl
  | cons c cs ih =>
    obtain ⟨fuel, rfl⟩ := Nat.exists_eq_add_one.mpr (Nat.zero_lt_of_lt h)
    rw [List.flatMap_cons, List.append_assoc, readString?_escapedChar,
      ih (Nat.lt_of_succ_lt_succ h), Option.map_some]

theorem length_le_flatMap_escapedChar (cs : List Char) :
    cs.length ≤ (cs.flatMap escapedChar).length := by
  induction cs with
  | nil => exact Nat.le_refl 0
  | cons c cs ih =>
    have hchar : 1 ≤ (escapedChar c).length := by
      unfold escapedChar
      split <;> try exact Nat.le_add_left 1 _
      split <;> exact Nat.le_add_left 1 _
    rw [List.flatMap_cons, List.length_append, List.length_cons]
    omega

theorem toList_quote (s : String) :
    (quote s).toList = '"' :: (s.toList.flatMap escapedChar ++ ['"']) := by
  rw [quote, String.toList_ofList, List.cons_append]

/-- **A string is read back**, whatever follows it. -/
theorem readQuoted?_quote (s : String) (tail : List Char) :
    readQuoted? ((quote s).toList ++ tail) = some (s, tail) := by
  have hfuel : s.toList.length < (s.toList.flatMap escapedChar ++ '"' :: tail).length + 1 := by
    have := length_le_flatMap_escapedChar s.toList
    rw [List.length_append]
    omega
  rw [toList_quote, List.cons_append, List.append_assoc, List.singleton_append]
  show Option.map _ (readString? _ _) = _
  rw [readString?_escaped s.toList hfuel, Option.map_some]
  dsimp only
  rw [String.ofList_toList]

theorem read?_string (s : String) (depth : Nat) :
    read? depth (Json.string s).text.toList = some (.string s) := by
  have hquoted := readQuoted?_quote s []
  rw [List.append_nil] at hquoted
  have hread : ∀ fuel, readValue? (fuel + 1) depth (quote s).toList = some (.string s, []) := by
    intro fuel
    rw [toList_quote] at hquoted ⊢
    rw [readValue?]
    exact Option.map_eq_some_iff.mpr ⟨_, hquoted, rfl⟩
  exact Option.bind_eq_some_iff.mpr ⟨_, hread _, rfl⟩

/-! ### Numbers -/

theorem head?_toDigits {n : Nat} (h : 0 < n) : (Nat.toDigits 10 n).head? ≠ some '0' := by
  induction n using Nat.strongRecOn with
  | ind n ih =>
    by_cases hlt : n < 10
    · have hdigit : ∀ k < 10, 0 < k → Nat.digitChar k ≠ '0' := by decide
      rw [Nat.toDigits_of_lt_base hlt, List.head?_cons, Ne, Option.some.injEq]
      exact hdigit n hlt h
    · have hless : n / 10 < n := by omega
      rw [Nat.toDigits_of_base_le (by decide) (by omega),
        List.head?_append_of_ne_nil _ Nat.toDigits_ne_nil]
      exact ih (n / 10) hless (by omega)

theorem readNumber?_toDigits (negative : Bool) (n : Nat) :
    readNumber? negative (Nat.toDigits 10 n)
      = (wholeOf? negative (Nat.toDigits 10 n)).map fun number => (number, []) := by
  have hspan : (Nat.toDigits 10 n).span Char.isDigit = (Nat.toDigits 10 n, []) := by
    have h : (Nat.toDigits 10 n ++ []).span Char.isDigit = (Nat.toDigits 10 n, []) :=
      Decimal.span_isDigit_append (fun _ => Decimal.isDigit_of_mem_toDigits)
        fun _ hc => nomatch hc
    rwa [List.append_nil] at h
  have hwhole : ((Nat.toDigits 10 n).isEmpty
      || (decide ((Nat.toDigits 10 n).length > 1) && (Nat.toDigits 10 n).head? == some '0'))
        = false := by
    by_cases hzero : n = 0
    · subst hzero
      decide
    · have hhead := head?_toDigits (Nat.pos_of_ne_zero hzero)
      simp [Nat.toDigits_ne_nil, hhead]
  rw [readNumber?, hspan]
  dsimp only
  rw [hwhole]
  cases wholeOf? negative (Nat.toDigits 10 n) <;> rfl

def Fits (n : Int) : Prop :=
  (word? n).isSome = true ∨ (signedWord? n).isSome = true

instance (n : Int) : Decidable (Fits n) :=
  inferInstanceAs (Decidable ((word? n).isSome = true ∨ (signedWord? n).isSome = true))

theorem wholeOf?_toDigits {n : Int} (h : Fits n) :
    wholeOf? (decide (n < 0)) (Nat.toDigits 10 n.natAbs) = some (.integer n) := by
  by_cases hneg : n < 0
  · have hword : (word? n).isSome = false := by
      rw [word?, if_neg (by omega)]
      rfl
    have hsigned : (signedWord? n).isSome = true := h.resolve_left (by rw [hword]; decide)
    have habs : -(n.natAbs : Int) = n := by omega
    have hne : (n.natAbs != 0) = true := bne_iff_ne.mpr (by omega)
    simp only [wholeOf?, Decimal.digitsValue_toDigits, hneg, habs, hsigned, hne, decide_true,
      Bool.and_self, if_true]
  · have habs : (n.natAbs : Int) = n := by omega
    have hword : (word? n).isSome = true := by
      refine h.elim id fun hsigned => ?_
      rw [signedWord?, Option.isSome_ite] at hsigned
      rw [word?, Option.isSome_ite, show (UInt64.size : Int) = 18446744073709551616 from rfl]
      omega
    simp only [wholeOf?, Decimal.digitsValue_toDigits, hneg, habs, hword, decide_false,
      Bool.false_eq_true, if_false, if_true]

theorem toList_toString (n : Int) :
    (toString n).toList
      = if n < 0 then '-' :: Nat.toDigits 10 n.natAbs else Nat.toDigits 10 n.natAbs := by
  cases n with
  | ofNat m =>
    rw [show toString (Int.ofNat m) = String.ofList (Nat.toDigits 10 m) from
      Nat.repr_eq_ofList_toDigits, String.toList_ofList, if_neg (by simp)]
    rfl
  | negSucc m =>
    rw [show toString (Int.negSucc m) = "-" ++ (m + 1).repr from rfl, Nat.repr_eq_ofList_toDigits,
      String.toList_append, String.toList_ofList, String.toList_ofList,
      if_pos (Int.negSucc_lt_zero m)]
    rfl

theorem skipSpaces_of_isDigit {c : Char} (hc : c.isDigit = true) (cs : List Char) :
    skipSpaces (c :: cs) = c :: cs := by
  refine List.dropWhile_cons_of_neg fun hspace => ?_
  simp only [isSpace, Bool.or_eq_true, beq_iff_eq] at hspace
  rcases hspace with ((rfl | rfl) | rfl) | rfl <;> exact absurd hc (by decide)

/-- **A whole number of 64 bits is read back.** -/
theorem read?_integer {n : Int} (h : Fits n) (depth : Nat) :
    read? depth (ofInt n).text.toList = some (ofInt n) := by
  have hnumber : readNumber? (decide (n < 0)) (Nat.toDigits 10 n.natAbs)
      = some (.integer n, []) := by
    rw [readNumber?_toDigits, wholeOf?_toDigits h, Option.map_some]
  have hread : ∀ fuel, readValue? (fuel + 1) depth (toString n).toList = some (ofInt n, []) := by
    intro fuel
    rw [toList_toString]
    by_cases hneg : n < 0
    · rw [decide_eq_true hneg] at hnumber
      have hsign : skipSpaces ('-' :: Nat.toDigits 10 n.natAbs) = '-' :: Nat.toDigits 10 n.natAbs :=
        rfl
      rw [if_pos hneg, readValue?, hsign]
      exact Option.map_eq_some_iff.mpr ⟨_, hnumber, rfl⟩
    · rw [decide_eq_false hneg] at hnumber
      obtain ⟨c, ds, hcs, hc⟩ := readNumber?_isDigit hnumber
      rw [hcs] at hnumber
      rw [if_neg hneg, hcs, readValue?_of_isDigit hc (skipSpaces_of_isDigit hc ds)]
      exact Option.map_eq_some_iff.mpr ⟨_, hnumber, rfl⟩
  exact Option.bind_eq_some_iff.mpr ⟨_, hread _, rfl⟩

/-! ### Arrays and objects -/

def memberText (m : String × Json) : List Char :=
  (quote m.1).toList ++ ':' :: m.2.text.toList

theorem itemTexts_eq_map (vs : List Json) : itemTexts vs = vs.map text := by
  induction vs with
  | nil => rfl
  | cons v vs ih => rw [itemTexts, ih, List.map_cons]

theorem memberTexts_eq_map (ms : List (String × Json)) :
    memberTexts ms = ms.map fun m => quote m.1 ++ ":" ++ m.2.text := by
  induction ms with
  | nil => rfl
  | cons m ms ih => rw [memberTexts, ih, List.map_cons]

def listed {α : Type} (f : α → List Char) (as : List α) : List Char :=
  List.intercalate [','] (as.map f)

theorem listed_singleton {α : Type} (f : α → List Char) (a : α) : listed f [a] = f a :=
  List.intercalate_singleton

theorem listed_cons_cons {α : Type} (f : α → List Char) (a b : α) (as : List α) :
    listed f (a :: b :: as) = f a ++ ',' :: listed f (b :: as) := by
  rw [listed, List.map_cons, List.map_cons, List.intercalate_cons_cons, List.append_assoc]
  rfl

theorem toList_text_array {α : Type} (f : α → Json) (as : List α) :
    (Json.array (as.map f)).text.toList
      = '[' :: (listed (fun a => (f a).text.toList) as ++ [']']) := by
  simp [text, itemTexts_eq_map, listed, Function.comp_def]

theorem toList_text_object (ms : List (String × Json)) :
    (Json.object ms).text.toList = '\x7b' :: (listed memberText ms ++ ['\x7d']) := by
  have hmember : memberText = fun m => (quote m.1).toList ++ ':' :: m.2.text.toList := rfl
  simp [text, memberTexts_eq_map, listed, hmember, Function.comp_def]

theorem apart_mark {c : Char} (hc : c = ',' ∨ c = ']' ∨ c = '\x7d') (tail : List Char) :
    Apart (c :: tail) := by
  intro d hd
  obtain rfl : c = d := Option.some.inj hd
  rcases hc with rfl | rfl | rfl <;> decide

theorem readItems?_text {depth : Nat} {v w : Json} (h : read? depth v.text.toList = some w)
    {fuel : Nat} (hfuel : 2 * v.text.toList.length + 2 ≤ fuel) {tail : List Char}
    (ht : Apart tail) :
    readItems? (fuel + 1) depth (v.text.toList ++ tail)
      = match skipSpaces tail with
        | ',' :: rest => (readItems? fuel depth rest).bind fun (vs, rest) => some (w :: vs, rest)
        | ']' :: rest => some ([w], rest)
        | _ => none := by
  obtain ⟨rest, hread, hrest⟩ := readValue?_of_read? h hfuel ht
  simp only [readItems?, hread, hrest, Option.bind_eq_bind, Option.bind_some]
  rfl

theorem readItems?_listed {α : Type} {f g : α → Json} {depth : Nat} {a : α} {as : List α}
    (h : ∀ b ∈ a :: as, read? depth (f b).text.toList = some (g b)) {fuel : Nat}
    (hfuel : 2 * (listed (fun b => (f b).text.toList) (a :: as)).length + 3 ≤ fuel)
    (tail : List Char) :
    readItems? fuel depth (listed (fun b => (f b).text.toList) (a :: as) ++ ']' :: tail)
      = some ((a :: as).map g, tail) := by
  obtain ⟨fuel, rfl⟩ : ∃ n, fuel = n + 1 := ⟨fuel - 1, by omega⟩
  have ha := h a List.mem_cons_self
  induction as generalizing a fuel with
  | nil =>
    rw [listed_singleton] at hfuel ⊢
    rw [readItems?_text ha (by omega) (apart_mark (.inr (.inl rfl)) tail)]
    rfl
  | cons b as ih =>
    rw [listed_cons_cons] at hfuel ⊢
    rw [List.length_append, List.length_cons] at hfuel
    obtain ⟨fuel, rfl⟩ : ∃ n, fuel = n + 1 := ⟨fuel - 1, by omega⟩
    have hrest : ∀ c ∈ b :: as, read? depth (f c).text.toList = some (g c) := by
      intro c hc
      exact h c (List.mem_cons_of_mem a hc)
    rw [List.append_assoc, List.cons_append,
      readItems?_text ha (by omega) (apart_mark (.inl rfl) _)]
    exact Option.bind_eq_some_iff.mpr
      ⟨_, ih hrest fuel (by omega) (hrest b List.mem_cons_self), rfl⟩

/-- **The items of an array are read back**, each as what its text stands for. -/
theorem read?_array {α : Type} {f g : α → Json} {depth : Nat} {as : List α}
    (h : ∀ a ∈ as, read? depth (f a).text.toList = some (g a)) :
    read? (depth + 1) (Json.array (as.map f)).text.toList = some (.array (as.map g)) := by
  rw [toList_text_array]
  cases as with
  | nil => rfl
  | cons a as =>
    have hfuel : 2 * (listed (fun b => (f b).text.toList) (a :: as)).length + 3
        ≤ 2 * (listed (fun b => (f b).text.toList) (a :: as) ++ [']']).length + 3 := by
      rw [List.length_append]
      omega
    have hitems := readItems?_listed h hfuel []
    exact Option.bind_eq_some_iff.mpr ⟨_, readValue?_array rfl hitems, rfl⟩

theorem readMembers?_memberText {depth : Nat} {m : String × Json}
    (h : read? depth m.2.text.toList = some m.2) {fuel : Nat}
    (hfuel : 2 * (memberText m).length + 2 ≤ fuel) {tail : List Char} (ht : Apart tail) :
    readMembers? (fuel + 1) depth (memberText m ++ tail)
      = match skipSpaces tail with
        | ',' :: rest => (readMembers? fuel depth rest).bind fun (ms, rest) => some (m :: ms, rest)
        | '\x7d' :: rest => some ([m], rest)
        | _ => none := by
  have hquote : ∀ cs, skipSpaces ((quote m.1).toList ++ cs) = (quote m.1).toList ++ cs := by
    intro cs
    rw [toList_quote]
    rfl
  have hcolon : ∀ cs, skipSpaces (':' :: cs) = ':' :: cs := fun _ => rfl
  have hvalue : 2 * m.2.text.toList.length + 2 ≤ fuel := by
    rw [memberText, List.length_append, List.length_cons] at hfuel
    omega
  obtain ⟨rest, hread, hrest⟩ := readValue?_of_read? h hvalue ht
  simp only [memberText, List.append_assoc, List.cons_append, readMembers?, hquote,
    readQuoted?_quote, hcolon, hread, hrest, Option.bind_eq_bind, Option.bind_some]
  rfl

theorem readMembers?_listed {depth : Nat} {m : String × Json} {ms : List (String × Json)}
    (h : ∀ e ∈ m :: ms, read? depth e.2.text.toList = some e.2) {fuel : Nat}
    (hfuel : 2 * (listed memberText (m :: ms)).length + 3 ≤ fuel) (tail : List Char) :
    readMembers? fuel depth (listed memberText (m :: ms) ++ '\x7d' :: tail)
      = some (m :: ms, tail) := by
  obtain ⟨fuel, rfl⟩ : ∃ n, fuel = n + 1 := ⟨fuel - 1, by omega⟩
  have hm := h m List.mem_cons_self
  induction ms generalizing m fuel with
  | nil =>
    rw [listed_singleton] at hfuel ⊢
    rw [readMembers?_memberText hm (by omega) (apart_mark (.inr (.inr rfl)) tail)]
    rfl
  | cons e ms ih =>
    rw [listed_cons_cons] at hfuel ⊢
    rw [List.length_append, List.length_cons] at hfuel
    obtain ⟨fuel, rfl⟩ : ∃ n, fuel = n + 1 := ⟨fuel - 1, by omega⟩
    have hrest : ∀ d ∈ e :: ms, read? depth d.2.text.toList = some d.2 := by
      intro d hd
      exact h d (List.mem_cons_of_mem m hd)
    rw [List.append_assoc, List.cons_append,
      readMembers?_memberText hm (by omega) (apart_mark (.inl rfl) _)]
    exact Option.bind_eq_some_iff.mpr
      ⟨_, ih hrest fuel (by omega) (hrest e List.mem_cons_self), rfl⟩

/-- **The members of an object are read back.**  Of several with one name the last stays. -/
theorem read?_object {depth : Nat} {ms : List (String × Json)}
    (h : ∀ m ∈ ms, read? depth m.2.text.toList = some m.2) :
    read? (depth + 1) (Json.object ms).text.toList = some (.ofMembers ms) := by
  rw [toList_text_object]
  cases ms with
  | nil => rfl
  | cons m ms =>
    have hfuel : 2 * (listed memberText (m :: ms)).length + 3
        ≤ 2 * (listed memberText (m :: ms) ++ ['\x7d']).length + 3 := by
      rw [List.length_append]
      omega
    have hmembers := readMembers?_listed h hfuel []
    exact Option.bind_eq_some_iff.mpr ⟨_, readValue?_object rfl hmembers, rfl⟩

/-! ### Values -/

mutual

/-- Whether the text of a value says all about it: whole numbers of 64 bits are the only numbers,
the names of members increase, and arrays and objects are nested no deeper than `depth`. -/
def isPlain (depth : Nat) : Json → Bool
  | .null => true
  | .boolean _ => true
  | .number (.integer n) => decide (Fits n)
  | .number (.float _) => false
  | .string _ => true
  | .array vs => depth != 0 && arePlain (depth - 1) vs
  | .object ms => depth != 0 && decide (Entries.Sorted ms) && membersPlain (depth - 1) ms
termination_by structural v => v

def arePlain (depth : Nat) : List Json → Bool
  | [] => true
  | v :: rest => isPlain depth v && arePlain depth rest
termination_by structural vs => vs

def membersPlain (depth : Nat) : List (String × Json) → Bool
  | [] => true
  | (_, v) :: rest => isPlain depth v && membersPlain depth rest
termination_by structural ms => ms

end

mutual

/-- **What is written is read back.** -/
theorem read?_of_isPlain {depth : Nat} : ∀ v : Json, isPlain depth v = true →
    read? depth v.text.toList = some v
  | .null, _ => rfl
  | .boolean true, _ => rfl
  | .boolean false, _ => rfl
  | .number (.integer _), h => read?_integer (of_decide_eq_true h) depth
  | .string s, _ => read?_string s depth
  | .array vs, h => by
    rw [isPlain, Bool.and_eq_true, bne_iff_ne] at h
    obtain ⟨depth, rfl⟩ := Nat.exists_eq_add_one_of_ne_zero h.1
    have hread := read?_array (f := id) (g := id) (read?_of_arePlain vs h.2)
    rwa [List.map_id] at hread
  | .object ms, h => by
    rw [isPlain, Bool.and_eq_true, Bool.and_eq_true, bne_iff_ne, decide_eq_true_eq] at h
    obtain ⟨⟨hdepth, hsorted⟩, hvalues⟩ := h
    obtain ⟨depth, rfl⟩ := Nat.exists_eq_add_one_of_ne_zero hdepth
    have hread := read?_object (read?_of_membersPlain ms hvalues)
    rwa [ofMembers_of_sorted hsorted] at hread

theorem read?_of_arePlain {depth : Nat} : ∀ vs : List Json, arePlain depth vs = true →
    ∀ v ∈ vs, read? depth v.text.toList = some v
  | [], _ => fun _ hv => nomatch hv
  | v :: vs, h => by
    rw [arePlain, Bool.and_eq_true] at h
    exact List.forall_mem_cons.mpr ⟨read?_of_isPlain v h.1, read?_of_arePlain vs h.2⟩

theorem read?_of_membersPlain {depth : Nat} : ∀ ms : List (String × Json),
    membersPlain depth ms = true → ∀ m ∈ ms, read? depth m.2.text.toList = some m.2
  | [], _ => fun _ hm => nomatch hm
  | (_, v) :: ms, h => by
    rw [membersPlain, Bool.and_eq_true] at h
    exact List.forall_mem_cons.mpr ⟨read?_of_isPlain v h.1, read?_of_membersPlain ms h.2⟩

end

end SearchQuery.Json
