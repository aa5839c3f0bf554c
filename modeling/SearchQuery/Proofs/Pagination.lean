import Mathlib.Order.Bounds.Basic
import SearchQuery.Record.Document
import SearchQuery.Proofs.Calls

/-!
# Pages and their numbers

Pages are counted with words of 64 bits, and yet nothing is lost: a page starts where the pages
before it end, and the last page is the first with which all records are seen.  Everything follows
from one comparison (`Page.lastPage_le_iff`): as many pages as the last one's number are what the
total takes, over the natural numbers.

* `Page.isLeast_lastPage`: the number of the last page.
* `Page.hasMore_iff`: whether there are pages behind a page.
* `mem_page_iff`: the records on a page, the start of a page being clamped.
* `Session.paginate_exact`: what a page asks for and what it says.
-/

namespace SearchQuery

/-! ### The last page -/

namespace Page

variable {α : Type} (p : Page α)

/-- Rounding up does not overflow: where there is a remainder, a page has two records or more. -/
theorem toNat_pages (h : 1 ≤ p.perPage.toNat) :
    (p.total / p.perPage + if p.total % p.perPage = 0 then 0 else 1).toNat
      = p.total.toNat / p.perPage.toNat
        + if p.total.toNat % p.perPage.toNat = 0 then 0 else 1 := by
  have htotal : p.total.toNat < 2 ^ 64 := p.total.toNat_lt
  have hzero : p.total % p.perPage = 0 ↔ p.total.toNat % p.perPage.toNat = 0 := by
    rw [← UInt64.toNat_inj, UInt64.toNat_mod]
    rfl
  rw [UInt64.toNat_add, UInt64.toNat_div]
  by_cases hrem : p.total.toNat % p.perPage.toNat = 0
  · rw [if_pos (hzero.mpr hrem), if_pos hrem]
    have hle : p.total.toNat / p.perPage.toNat ≤ p.total.toNat := Nat.div_le_self ..
    apply Nat.mod_eq_of_lt
    change p.total.toNat / p.perPage.toNat + 0 < 2 ^ 64
    omega
  · rw [if_neg fun hword => hrem (hzero.mp hword), if_neg hrem]
    have htwo : 2 ≤ p.perPage.toNat := by
      by_contra hone
      have hperPage : p.perPage.toNat = 1 := by omega
      rw [hperPage, Nat.mod_one] at hrem
      exact hrem rfl
    have hhalf : p.total.toNat / p.perPage.toNat ≤ p.total.toNat / 2 :=
      Nat.div_le_div_left htwo (by omega)
    apply Nat.mod_eq_of_lt
    change p.total.toNat / p.perPage.toNat + 1 < 2 ^ 64
    omega

theorem toNat_lastPage (h : 1 ≤ p.perPage.toNat) :
    p.lastPage.toNat = max (p.total.toNat / p.perPage.toNat
      + if p.total.toNat % p.perPage.toNat = 0 then 0 else 1) 1 := by
  have hperPage : p.perPage ≠ 0 := by
    intro hzero
    rw [hzero] at h
    exact absurd h (by decide)
  rw [lastPage, if_neg hperPage, ← p.toNat_pages h]
  exact UInt64.toNat_max _ 1

/-- **The last page bounds a number of pages exactly if all records fit on them.** -/
theorem lastPage_le_iff (h : 1 ≤ p.perPage.toNat) {n : Nat} (hn : 1 ≤ n) :
    p.lastPage.toNat ≤ n ↔ p.total.toNat ≤ n * p.perPage.toNat := by
  have hdivide := Nat.div_add_mod p.total.toNat p.perPage.toNat
  have hrem := Nat.mod_lt p.total.toNat h
  rw [p.toNat_lastPage h]
  generalize p.total.toNat / p.perPage.toNat = q at hdivide ⊢
  generalize p.total.toNat % p.perPage.toNat = r at hdivide hrem ⊢
  rw [Nat.mul_comm] at hdivide
  constructor
  · intro hle
    have hmul : (q + if r = 0 then 0 else 1) * p.perPage.toNat ≤ n * p.perPage.toNat :=
      Nat.mul_le_mul_right _ (by omega)
    rw [Nat.add_mul] at hmul
    split at hmul <;> omega
  · intro hle
    have hq : q ≤ n := by
      by_contra hlt
      have hmul : (n + 1) * p.perPage.toNat ≤ q * p.perPage.toNat :=
        Nat.mul_le_mul_right _ (by omega)
      rw [Nat.add_mul] at hmul
      omega
    by_cases hexact : r = 0
    · rw [if_pos hexact]
      omega
    · rw [if_neg hexact]
      have hne : q ≠ n := by
        intro hsame
        subst hsame
        omega
      omega

theorem isLeast_lastPage (h : 1 ≤ p.perPage.toNat) :
    IsLeast {n | 1 ≤ n ∧ p.total.toNat ≤ n * p.perPage.toNat} p.lastPage.toNat := by
  have hone : 1 ≤ p.lastPage.toNat := by
    rw [p.toNat_lastPage h]
    omega
  refine ⟨⟨hone, (p.lastPage_le_iff h hone).mp le_rfl⟩, ?_⟩
  intro n hn
  exact (p.lastPage_le_iff h hn.1).mpr hn.2

theorem hasMore_iff (h : 1 ≤ p.perPage.toNat) (hpage : 1 ≤ p.currentPage.toNat) :
    p.hasMore = true ↔ p.currentPage.toNat * p.perPage.toNat < p.total.toNat := by
  rw [hasMore, decide_eq_true_eq, UInt64.lt_iff_toNat_lt, ← Nat.not_le, ← Nat.not_le,
    p.lastPage_le_iff h hpage]

end Page

/-! ### The records on a page -/

theorem pageSize_pos (perPage : UInt64) : 1 ≤ (pageSize perPage).toNat := by
  rw [pageSize]
  split
  · decide
  · next h =>
    rw [← UInt64.toNat_inj] at h
    change perPage.toNat ≠ 0 at h
    omega

theorem toNat_pageStart (perPage page : UInt64) :
    (pageStart perPage page).toNat
      = min ((page.toNat - 1) * (pageSize perPage).toNat) (UInt64.size - 1) := by
  rw [pageStart_eq, toNat_saturatingMul, toNat_max_sub_one]

/-- **The records on a page** are those that a division counts to it.  Where the start of a page is
clamped, there are no records: their indexes are below the greatest word. -/
theorem mem_page_iff (perPage page : UInt64) {index : Nat} (h : index < UInt64.size - 1) :
    ((pageStart perPage page).toNat ≤ index
        ∧ index < (pageStart perPage page).toNat + (pageSize perPage).toNat)
      ↔ index / (pageSize perPage).toNat = page.toNat - 1 := by
  have hpos := pageSize_pos perPage
  rw [toNat_pageStart, Nat.div_eq_iff hpos]
  generalize (page.toNat - 1) * (pageSize perPage).toNat = start
  omega

/-- **Each record is on one page**, of those up to the last. -/
theorem existsUnique_page {α : Type} (p : Page α) {perPage : UInt64}
    (hsize : p.perPage = pageSize perPage) {index : Nat} (hindex : index < p.total.toNat) :
    ∃! page : UInt64, (1 ≤ page ∧ page ≤ p.lastPage)
      ∧ (pageStart perPage page).toNat ≤ index
      ∧ index < (pageStart perPage page).toNat + (pageSize perPage).toNat := by
  have htotal : p.total.toNat < UInt64.size := p.total.toNat_lt
  have hquotient : index / p.perPage.toNat ≤ index := Nat.div_le_self ..
  have hnumber : (UInt64.ofNat (index / p.perPage.toNat + 1)).toNat
      = index / p.perPage.toNat + 1 := by
    apply UInt64.toNat_ofNat_of_lt'
    omega
  refine ⟨UInt64.ofNat (index / p.perPage.toNat + 1), ⟨⟨?_, ?_⟩, ?_⟩, ?_⟩
  · rw [UInt64.le_iff_toNat_le, hnumber]
    exact Nat.le_add_left ..
  · rw [UInt64.le_iff_toNat_le, hnumber]
    by_contra hlast
    -- All records would fit on the pages before, and this one is not on them.
    have hpos : 1 ≤ p.perPage.toNat := by
      rw [hsize]
      exact pageSize_pos perPage
    have hfit : p.total.toNat ≤ p.lastPage.toNat * p.perPage.toNat :=
      (p.isLeast_lastPage hpos).1.2
    have hbefore : p.lastPage.toNat * p.perPage.toNat ≤ index :=
      (Nat.mul_le_mul_right _ (by omega)).trans (Nat.div_mul_le_self index p.perPage.toNat)
    omega
  · rw [mem_page_iff _ _ (by omega), hnumber, ← hsize]
    rfl
  · rintro page ⟨⟨hfirst, -⟩, hmem⟩
    rw [mem_page_iff _ _ (by omega), ← hsize] at hmem
    rw [UInt64.le_iff_toNat_le] at hfirst
    change 1 ≤ page.toNat at hfirst
    rw [← UInt64.toNat_inj, hnumber, hmem]
    omega

/-! ### What a page asks for and what it says -/

namespace Session

variable {κ α : Type} [Record α] [Related κ α] (s : Session κ α)

theorem paginate_eq (perPage page : UInt64) :
    s.paginate perPage page = mapResult (fun fetched =>
        { items := fetched.records
          total := fetched.total.getD (UInt64.ofNat fetched.records.length)
          perPage := pageSize perPage
          currentPage := max page 1 })
      (s.fetch ((Terminal.paginate perPage page).query s.query) .paginate) := by
  rw [paginate, pageQuery_eq]
  rfl

theorem fetched_of_paginate {perPage page : UInt64} {p : Page α}
    (h : (s.paginate perPage page).1 = .ok p) :
    ∃ fetched, (s.fetch ((Terminal.paginate perPage page).query s.query) .paginate).1 = .ok fetched
      ∧ p = { items := fetched.records
              total := fetched.total.getD (UInt64.ofNat fetched.records.length)
              perPage := pageSize perPage
              currentPage := max page 1 } := by
  rw [paginate_eq, mapResult] at h
  cases hfetch : (s.fetch ((Terminal.paginate perPage page).query s.query) .paginate).1 with
  | error e =>
    rw [hfetch] at h
    cases h
  | ok fetched =>
    rw [hfetch] at h
    exact ⟨fetched, rfl, (Except.ok.inj h).symm⟩

theorem toNat_max_one (page : UInt64) : (max page 1).toNat = max page.toNat 1 :=
  UInt64.toNat_max page 1

/-- **A page is counted exactly.**  It asks for one record or more, behind those of the pages before
it as far as words can count them.  What it says of any total holds in the natural numbers: which
page is the last, and whether records are left.  And each record is on one of the pages. -/
theorem paginate_exact {κ α : Type} [Record α] [Related κ α] (s : Session κ α)
    (perPage page : UInt64) :
    let limit := pageSize perPage
    let offset := pageStart perPage page
    let q := { s.query with limit := some limit, offset := some offset }
    (s.paginate perPage page).2.transport.calls
        = s.transport.calls ++ [q.call s.index s.settings]
      ∧ 1 ≤ limit.toNat ∧ (perPage ≠ 0 → limit = perPage)
      ∧ offset.toNat = min ((page.toNat - 1) * limit.toNat) (UInt64.size - 1)
      ∧ (∀ found : Page α, (s.paginate perPage page).1 = .ok found → ∀ total : UInt64,
          let p := { found with total }
          p.currentPage.toNat = max page.toNat 1 ∧ p.perPage = limit
            ∧ IsLeast {n | 1 ≤ n ∧ total.toNat ≤ n * limit.toNat} p.lastPage.toNat
            ∧ (p.hasMore = true ↔ offset.toNat + limit.toNat < total.toNat))
      ∧ (∀ p : Page α, p.perPage = limit → ∀ index < p.total.toNat,
          ∃! n : UInt64, (1 ≤ n ∧ n ≤ p.lastPage)
            ∧ (pageStart perPage n).toNat ≤ index
            ∧ index < (pageStart perPage n).toNat + limit.toNat) := by
  intro limit offset q
  have hpos : 1 ≤ limit.toNat := pageSize_pos perPage
  have hstart : offset.toNat = min ((page.toNat - 1) * limit.toNat) (UInt64.size - 1) :=
    toNat_pageStart perPage page
  refine ⟨?_, hpos, fun h => if_neg h, hstart, ?_, fun p hsize index => existsUnique_page p hsize⟩
  · rw [paginate_eq]
    exact congrArg Transport.calls (s.fetch_effect q .paginate).transport
  · intro found hfound total p
    obtain ⟨fetched, -, rfl⟩ := s.fetched_of_paginate hfound
    have hnumber : p.currentPage.toNat = max page.toNat 1 := toNat_max_one page
    refine ⟨hnumber, rfl, p.isLeast_lastPage hpos, ?_⟩
    have htotal : total.toNat < UInt64.size := total.toNat_lt
    have hend : p.currentPage.toNat * limit.toNat
        = (page.toNat - 1) * limit.toNat + limit.toNat := by
      rw [hnumber, ← Nat.succ_mul]
      congr 1
      omega
    rw [p.hasMore_iff hpos (by omega), hstart]
    change p.currentPage.toNat * limit.toNat < total.toNat ↔ _
    -- A start that is clamped lies behind all totals, and so does the start that it stands for.
    rw [hend]
    generalize (page.toNat - 1) * limit.toNat = start
    omega

/-- Two pages of half the words hold as many records as there can be.  The third starts at the
greatest word, where its start is clamped. -/
theorem paginate_exact_clamped :
    let s : Session Unit Document := {
      prototype := {}, transport := { response := { total := 18446744073709551615 } } }
    ∃ p, (s.paginate 9223372036854775808 3).1 = .ok p ∧ p.lastPage = 2 ∧ p.hasMore = false
      ∧ (pageStart 9223372036854775808 3).toNat = UInt64.size - 1
      ∧ (p.hasMore = true ↔
        (pageStart 9223372036854775808 3).toNat + (pageSize 9223372036854775808).toNat
          < p.total.toNat) := by
  intro s
  have hexact := s.paginate_exact 9223372036854775808 3
  exact ⟨_, rfl, by decide, by decide, by decide,
    (hexact.2.2.2.2.1 _ rfl 18446744073709551615).2.2.2⟩

end Session

end SearchQuery
