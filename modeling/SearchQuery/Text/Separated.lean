/-!
# Separated texts

The parts of a text between separators.  None of them has a separator (`not_mem_of_mem_parts`).
-/

namespace SearchQuery.Text

def extendFirst (c : Char) : List (List Char) → List (List Char)
  | [] => [[c]]
  | p :: rest => (c :: p) :: rest

/-- The parts between the separators, empty ones included. -/
def parts (separator : Char) : List Char → List (List Char)
  | [] => [[]]
  | c :: rest =>
    if c = separator then [] :: parts separator rest else extendFirst c (parts separator rest)

def separated (separator : Char) (text : String) : List String :=
  (parts separator text.toList).map String.ofList

theorem mem_extendFirst {c : Char} {p : List Char} {ps : List (List Char)}
    (h : p ∈ extendFirst c ps) : p = [c] ∨ p ∈ ps ∨ ∃ q ∈ ps, p = c :: q := by
  cases ps with
  | nil => exact .inl (List.mem_singleton.mp h)
  | cons q rest =>
    rcases List.mem_cons.mp h with rfl | h
    · exact .inr (.inr ⟨q, List.mem_cons_self, rfl⟩)
    · exact .inr (.inl (List.mem_cons_of_mem q h))

theorem not_mem_of_mem_parts {separator : Char} {cs p : List Char} (h : p ∈ parts separator cs) :
    separator ∉ p := by
  induction cs generalizing p with
  | nil =>
    obtain rfl : p = [] := List.mem_singleton.mp h
    exact List.not_mem_nil
  | cons c rest ih =>
    by_cases hc : c = separator
    · rw [parts, if_pos hc] at h
      rcases List.mem_cons.mp h with rfl | h
      · exact List.not_mem_nil
      · exact ih h
    · rw [parts, if_neg hc] at h
      have hne : separator ≠ c := fun heq => hc heq.symm
      rcases mem_extendFirst h with rfl | h | ⟨q, hq, rfl⟩
      · simpa using hne
      · exact ih h
      · simpa [hne] using ih hq

end SearchQuery.Text
