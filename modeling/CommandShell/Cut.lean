namespace CommandShell.Cut

/-! Lists cut at a mark. The marks themselves belong to no piece. -/

variable {α : Type} [DecidableEq α]

/-- What stands before the first mark and what stands after it, or `none` where
the mark does not occur. -/
def once (mark : α) : List α → Option (List α × List α)
  | [] => none
  | element :: rest =>
    if element = mark then some ([], rest)
    else (once mark rest).map fun (before, after) => (element :: before, after)

/-- The pieces between the marks, always one more than there are marks. -/
def all (mark : α) : List α → List (List α)
  | [] => [[]]
  | element :: rest =>
    if element = mark then [] :: all mark rest
    else
      match all mark rest with
      | [] => [[element]]
      | piece :: pieces => (element :: piece) :: pieces

/-! ## What a cut keeps -/

theorem once_eq_none_iff (mark : α) (list : List α) : once mark list = none ↔ mark ∉ list := by
  induction list with
  | nil => simp [once]
  | cons element rest induction =>
    by_cases equal : element = mark
    · simp [once, equal]
    · simp [once, equal, induction, Ne.symm equal]

/-- The two parts with the mark between them are the list, and the mark does not
occur in the first. -/
theorem once_eq_some_iff (mark : α) (list before after : List α) :
    once mark list = some (before, after) ↔ list = before ++ mark :: after ∧ mark ∉ before := by
  induction list generalizing before with
  | nil => simp [once]
  | cons element rest induction =>
    by_cases equal : element = mark
    · subst equal
      cases before with
      | nil => simp [once, eq_comm]
      | cons first before =>
        simp only [once, if_pos, List.cons_append, List.cons.injEq, List.mem_cons, not_or]
        constructor
        · intro same
          cases same
        · rintro ⟨⟨same, _⟩, different, _⟩
          exact absurd same different
    · cases before with
      | nil => simp [once, equal]
      | cons first before =>
        simp only [once, if_neg equal, Option.map_eq_some_iff, Prod.exists]
        constructor
        · rintro ⟨one, two, found, same⟩
          cases same
          obtain ⟨whole, free⟩ := (induction before).mp found
          exact ⟨by rw [whole]; rfl, by simp [free, Ne.symm equal]⟩
        · rintro ⟨whole, free⟩
          cases whole
          exact ⟨before, after, (induction before).mpr ⟨rfl, fun member => free (by simp [member])⟩, rfl⟩

theorem all_ne_nil (mark : α) (list : List α) : all mark list ≠ [] := by
  cases list with
  | nil => simp [all]
  | cons element rest =>
    simp only [all]
    split
    · simp
    · split <;> simp

theorem not_mem_of_mem_all {mark : α} {list piece : List α} (member : piece ∈ all mark list) :
    mark ∉ piece := by
  induction list generalizing piece with
  | nil => simp_all [all]
  | cons element rest induction =>
    by_cases equal : element = mark
    · simp only [all, if_pos equal, List.mem_cons] at member
      rcases member with rfl | member
      · simp
      · exact induction member
    · cases pieces : all mark rest with
      | nil => exact absurd pieces (all_ne_nil mark rest)
      | cons first others =>
        simp only [all, if_neg equal, pieces, List.mem_cons] at member
        rcases member with rfl | member
        · simpa [Ne.symm equal] using induction (by simp [pieces])
        · exact induction (by simp [pieces, member])

theorem all_of_not_mem {mark : α} {list : List α} (free : mark ∉ list) :
    all mark list = [list] := by
  induction list with
  | nil => rfl
  | cons element rest induction =>
    rcases not_or.mp (mt List.mem_cons.mpr free) with ⟨different, freeRest⟩
    rw [all, if_neg (Ne.symm different), induction freeRest]

/-- Lists with a mark between them are cut at that mark, whatever they hold. -/
theorem all_append (mark : α) (before after : List α) :
    all mark (before ++ mark :: after) = all mark before ++ all mark after := by
  induction before with
  | nil => simp [all]
  | cons element rest induction =>
    by_cases equal : element = mark
    · simp [all, equal, induction]
    · cases pieces : all mark rest with
      | nil => exact absurd pieces (all_ne_nil mark rest)
      | cons first others => simp [all, equal, induction, pieces]

end CommandShell.Cut
