/-!
# Dropping the end of a list

`dropTrailing p l` is what remains of `l` when the longest end on which `p` holds
throughout is taken away. It trims texts and packs grids.
-/

namespace ElasticGrid

variable {α : Type}

def dropTrailing (p : α → Bool) : List α → List α
  | [] => []
  | a :: l =>
    let rest := dropTrailing p l
    if rest.isEmpty && p a then [] else a :: rest

@[simp] theorem dropTrailing_nil (p : α → Bool) : dropTrailing p [] = [] := rfl

theorem dropTrailing_cons (p : α → Bool) (a : α) (l : List α) :
    dropTrailing p (a :: l) =
      if (dropTrailing p l).isEmpty && p a then [] else a :: dropTrailing p l := rfl

/-- What is dropped satisfies `p` throughout. -/
theorem exists_dropTrailing_append (p : α → Bool) (l : List α) :
    ∃ dropped, l = dropTrailing p l ++ dropped ∧ dropped.all p := by
  induction l with
  | nil => exact ⟨[], rfl, rfl⟩
  | cons a l ih =>
    obtain ⟨dropped, happend, hall⟩ := ih
    rw [dropTrailing_cons]
    split
    · rename_i h
      simp only [Bool.and_eq_true, List.isEmpty_iff] at h
      rw [h.1, List.nil_append] at happend
      exact ⟨a :: l, rfl, by simp [h.2, happend, hall]⟩
    · exact ⟨dropped, by simp [← happend], hall⟩

/-- What is kept does not end in an element that satisfies `p`. -/
theorem getLast?_dropTrailing (p : α → Bool) (l : List α) {a : α}
    (h : (dropTrailing p l).getLast? = some a) : p a = false := by
  induction l with
  | nil => simp at h
  | cons b l ih =>
    rw [dropTrailing_cons] at h
    split at h
    · simp at h
    · rename_i hb
      cases hl : dropTrailing p l with
      | nil => simp_all
      | cons c r => exact ih (by simpa [hl] using h)

/-- Nothing is dropped if the last element does not satisfy `p`. -/
theorem dropTrailing_eq_self_iff {p : α → Bool} {l : List α} :
    dropTrailing p l = l ↔ ∀ a, l.getLast? = some a → p a = false := by
  refine ⟨fun h a ha => getLast?_dropTrailing p l (by rwa [h]), fun h => ?_⟩
  obtain ⟨dropped, happend, hall⟩ := exists_dropTrailing_append p l
  cases hlast : dropped.getLast? with
  | none => rw [List.getLast?_eq_none_iff.1 hlast, List.append_nil] at happend; exact happend.symm
  | some a =>
    have hp : p a = false := h a (by rw [happend, List.getLast?_append, hlast]; rfl)
    rw [List.all_eq_true.1 hall a (List.mem_of_getLast? hlast)] at hp
    cases hp

theorem dropTrailing_dropTrailing (p : α → Bool) (l : List α) :
    dropTrailing p (dropTrailing p l) = dropTrailing p l :=
  dropTrailing_eq_self_iff.2 fun _ => getLast?_dropTrailing p l

/-- Of the elements that do not satisfy `p`, none is dropped. -/
theorem countP_dropTrailing (p : α → Bool) (l : List α) :
    (dropTrailing p l).countP (fun a => !p a) = l.countP fun a => !p a := by
  obtain ⟨dropped, happend, hall⟩ := exists_dropTrailing_append p l
  have hnone : dropped.countP (fun a => !p a) = 0 :=
    List.countP_eq_zero.2 fun a hm => by simp [List.all_eq_true.1 hall a hm]
  calc (dropTrailing p l).countP (fun a => !p a)
      = (dropTrailing p l ++ dropped).countP (fun a => !p a) := by
        rw [List.countP_append, hnone, Nat.add_zero]
    _ = l.countP fun a => !p a := by rw [← happend]

theorem length_dropTrailing_le (p : α → Bool) (l : List α) :
    (dropTrailing p l).length ≤ l.length := by
  obtain ⟨dropped, happend, -⟩ := exists_dropTrailing_append p l
  have := congrArg List.length happend
  simp at this
  omega

@[simp] theorem dropTrailing_eq_nil {p : α → Bool} {l : List α} :
    dropTrailing p l = [] ↔ l.all p := by
  induction l with
  | nil => simp
  | cons a l ih =>
    rw [dropTrailing_cons]
    split
    · rename_i h
      simp only [Bool.and_eq_true, List.isEmpty_iff] at h
      simp [ih.1 h.1, h.2]
    · rename_i h
      simp only [Bool.and_eq_true, List.isEmpty_iff, ih] at h
      simpa [and_comm] using h

theorem take_length_dropTrailing (p : α → Bool) (l : List α) :
    l.take (dropTrailing p l).length = dropTrailing p l := by
  obtain ⟨dropped, happend, -⟩ := exists_dropTrailing_append p l
  calc l.take (dropTrailing p l).length
      = (dropTrailing p l ++ dropped).take (dropTrailing p l).length := by rw [← happend]
    _ = dropTrailing p l := List.take_left

/-- The last element is the first to be dropped. -/
theorem dropTrailing_concat (p : α → Bool) (l : List α) (a : α) :
    dropTrailing p (l ++ [a]) = if p a then dropTrailing p l else l ++ [a] := by
  by_cases ha : p a
  · rw [if_pos ha]
    induction l with
    | nil => rw [List.nil_append, dropTrailing_cons, ha]; rfl
    | cons b l ih => rw [List.cons_append, dropTrailing_cons, ih, dropTrailing_cons]
  · rw [if_neg ha]
    refine dropTrailing_eq_self_iff.2 fun b hb => ?_
    rw [List.getLast?_concat, Option.some_inj] at hb
    rw [← hb]
    exact Bool.eq_false_iff.2 ha

/-- What satisfies `p` throughout makes no difference at the end. -/
theorem dropTrailing_append {p : α → Bool} {m : List α} (hm : m.all p) (l : List α) :
    dropTrailing p (l ++ m) = dropTrailing p l := by
  induction m generalizing l with
  | nil => rw [List.append_nil]
  | cons a m ih =>
    rw [List.all_cons, Bool.and_eq_true] at hm
    rw [List.append_cons, ih hm.2, dropTrailing_concat, if_pos hm.1]

/-- At most `n` elements are kept when `p` holds from index `n` on. -/
theorem length_dropTrailing_le_iff {p : α → Bool} {l : List α} {n : Nat} :
    (dropTrailing p l).length ≤ n ↔ ∀ i a, n ≤ i → l[i]? = some a → p a := by
  induction l generalizing n with
  | nil => simp
  | cons b l ih =>
    rw [dropTrailing_cons]
    split
    · next h =>
      simp only [Bool.and_eq_true, List.isEmpty_iff, dropTrailing_eq_nil, List.all_eq_true] at h
      refine ⟨fun _ i a _ ha => ?_, fun _ => Nat.zero_le n⟩
      rcases i with _ | i
      · exact Option.some.inj ha ▸ h.2
      · exact h.1 a (List.mem_of_getElem? ha)
    · next h =>
      rcases n with _ | n
      · simp only [List.length_cons, Nat.le_zero_eq, Nat.add_eq_zero_iff, Nat.one_ne_zero,
          and_false, false_iff]
        intro hall
        apply h
        simp only [Bool.and_eq_true, List.isEmpty_iff, dropTrailing_eq_nil, List.all_eq_true]
        refine ⟨fun a ha => ?_, hall 0 b (Nat.le_refl 0) rfl⟩
        obtain ⟨i, hi⟩ := List.mem_iff_getElem?.1 ha
        exact hall (i + 1) a (Nat.zero_le _) hi
      · rw [List.length_cons, Nat.add_le_add_iff_right, ih]
        refine ⟨fun hall i a hi ha => ?_, fun hall i a hi => hall (i + 1) a (by omega)⟩
        rcases i with _ | i
        · omega
        · exact hall i a (by omega) ha

end ElasticGrid
