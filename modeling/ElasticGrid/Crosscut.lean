/-!
# Cross-sections

`crosscut d n lists` takes the first elements of some lists, then their second
elements, and so on up to their `n`-th ones; a list that has run out gives `d`. It
makes rows out of columns and lines of text out of columns of text.
-/

namespace ElasticGrid

variable {α : Type}

def crosscut (d : α) : Nat → List (List α) → List (List α)
  | 0, _ => []
  | n + 1, lists => lists.map (fun list => list.headD d) :: crosscut d n (lists.map List.tail)

theorem crosscut_eq_map_range (d : α) (n : Nat) (lists : List (List α)) :
    crosscut d n lists = (List.range n).map fun i => lists.map fun list => list.getD i d := by
  induction n generalizing lists with
  | zero => rfl
  | succ n ih =>
    have first : ∀ list : List α, list.headD d = list.getD 0 d := by
      intro list; cases list <;> rfl
    have later : ∀ (list : List α) (i : Nat), list.tail.getD i d = list.getD (i + 1) d := by
      intro list i; cases list <;> rfl
    simp only [crosscut, ih, List.range_succ_eq_map, List.map_cons, List.map_map, first]
    simp only [Function.comp_def, later]

@[simp] theorem length_crosscut (d : α) (n : Nat) (lists : List (List α)) :
    (crosscut d n lists).length = n := by
  simp [crosscut_eq_map_range]

end ElasticGrid
