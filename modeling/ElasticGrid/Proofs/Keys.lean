import ElasticGrid.Proofs.Enumeration
import ElasticGrid.Proofs.Numerals
import ElasticGrid.Proofs.Views

/-!
# Keys

A key stands for its position wherever only texts can be told apart. It is made of the texts of the
two numbers that the position was made from (`key_of_ofNumbers`), and the texts of numbers may hold
signs, points and exponents. Those of indexes hold digits only, so that the colon is found again and
the position can be read back (`ofKey?_key`).
-/

namespace ElasticGrid

namespace Text

def decimal? (s : List Char) : Option Nat :=
  if s ≠ [] ∧ s.all Char.isDigit then some (Nat.ofDigitChars 10 s 0) else none

theorem decimal?_toDigits (n : Nat) : decimal? (Nat.toDigits 10 n) = some n := by
  have hdigits : (Nat.toDigits 10 n).all Char.isDigit :=
    List.all_eq_true.2 fun _ => Nat.isDigit_of_mem_toDigits (by decide) (by decide)
  rw [decimal?, if_pos ⟨Nat.toDigits_ne_nil, hdigits⟩, Nat.ofDigitChars_ten_toDigits]

theorem toDigits_inj {m n : Nat} (h : Nat.toDigits 10 m = Nat.toDigits 10 n) : m = n :=
  Option.some.inj (by rw [← decimal?_toDigits m, ← decimal?_toDigits n, h])

theorem not_mem_toDigits {n : Nat} {c : Char} (hc : ¬c.isDigit) : c ∉ Nat.toDigits 10 n :=
  fun h => hc (Nat.isDigit_of_mem_toDigits (by decide) (by decide) h)

end Text

theorem Number.IsIndex.same_iff {a b : Number} {i j : Nat} (ha : a.IsIndex i) (hb : b.IsIndex j) :
    a.same b ↔ i = j := by
  have hav := same_ofNat_iff.1 ha.1
  have hbv := same_ofNat_iff.1 hb.1
  have hvalues : a.same b ↔ a.value? = b.value? := by
    cases a with
    | nan => cases hav
    | infinity negative => cases hav
    | negativeZero => exact beq_iff_eq
    | finite v => exact beq_iff_eq
  rw [hvalues, hav, hbv, Option.some_inj, Rat.natCast_inj]

/-! ## Keys and texts of positions -/

namespace Position

open Text

variable {p q : Position} {x y x' y' : Number}

def ofKey? (key : String) : Option Position :=
  match key.toList.splitOn ':' with
  | [x, y] => do return ⟨← decimal? x, ← decimal? y⟩
  | _ => none

theorem splitOn_key (p : Position) :
    p.key.toList.splitOn ':' = [Nat.toDigits 10 p.x, Nat.toDigits 10 p.y] := by
  have hkey : p.key.toList = [':'].intercalate [Nat.toDigits 10 p.x, Nat.toDigits 10 p.y] := by
    show (toString p.x ++ ":" ++ toString p.y).toList = _
    simp
  rw [hkey, List.splitOn_intercalate ':' ?_ (List.cons_ne_nil _ _)]
  intro piece hm
  rcases List.mem_pair.1 hm with rfl | rfl <;> exact not_mem_toDigits (by decide)

theorem splitOn_text (p : Position) :
    p.text.toList.splitOn ',' =
      ['[' :: Nat.toDigits 10 p.x, ' ' :: Nat.toDigits 10 p.y ++ [']']] := by
  have htext : p.text.toList =
      [','].intercalate ['[' :: Nat.toDigits 10 p.x, ' ' :: Nat.toDigits 10 p.y ++ [']']] := by
    show ("[" ++ toString p.x ++ ", " ++ toString p.y ++ "]").toList = _
    simp
  rw [htext, List.splitOn_intercalate ',' ?_ (List.cons_ne_nil _ _)]
  have hdigits : ∀ n : Nat, ',' ∉ Nat.toDigits 10 n := fun n => not_mem_toDigits (by decide)
  intro piece hm
  rcases List.mem_pair.1 hm with rfl | rfl <;> simp [hdigits]

theorem ofKey?_key (p : Position) : ofKey? p.key = some p := by
  rw [ofKey?, splitOn_key]
  simp only [decimal?_toDigits]
  rfl

theorem key_inj : p.key = q.key ↔ p = q :=
  ⟨fun h => Option.some.inj (by rw [← ofKey?_key p, ← ofKey?_key q, h]), congrArg key⟩

theorem text_inj : p.text = q.text ↔ p = q := by
  refine ⟨fun h => ?_, congrArg text⟩
  have hparts := congrArg (fun s : String => s.toList.splitOn ',') h
  simp only [splitOn_text, List.cons.injEq, true_and, and_true, List.cons_append,
    List.append_left_inj] at hparts
  obtain ⟨x, y⟩ := p
  obtain ⟨x', y'⟩ := q
  obtain rfl : x = x' := toDigits_inj hparts.1
  obtain rfl : y = y' := toDigits_inj hparts.2
  rfl

theorem key_of_ofNumbers (h : ofNumbers x y = .ok p) : p.key = x.text ++ ":" ++ y.text := by
  obtain ⟨hx, hy⟩ := ofNumbers_eq_ok_iff.1 h
  rw [hx.text_eq, hy.text_eq]
  rfl

theorem text_of_ofNumbers (h : ofNumbers x y = .ok p) :
    p.text = "[" ++ x.text ++ ", " ++ y.text ++ "]" := by
  obtain ⟨hx, hy⟩ := ofNumbers_eq_ok_iff.1 h
  rw [hx.text_eq, hy.text_eq]
  rfl

theorem eq_iff_same (hp : ofNumbers x y = .ok p) (hq : ofNumbers x' y' = .ok q) :
    p = q ↔ x.same x' ∧ y.same y' := by
  obtain ⟨hx, hy⟩ := ofNumbers_eq_ok_iff.1 hp
  obtain ⟨hx', hy'⟩ := ofNumbers_eq_ok_iff.1 hq
  rw [hx.same_iff hx', hy.same_iff hy']
  exact ⟨fun h => by rw [h]; exact ⟨rfl, rfl⟩, fun ⟨hpx, hpy⟩ => by cases p; cases q; simp_all⟩

theorem isAt_iff (hp : p.Made) (hq : ofNumbers x y = .ok q) : p.isAt x y ↔ p = q := by
  rw [isAt, Bool.and_eq_true]
  exact (eq_iff_same hp.ofNumbers_eq hq).symm

/-- **Keys tell positions apart**, as their texts do. A key shows the numbers that the position was
made from, and its indexes can be read from it. The entries of a grid have different keys, and so
do the positions of a region. -/
theorem keys_tell_apart {α : Type} :
    (∀ {x y : Number} {p : Position}, ofNumbers x y = .ok p →
      (p.key = x.text ++ ":" ++ y.text ∧ p.text = "[" ++ x.text ++ ", " ++ y.text ++ "]") ∧
      ofKey? p.key = some p ∧ x.IsIndex p.x ∧ y.IsIndex p.y) ∧
    (∀ {x y x' y' : Number} {p q : Position}, ofNumbers x y = .ok p → ofNumbers x' y' = .ok q →
      (p.key = q.key ↔ p.isAt x' y') ∧ (p.text = q.text ↔ p.isAt x' y') ∧
      (p.isAt x' y' ↔ p = q) ∧ (p = q ↔ x.same x' ∧ y.same y')) ∧
    (∀ g : Grid α, g.Reachable → (g.entries.map fun entry => entry.1.key).Nodup) ∧
    ∀ r : Region, (r.toList.map key).Nodup := by
  have hregion : ∀ r : Region, (r.toList.map key).Nodup := fun r =>
    r.nodup_toList.map fun _ _ => key_inj.1
  refine ⟨fun hp => ?_, fun {x y x' y' p q} hp hq => ?_, fun g hg => ?_, hregion⟩
  · exact ⟨⟨key_of_ofNumbers hp, text_of_ofNumbers hp⟩, ofKey?_key _, ofNumbers_eq_ok_iff.1 hp⟩
  · have hat := isAt_iff ⟨x, y, hp⟩ hq
    exact ⟨key_inj.trans hat.symm, text_inj.trans hat.symm, hat, eq_iff_same hp hq⟩
  · have hkeys : (g.entries.map fun entry => entry.1.key) = g.region.toList.map key := by
      rw [← hg.rectangular.positions_entries, List.map_map]
      rfl
    rw [hkeys]
    exact hregion g.region

/-- The largest index beside both zeros, two positions with the same digits, and the entries of a
grid with one row. -/
theorem zeros_and_digits_keyed :
    let number := Number.ofNat
    let largest : Position := ⟨0, 2 ^ 53 - 1⟩
    let g := (Source.ofLines .row [[some (Value.whole 1), none]]).run.2.grid
    ofNumbers .negativeZero (number (2 ^ 53 - 1)) = .ok largest ∧
      largest.key = "0:9007199254740991" ∧
      largest.key = Number.negativeZero.text ++ ":" ++ (number (2 ^ 53 - 1)).text ∧
      ofKey? "0:9007199254740991" = some largest ∧
      largest.isAt (number 0) (number (2 ^ 53 - 1)) ∧
      (ofNumbers (number 1) (number 11) = .ok ⟨1, 11⟩ ∧
        ofNumbers (number 11) (number 1) = .ok ⟨11, 1⟩ ∧
        (⟨1, 11⟩ : Position).key ≠ (⟨11, 1⟩ : Position).key) ∧
      g.Reachable ∧ (g.entries.map fun entry => entry.1.key) = ["0:0", "1:0"] ∧
      (g.entries.map fun entry => entry.1.key).Nodup := by
  intro number largest g
  obtain ⟨hmade, happart, hentries, -⟩ := keys_tell_apart (α := Value)
  have hminus : ofNumbers .negativeZero (number (2 ^ 53 - 1)) = .ok largest := by decide +kernel
  have hzero : ofNumbers (number 0) (number (2 ^ 53 - 1)) = .ok largest := by decide +kernel
  have hfirst : ofNumbers (number 1) (number 11) = .ok ⟨1, 11⟩ := by decide +kernel
  have hsecond : ofNumbers (number 11) (number 1) = .ok ⟨11, 1⟩ := by decide +kernel
  have hkey : largest.key = "0:9007199254740991" := by decide +kernel
  obtain ⟨⟨htexts, -⟩, hread, -⟩ := hmade hminus
  have hat : largest.isAt (number 0) (number (2 ^ 53 - 1)) := (happart hminus hzero).1.1 rfl
  have hdiffer : (⟨1, 11⟩ : Position).key ≠ (⟨11, 1⟩ : Position).key := fun h =>
    absurd ((happart hfirst hsecond).1.1 h) (by decide +kernel)
  have hg : g.Reachable := .built rfl
  exact ⟨hminus, hkey, htexts, hkey ▸ hread, hat, ⟨hfirst, hsecond, hdiffer⟩, hg,
    by decide +kernel, hentries g hg⟩

end Position

end ElasticGrid
