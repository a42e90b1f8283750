import ElasticGrid.Proofs.Environment
import ElasticGrid.Proofs.Layers

/-!
# Reading escaped texts

A text with escapes is read from left to right, two characters at a time where a backslash starts
one of the three pairs. What is read of a text therefore does not depend on what follows it, unless
the text ends in the middle of a pair. It does so just if an odd number of backslashes end it: an
even number of them makes pairs of its own (`unescape_append_iff`).
-/

namespace ElasticGrid

variable {α : Type}

namespace Text

variable {s t : List Char} {c : Char}

def isBackslash (c : Char) : Bool := c == '\\'

def closingBackslashes (s : List Char) : Nat := s.length - (dropTrailing isBackslash s).length

theorem append_closingBackslashes (s : List Char) :
    dropTrailing isBackslash s ++ List.replicate (closingBackslashes s) '\\' = s := by
  obtain ⟨dropped, happend, hall⟩ := exists_dropTrailing_append isBackslash s
  have hlength : closingBackslashes s = dropped.length := by
    have := congrArg List.length happend
    rw [List.length_append] at this
    rw [closingBackslashes]
    omega
  have hdropped : dropped = List.replicate dropped.length '\\' :=
    List.eq_replicate_iff.2 ⟨rfl, fun c hc => eq_of_beq (List.all_eq_true.1 hall c hc)⟩
  rw [hlength, ← hdropped, ← happend]

/-- What makes a pair with the backslash before it. -/
def pairing : List Char := ['n', 't', '\\']

theorem unescape_backslash_cons (hc : c ∉ pairing) (s : List Char) :
    unescape ('\\' :: c :: s) = '\\' :: unescape (c :: s) := by
  simp only [pairing, List.mem_cons, List.not_mem_nil, or_false, not_or] at hc
  rw [unescape]
  all_goals
    intro rest _ heq
    simp_all

theorem getLast?_ne_of_cons (hs : (c :: s).getLast? ≠ some '\\') : s.getLast? ≠ some '\\' := by
  intro hlast
  rw [List.getLast?_cons, hlast] at hs
  exact hs rfl

/-- A text that ends in no backslash is read to its end before what follows it. -/
theorem unescape_append_of_getLast? (hs : s.getLast? ≠ some '\\') (t : List Char) :
    unescape (s ++ t) = unescape s ++ unescape t := by
  induction s using unescape.induct with
  | case1 => rfl
  | case2 rest ih =>
    exact congrArg ('\n' :: ·) (ih (getLast?_ne_of_cons (getLast?_ne_of_cons hs)))
  | case3 rest ih =>
    exact congrArg ('\t' :: ·) (ih (getLast?_ne_of_cons (getLast?_ne_of_cons hs)))
  | case4 rest ih =>
    exact congrArg ('\\' :: ·) (ih (getLast?_ne_of_cons (getLast?_ne_of_cons hs)))
  | case5 c rest hn ht hb ih =>
    have hrest := ih (getLast?_ne_of_cons hs)
    by_cases hc : c = '\\'
    · subst hc
      cases rest with
      | nil => exact absurd rfl hs
      | cons d rest =>
        have hd : d ∉ pairing := by
          simp only [pairing, List.mem_cons, List.not_mem_nil, or_false]
          rintro (rfl | rfl | rfl)
          · exact hn rest rfl rfl
          · exact ht rest rfl rfl
          · exact hb rest rfl rfl
        rw [unescape_backslash_cons hd, List.cons_append, List.cons_append,
          unescape_backslash_cons hd, ← List.cons_append, hrest, List.cons_append]
    · rw [List.cons_append, unescape_cons_of_ne hc, unescape_cons_of_ne hc, hrest,
        List.cons_append]

theorem unescape_replicate_append (n : Nat) (s : List Char) :
    unescape (List.replicate (2 * n) '\\' ++ s) = List.replicate n '\\' ++ unescape s := by
  induction n with
  | zero => rfl
  | succ n ih =>
    rw [Nat.mul_succ, List.replicate_succ, List.replicate_succ, List.replicate_succ]
    exact congrArg ('\\' :: ·) ih

/-- Of the backslashes that end a text, as many pairs are read as there are. -/
theorem unescape_append_of_le {n : Nat} (hn : 2 * n ≤ closingBackslashes s) (t : List Char) :
    unescape (s ++ t) = unescape (dropTrailing isBackslash s) ++ (List.replicate n '\\' ++
      unescape (List.replicate (closingBackslashes s - 2 * n) '\\' ++ t)) := by
  have hfront : (dropTrailing isBackslash s).getLast? ≠ some '\\' := fun hlast =>
    Bool.noConfusion (getLast?_dropTrailing isBackslash s hlast)
  have hclosing : List.replicate (closingBackslashes s) '\\' =
      List.replicate (2 * n) '\\' ++ List.replicate (closingBackslashes s - 2 * n) '\\' := by
    rw [List.replicate_append_replicate]
    congr 1
    omega
  have hsplit : s ++ t = dropTrailing isBackslash s ++ (List.replicate (2 * n) '\\' ++
      (List.replicate (closingBackslashes s - 2 * n) '\\' ++ t)) := by
    rw [← List.append_assoc (List.replicate _ _), ← hclosing, ← List.append_assoc,
      append_closingBackslashes]
  rw [hsplit, unescape_append_of_getLast? hfront, unescape_replicate_append]

/-- A text is read on its own, whatever follows it, just if an even number of backslashes end it. -/
theorem unescape_append_iff :
    (∀ t, unescape (s ++ t) = unescape s ++ unescape t) ↔ closingBackslashes s % 2 = 0 := by
  have hread := unescape_append_of_le (Nat.mul_div_le (closingBackslashes s) 2)
  have halone := hread []
  have hrest : closingBackslashes s - 2 * (closingBackslashes s / 2) = closingBackslashes s % 2 := by
    omega
  rw [List.append_nil, List.append_nil, hrest] at halone
  rcases Nat.mod_two_eq_zero_or_one (closingBackslashes s) with h | h
  · refine iff_of_true (fun t => ?_) h
    rw [hread, halone, hrest, h]
    simp [unescape]
  · -- The last backslash would make a pair with a letter that follows.
    refine iff_of_false (fun hall => ?_) (by omega)
    have hletter := congrArg List.length (hall ['n'])
    rw [hread, halone, hrest, h] at hletter
    simp [unescape] at hletter

theorem unescape_append_backslash (hs : closingBackslashes s % 2 = 0) (hc : c ∉ pairing)
    (t : List Char) :
    unescape (s ++ '\\' :: c :: t) = unescape s ++ '\\' :: c :: unescape t := by
  have hne : c ≠ '\\' := fun h => hc (by rw [h]; decide)
  rw [unescape_append_iff.2 hs, unescape_backslash_cons hc, unescape_cons_of_ne hne]

end Text

/-! ## Settings -/

namespace Settings

theorem readDelimiter_append_iff {a : String} :
    (∀ b, readDelimiter (a ++ b) = readDelimiter a ++ readDelimiter b) ↔
      Text.closingBackslashes a.toList % 2 = 0 := by
  rw [← Text.unescape_append_iff]
  constructor
  · intro h t
    have ht := congrArg String.toList (h (String.ofList t))
    simpa only [readDelimiter, String.toList_append, String.toList_ofList] using ht
  · intro h b
    rw [readDelimiter, String.toList_append, h, String.ofList_append]
    rfl

theorem readDelimiter_backslash {a : String} {c : Char}
    (ha : Text.closingBackslashes a.toList % 2 = 0) (hc : c ∉ Text.pairing) (b : String) :
    readDelimiter (a ++ String.ofList ['\\', c] ++ b) =
      readDelimiter a ++ String.ofList ['\\', c] ++ readDelimiter b := by
  have h := congrArg String.ofList (Text.unescape_append_backslash ha hc b.toList)
  simpa only [readDelimiter, String.toList_append, String.toList_ofList, List.append_assoc,
    List.cons_append, List.nil_append, ← String.ofList_append] using h

end Settings

theorem StyleLayer.isLayer_toDatum (layer : StyleLayer) : layer.toDatum.IsLayer := by
  rw [← StyleIssue.ofDatum_eq_nil_iff]
  obtain ⟨_ | _, _ | _, _ | _, _ | _⟩ := layer <;> rfl

theorem Workbook.style_build_environment [Content α] {book : Workbook α} {name : String}
    {source : Source α} {env : Environment}
    (h : (book.replyTo name (.build source (.environment env))).answer = .ok .done) :
    ((book.perform ⟨name, .build source (.environment env)⟩).2.sheet name).style =
      (Settings.ofEnvironment env).style.toDatum := by
  have hperform : book.perform ⟨name, .build source (.environment env)⟩ =
    book.build name source (.environment env) := rfl
  rw [replyTo, hperform] at h
  rw [hperform]
  rcases book.build_cases name source (.environment env) with
    ⟨fault, hbuild⟩ | ⟨fresh, hfresh, -, hbuild⟩
  · rw [hbuild] at h
    cases h
  · rw [Setup.sheet] at hfresh
    cases hlevel : Level.require (Settings.ofEnvironment env).level with
    | error fault => rw [hlevel] at hfresh; cases hfresh
    | ok level =>
      rw [hlevel] at hfresh
      cases hfresh
      rw [hbuild, adopt, sheet_put, if_pos rfl]
      rfl

/-- **Delimiters that are given in escaped form are read back as they were**, whatever they are.
Reading goes on behind a text as if it stood alone just if an even number of backslashes end it, and
a backslash that starts no pair is kept. No environment gives a style that is refused when a sheet
is drawn: what is refused then are the overrides. -/
theorem Settings.escaped_delimiters_read_back [Content α] :
    (∀ (env : Environment) (cell row : String),
      env "ELASTIC_MATRIX_CELL_DELIMITER" = some (escaped cell) →
      env "ELASTIC_MATRIX_ROW_DELIMITER" = some (escaped row) →
      (ofEnvironment env).style.cellDelimiter = some cell ∧
        (ofEnvironment env).style.rowDelimiter = some row) ∧
    (∀ a : String, (∀ b, readDelimiter (a ++ b) = readDelimiter a ++ readDelimiter b) ↔
      Text.closingBackslashes a.toList % 2 = 0) ∧
    (∀ (a b : String) (c : Char), Text.closingBackslashes a.toList % 2 = 0 →
      c ∉ ['n', 't', '\\'] → readDelimiter (a ++ String.ofList ['\\', c] ++ b) =
        readDelimiter a ++ String.ofList ['\\', c] ++ readDelimiter b) ∧
    (∀ env : Environment, Style.resolve [(ofEnvironment env).style.toDatum] =
      .ok (Style.standard.override (ofEnvironment env).style)) ∧
    ∀ (book : Workbook α) (name : String) (source : Source α) (env : Environment)
      (steps : List (Step α)) (overrides : Datum),
      let build : Action α := .build source (.environment env)
      let after := (book.perform ⟨name, build⟩).2.after steps
      let answer := (after.replyTo name (.draw overrides)).answer
      (book.replyTo name build).answer = .ok .done → (∀ step ∈ steps, step.Leaves name) →
        (overrides.Usable → ∃ text, answer = .ok (.text text)) ∧
        (¬overrides.Usable → answer = .error (.style (StyleIssue.ofDatum false overrides))) := by
  refine ⟨fun env cell row hcell hrow => ?_, fun a => readDelimiter_append_iff,
    fun a b c ha hc => readDelimiter_backslash ha hc b, fun env => ?_, ?_⟩
  · simp only [ofEnvironment, hcell, hrow, Option.map_some, readDelimiter_escaped, and_self]
  · rw [Style.resolve, List.foldlM_cons, Style.lay_toDatum]
    rfl
  intro book name source env steps overrides build after answer hbuild hsteps
  have hstyle : (after.sheet name).style = (ofEnvironment env).style.toDatum :=
    (Workbook.style_after _ hsteps).trans (Workbook.style_build_environment hbuild)
  have hown : (after.sheet name).style.Usable := by
    rw [hstyle]
    exact .inr (StyleLayer.isLayer_toDatum _)
  refine ⟨fun hover => ?_, fun hover => ?_⟩
  · have hboth : ∀ layer ∈ [(after.sheet name).style, overrides], layer.Usable :=
      List.forall_mem_cons.2 ⟨hown, fun _ hm => List.mem_singleton.1 hm ▸ hover⟩
    obtain ⟨style, hresolve⟩ := Style.exists_resolve_eq_ok_iff.2 hboth
    exact ⟨_, Workbook.answer_draw_of_ok (Sheet.draw_of_resolve hresolve)⟩
  · exact Workbook.answer_draw_of_error (Sheet.draw_of_not_usable hown hover)

/-- A backslash before a letter is given as two backslashes and the letter, and read back as no
newline. A text that is cut behind a single backslash is not read as its parts are. -/
theorem Settings.backslash_and_letter_read_back :
    let env : Environment := fun name => List.lookup name [
      ("ELASTIC_MATRIX_CELL_DELIMITER", "\\\\n\\t"), ("ELASTIC_MATRIX_ROW_DELIMITER", "\\\\")]
    (ofEnvironment env).style.cellDelimiter = some "\\n\t" ∧
      (ofEnvironment env).style.rowDelimiter = some "\\" ∧
      readDelimiter ("a\\\\" ++ "n") = readDelimiter "a\\\\" ++ readDelimiter "n" ∧
      (¬∀ b, readDelimiter ("a\\" ++ b) = readDelimiter "a\\" ++ readDelimiter b) ∧
      readDelimiter ("" ++ String.ofList ['\\', 'a'] ++ "\\t") = "\\a\t" := by
  intro env
  obtain ⟨hread, happend, hkept, -⟩ := escaped_delimiters_read_back (α := Value)
  obtain ⟨hcell, hrow⟩ := hread env "\\n\t" "\\" (by decide +kernel) (by decide +kernel)
  refine ⟨hcell, hrow, (happend "a\\\\").2 (by decide +kernel) "n", fun h => ?_, ?_⟩
  · exact absurd ((happend "a\\").1 h) (by decide +kernel)
  · rw [hkept "" "\\t" 'a' (by decide +kernel) (by decide +kernel)]
    decide +kernel

end ElasticGrid
