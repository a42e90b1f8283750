import ElasticGrid.Proofs.Runs
import ElasticGrid.Value

/-!
# Layers of style

A style is laid together from layers of plain data. A layer that says nothing is passed over; all
others have to be records with none but the fields of a style, each of its kind. If they are, the
last layer that sets a field decides it, and a field that none of them sets is as in the standard
style. If not, the first layer that is no such record is refused, and the layers after it are not
looked at.

A text without a character and the answer no are settings like all others: what says nothing is a
layer, never a field.
-/

namespace ElasticGrid

variable {α : Type}

namespace Datum

/-- A record with no fields but those of a style, each of its kind. -/
def IsLayer (layer : Datum) : Prop :=
  ∃ fields, layer = .record fields ∧
    (∀ name ∈ fields.map (·.1), ∃ field : StyleField, name = field.name) ∧
    ∀ (field : StyleField) value, field? fields field.name = some value → value.kind = field.kind

/-- Can stand among the layers of a style. -/
def Usable (layer : Datum) : Prop := layer.isBlank ∨ layer.IsLayer

def setting? (layer : Datum) (field : StyleField) : Option Datum :=
  match layer with
  | .record fields => field? fields field.name
  | _ => none

theorem setting?_of_isBlank {layer : Datum} (h : layer.isBlank) (field : StyleField) :
    layer.setting? field = none := by
  cases layer with
  | record fields => cases h
  | _ => rfl

end Datum

/-- What a style has for a field. -/
def Style.setting (style : Style) : StyleField → Datum
  | .cellDelimiter => .text style.cellDelimiter
  | .rowDelimiter => .text style.rowDelimiter
  | .absentMarker => .text style.absentMarker
  | .padCells => .truth style.padCells

theorem StyleField.mem_all (field : StyleField) : field ∈ all := by
  cases field <;> decide

namespace StyleIssue

theorem ofField_eq_none_iff {fields : List (String × Datum)} {field : StyleField} :
    ofField false fields field = none ↔
      ∀ value, Datum.field? fields field.name = some value → value.kind = field.kind := by
  unfold ofField
  cases Datum.field? fields field.name with
  | none => simp
  | some value => simp

theorem strangers_eq_nil_iff {fields : List (String × Datum)} :
    strangers fields = [] ↔ ∀ name ∈ fields.map (·.1), ∃ field : StyleField, name = field.name := by
  have hknown : ∀ name, name ∈ StyleField.all.map StyleField.name ↔
      ∃ field : StyleField, name = field.name := fun name => by
    rw [List.mem_map]
    exact ⟨fun ⟨field, _, h⟩ => ⟨field, h.symm⟩, fun ⟨field, h⟩ => ⟨field, field.mem_all, h.symm⟩⟩
  simp only [strangers, List.filter_eq_nil_iff, Bool.not_eq_true, Bool.not_eq_false',
    List.contains_iff_mem, hknown]

theorem ofDatum_eq_nil_iff {layer : Datum} : ofDatum false layer = [] ↔ layer.IsLayer := by
  cases layer with
  | record fields =>
    have hfields : StyleField.all.filterMap (ofField false fields) = [] ↔
        ∀ (field : StyleField) value, Datum.field? fields field.name = some value →
          value.kind = field.kind := by
      rw [List.filterMap_eq_nil_iff]
      exact ⟨fun h field => ofField_eq_none_iff.1 (h field field.mem_all),
        fun h field _ => ofField_eq_none_iff.2 (h field)⟩
    have hstrangers :
        (if (strangers fields).isEmpty then [] else [unknownFields (strangers fields)]) = [] ↔
          ∀ name ∈ fields.map (·.1), ∃ field : StyleField, name = field.name := by
      rw [← strangers_eq_nil_iff]
      cases strangers fields <;> simp
    rw [ofDatum, List.append_eq_nil_iff, hfields, hstrangers, and_comm]
    exact ⟨fun h => ⟨fields, rfl, h⟩, fun ⟨_, heq, h⟩ => by cases heq; exact h⟩
  | _ => exact iff_of_false (List.cons_ne_nil _ _) fun ⟨_, h, _⟩ => nomatch h

end StyleIssue

instance (layer : Datum) : Decidable layer.IsLayer :=
  decidable_of_iff _ StyleIssue.ofDatum_eq_nil_iff

instance (layer : Datum) : Decidable layer.Usable := inferInstanceAs (Decidable (_ ∨ _))

namespace StyleLayer

theorem ofDatum_of_isLayer {layer : Datum} (h : layer.IsLayer) :
    ∃ fields, layer = .record fields ∧ ofDatum layer = .ok (ofFields fields) := by
  have hnil := StyleIssue.ofDatum_eq_nil_iff.2 h
  obtain ⟨fields, rfl, -⟩ := h
  exact ⟨fields, rfl, by simp only [ofDatum, hnil]⟩

theorem ofDatum_of_not_isLayer {layer : Datum} (h : ¬layer.IsLayer) :
    ofDatum layer = .error (StyleIssue.ofDatum false layer) := by
  rw [← StyleIssue.ofDatum_eq_nil_iff] at h
  unfold ofDatum
  split
  · next hnil => exact absurd hnil h
  · rfl

variable {fields : List (String × Datum)} {field : StyleField}

theorem text_textField
    (h : ∀ value, Datum.field? fields field.name = some value → value.kind = .text) (s : String) :
    Datum.text ((textField fields field).getD s) =
      (Datum.field? fields field.name).getD (.text s) := by
  unfold textField
  cases hvalue : Datum.field? fields field.name with
  | none => rfl
  | some value =>
    obtain ⟨t, rfl⟩ := Datum.kind_eq_text_iff.1 (h value hvalue)
    rfl

theorem truth_truthField
    (h : ∀ value, Datum.field? fields field.name = some value → value.kind = .truth) (b : Bool) :
    Datum.truth ((truthField fields field).getD b) =
      (Datum.field? fields field.name).getD (.truth b) := by
  unfold truthField
  cases hvalue : Datum.field? fields field.name with
  | none => rfl
  | some value =>
    obtain ⟨c, rfl⟩ := Datum.kind_eq_truth_iff.1 (h value hvalue)
    rfl

end StyleLayer

namespace Style

variable {style style' : Style} {layer : Datum} {layers : List Datum} {issues : List StyleIssue}

theorem setting_injective (h : ∀ field, style.setting field = style'.setting field) :
    style = style' := by
  cases style with
  | mk cell row absent pad =>
    cases style' with
    | mk cell' row' absent' pad' =>
      obtain rfl : cell = cell' := Datum.text.inj (h .cellDelimiter)
      obtain rfl : row = row' := Datum.text.inj (h .rowDelimiter)
      obtain rfl : absent = absent' := Datum.text.inj (h .absentMarker)
      obtain rfl : pad = pad' := Datum.truth.inj (h .padCells)
      rfl

/-! ## One layer -/

theorem lay_of_isBlank (h : layer.isBlank) (style : Style) : style.lay layer = .ok style := by
  rw [lay, if_pos h]

/-- A layer that can be used decides the fields that it sets and no others. -/
theorem lay_of_usable (h : layer.Usable) (style : Style) :
    ∃ out, style.lay layer = .ok out ∧
      ∀ field, out.setting field = (layer.setting? field).getD (style.setting field) := by
  rcases h with hblank | hlayer
  · refine ⟨style, lay_of_isBlank hblank style, fun field => ?_⟩
    rw [Datum.setting?_of_isBlank hblank, Option.getD_none]
  · obtain ⟨fields, rfl, hread⟩ := StyleLayer.ofDatum_of_isLayer hlayer
    obtain ⟨_, heq, -, hkind⟩ := hlayer
    cases heq
    refine ⟨style.override (.ofFields fields), ?_, fun field => ?_⟩
    · rw [lay, hread]; rfl
    · cases field with
      | padCells => exact StyleLayer.truth_truthField (hkind .padCells) _
      | _ => exact StyleLayer.text_textField (hkind _) _

/-- Any other layer is refused, whatever it is laid over. -/
theorem lay_of_not_usable (h : ¬layer.Usable) (style : Style) :
    style.lay layer = .error (StyleIssue.ofDatum false layer) := by
  obtain ⟨hblank, hlayer⟩ := not_or.1 h
  rw [lay, if_neg hblank, StyleLayer.ofDatum_of_not_isLayer hlayer]
  rfl

/-! ## Layer on layer -/

/-- What layers set a field to: the last one that sets it counts. -/
def lastSetting (layers : List Datum) (field : StyleField) : Option Datum :=
  layers.reverse.findSome? fun layer => layer.setting? field

theorem lastSetting_cons (layer : Datum) (layers : List Datum) (field : StyleField) :
    lastSetting (layer :: layers) field =
      (lastSetting layers field).or (layer.setting? field) := by
  rw [lastSetting, List.reverse_cons, List.findSome?_append]
  simp [lastSetting]

theorem foldlM_lay_of_usable (h : ∀ layer ∈ layers, layer.Usable) (style : Style) :
    ∃ out, layers.foldlM lay style = .ok out ∧
      ∀ field, out.setting field = (lastSetting layers field).getD (style.setting field) := by
  induction layers generalizing style with
  | nil => exact ⟨style, rfl, fun _ => rfl⟩
  | cons layer layers ih =>
    obtain ⟨hlayer, hlayers⟩ := List.forall_mem_cons.1 h
    obtain ⟨next, hnext, hset⟩ := lay_of_usable hlayer style
    obtain ⟨out, hout, hsets⟩ := ih hlayers next
    refine ⟨out, ?_, fun field => ?_⟩
    · rw [List.foldlM_cons, hnext]; exact hout
    · rw [hsets, hset, lastSetting_cons, Option.getD_or]

theorem foldlM_lay_of_not_usable {before after : List Datum} (h : ∀ layer ∈ before, layer.Usable)
    (hlayer : ¬layer.Usable) (style : Style) :
    (before ++ layer :: after).foldlM lay style = .error (StyleIssue.ofDatum false layer) := by
  obtain ⟨out, hout, -⟩ := foldlM_lay_of_usable h style
  rw [List.foldlM_append, hout]
  show lay out layer >>= _ = _
  rw [lay_of_not_usable hlayer]
  rfl

/-- All layers can be used, or there is a first one that cannot. -/
theorem usable_or_first_not_usable (layers : List Datum) :
    (∀ layer ∈ layers, layer.Usable) ∨
      ∃ before layer after, layers = before ++ layer :: after ∧
        (∀ layer ∈ before, layer.Usable) ∧ ¬layer.Usable := by
  induction layers with
  | nil => exact .inl fun _ hm => absurd hm List.not_mem_nil
  | cons layer layers ih =>
    by_cases hlayer : layer.Usable
    · rcases ih with hlayers | ⟨before, bad, after, rfl, hbefore, hbad⟩
      · exact .inl (List.forall_mem_cons.2 ⟨hlayer, hlayers⟩)
      · exact .inr
          ⟨layer :: before, bad, after, rfl, List.forall_mem_cons.2 ⟨hlayer, hbefore⟩, hbad⟩
    · exact .inr ⟨[], layer, layers, rfl, fun _ hm => absurd hm List.not_mem_nil, hlayer⟩

theorem resolve_eq_ok_iff :
    resolve layers = .ok style ↔ (∀ layer ∈ layers, layer.Usable) ∧
      ∀ field, style.setting field = (lastSetting layers field).getD (standard.setting field) := by
  constructor
  · intro h
    rcases usable_or_first_not_usable layers with hall | ⟨before, layer, after, rfl, hbefore, hbad⟩
    · obtain ⟨out, hout, hset⟩ := foldlM_lay_of_usable hall standard
      obtain rfl : out = style := Except.ok.inj (hout.symm.trans h)
      exact ⟨hall, hset⟩
    · rw [resolve, foldlM_lay_of_not_usable hbefore hbad] at h
      cases h
  · rintro ⟨hall, hset⟩
    obtain ⟨out, hout, hset'⟩ := foldlM_lay_of_usable hall standard
    obtain rfl : out = style := setting_injective fun field => (hset' field).trans (hset field).symm
    exact hout

theorem exists_resolve_eq_ok_iff :
    (∃ style, resolve layers = .ok style) ↔ ∀ layer ∈ layers, layer.Usable := by
  refine ⟨fun ⟨_, h⟩ => (resolve_eq_ok_iff.1 h).1, fun h => ?_⟩
  obtain ⟨out, hout, -⟩ := foldlM_lay_of_usable h standard
  exact ⟨out, hout⟩

theorem resolve_eq_error_iff :
    resolve layers = .error issues ↔ ∃ before layer after, layers = before ++ layer :: after ∧
      (∀ layer ∈ before, layer.Usable) ∧ ¬layer.Usable ∧
      issues = StyleIssue.ofDatum false layer := by
  constructor
  · intro h
    rcases usable_or_first_not_usable layers with hall | ⟨before, layer, after, rfl, hbefore, hbad⟩
    · obtain ⟨out, hout, -⟩ := foldlM_lay_of_usable hall standard
      cases hout.symm.trans h
    · rw [resolve, foldlM_lay_of_not_usable hbefore hbad] at h
      exact ⟨before, layer, after, rfl, hbefore, hbad, (Except.error.inj h).symm⟩
  · rintro ⟨before, layer, after, rfl, hbefore, hbad, rfl⟩
    exact foldlM_lay_of_not_usable hbefore hbad standard

/-- Layers that say nothing make no difference, wherever they stand. -/
theorem foldlM_lay_filter (layers : List Datum) (style : Style) :
    (layers.filter fun layer => !layer.isBlank).foldlM lay style = layers.foldlM lay style := by
  induction layers generalizing style with
  | nil => rfl
  | cons layer layers ih =>
    cases hblank : layer.isBlank with
    | false =>
      rw [List.filter_cons_of_pos (by simp [hblank]), List.foldlM_cons, List.foldlM_cons]
      exact bind_congr fun next => ih next
    | true =>
      rw [List.filter_cons_of_neg (by simp [hblank]), List.foldlM_cons, lay_of_isBlank hblank]
      exact ih style

theorem resolve_layer_cons (style : Style) (layers : List Datum) :
    resolve (style.layer.toDatum :: layers) = layers.foldlM lay style := by
  rw [resolve, List.foldlM_cons, lay_toDatum, override_layer]
  rfl

/-- A style that was resolved stands for the layers that it was made of. -/
theorem resolve_append (h : resolve layers = .ok style) (others : List Datum) :
    resolve (layers ++ others) = resolve (style.layer.toDatum :: others) := by
  rw [resolve_layer_cons, resolve, List.foldlM_append, ← resolve, h]
  rfl

/-- As plain data a style has every field, so it is read back even where none may be left out. -/
theorem ofDatum_layer (style : Style) : ofDatum style.layer.toDatum = .ok style := rfl

end Style

theorem Sheet.draw_of_resolve [Content α] {sheet : Sheet α} {overrides : Datum} {style : Style}
    (h : Style.resolve [sheet.style, overrides] = .ok style) :
    sheet.draw overrides = .ok (style.draw Content.text sheet.grid.columns) := by
  rw [draw, h]
  rfl

theorem Sheet.draw_of_own_not_usable [Content α] {sheet : Sheet α} (h : ¬sheet.style.Usable)
    (overrides : Datum) : sheet.draw overrides = .error (StyleIssue.ofDatum false sheet.style) := by
  have hissues : Style.resolve [sheet.style, overrides] = _ := Style.resolve_eq_error_iff.2
    ⟨[], sheet.style, [overrides], rfl, fun _ hm => absurd hm List.not_mem_nil, h, rfl⟩
  rw [draw, hissues]
  rfl

theorem Sheet.draw_of_not_usable [Content α] {sheet : Sheet α} {overrides : Datum}
    (hown : sheet.style.Usable) (h : ¬overrides.Usable) :
    sheet.draw overrides = .error (StyleIssue.ofDatum false overrides) := by
  have hissues : Style.resolve [sheet.style, overrides] = _ := Style.resolve_eq_error_iff.2
    ⟨[sheet.style], overrides, [], rfl, fun _ hm => List.mem_singleton.1 hm ▸ hown, h, rfl⟩
  rw [draw, hissues]
  rfl

section

variable [Content α] {book : Workbook α} {name : String} {overrides : Datum}

theorem Workbook.answer_draw_of_ok {text : String}
    (h : (book.sheet name).draw overrides = .ok text) :
    (book.replyTo name (.draw overrides)).answer = .ok (.text text) := by
  show (((book.sheet name).draw overrides).map Answer.text).mapError Fault.style = _
  rw [h]
  rfl

theorem Workbook.answer_draw_of_error {issues : List StyleIssue}
    (h : (book.sheet name).draw overrides = .error issues) :
    (book.replyTo name (.draw overrides)).answer = .error (.style issues) := by
  show (((book.sheet name).draw overrides).map Answer.text).mapError Fault.style = _
  rw [h]
  rfl

end

/-- **The last layer that sets a field decides it, and the first bad layer is refused.** So a style
stands for the layers that it was made of, and layers that say nothing count for nothing. A sheet
that has a bad style of its own is refused for it, whatever style it is to be drawn in. -/
theorem Style.last_setting_decides [Content α] :
    (∀ layers,
      ((∃ style, resolve layers = .ok style) ↔ ∀ layer ∈ layers, layer.Usable) ∧
      (∀ issues, resolve layers = .error issues ↔ ∃ before layer after,
        layers = before ++ layer :: after ∧ (∀ layer ∈ before, layer.Usable) ∧ ¬layer.Usable ∧
          issues = StyleIssue.ofDatum false layer) ∧
      ∀ style, resolve layers = .ok style →
        (∀ field, style.setting field =
          (lastSetting layers field).getD (standard.setting field)) ∧
        ofDatum style.layer.toDatum = .ok style ∧
        ∀ others, resolve (layers ++ others) = resolve (style.layer.toDatum :: others)) ∧
    (∀ layers layers' : List Datum, layers.filter (!·.isBlank) = layers'.filter (!·.isBlank) →
      resolve layers = resolve layers') ∧
    ∀ (book : Workbook α) (name : String) (overrides : Datum),
      let own := (book.sheet name).style
      let answer := (book.replyTo name (.draw overrides)).answer
      (∀ style, resolve [own, overrides] = .ok style →
        answer = .ok (.text (style.draw Content.text (book.sheet name).grid.columns))) ∧
      (¬own.Usable → answer = .error (.style (StyleIssue.ofDatum false own))) ∧
      (own.Usable → ¬overrides.Usable →
        answer = .error (.style (StyleIssue.ofDatum false overrides))) := by
  refine ⟨fun layers => ⟨exists_resolve_eq_ok_iff, fun issues => resolve_eq_error_iff,
    fun style hstyle => ⟨(resolve_eq_ok_iff.1 hstyle).2, style.ofDatum_layer,
      resolve_append hstyle⟩⟩, fun layers layers' hfilter => ?_, fun book name overrides => ?_⟩
  · rw [resolve, ← foldlM_lay_filter, hfilter, foldlM_lay_filter, resolve]
  exact ⟨fun style hstyle => Workbook.answer_draw_of_ok (Sheet.draw_of_resolve hstyle),
    fun hown => Workbook.answer_draw_of_error (Sheet.draw_of_own_not_usable hown overrides),
    fun hown hover => Workbook.answer_draw_of_error (Sheet.draw_of_not_usable hown hover)⟩

/-- An empty delimiter and the answer no are settings, whatever says nothing between the layers. Of
two bad layers the first is refused, for a field of the wrong kind and for one that is unknown. -/
theorem Style.empty_and_false_are_settings :
    let first : Datum := .record [("cellDelimiter", .text ""), ("padCells", .truth false)]
    let second : Datum := .record [("rowDelimiter", .text ";"), ("cellDelimiter", .text "")]
    let bad : Datum := .record [("padCells", .null), ("width", .number (.ofNat 4))]
    let style : Style := ⟨"", ";", "", false⟩
    resolve [first, .null, second, .truth false] = .ok style ∧
      resolve ([first, .null, second, .truth false] ++ [bad]) = resolve [style.layer.toDatum, bad] ∧
      resolve [first, second] = .ok style ∧
      resolve [first, bad, .text "x"] =
        .error [.wrongKind .padCells .null, .unknownFields ["width"]] := by
  intro first second bad style
  obtain ⟨hlayers, hblank, -⟩ := last_setting_decides (α := Value)
  have hstyle : resolve [first, .null, second, .truth false] = .ok style := rfl
  refine ⟨hstyle, ((hlayers _).2.2 style hstyle).2.2 [bad], ?_, ?_⟩
  · exact (hblank [first, second] [first, .null, second, .truth false] rfl).trans hstyle
  · exact ((hlayers _).2.1 _).2 ⟨[first], bad, [.text "x"], rfl,
      fun _ hm => List.mem_singleton.1 hm ▸ by decide +kernel, by decide +kernel, rfl⟩

end ElasticGrid
