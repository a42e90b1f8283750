import ElasticGrid.Sheet

/-!
# Workbooks

A workbook holds sheets by name; a name that was never used stands for a blank
sheet. A step works on one of the sheets and is replied to with an answer or a
fault, the sheet as it is after the step and the records that the step left.
-/

namespace ElasticGrid

structure Workbook (α : Type) where
  sheets : List (String × Sheet α)

inductive Action (α : Type) where
  /-- Puts a new sheet in the place of the old one. -/
  | build (source : Source α) (setup : Setup)
  /-- Gives a copy of the sheet another name. -/
  | clone (name : String)
  | edit (edit : Edit α)
  | ask (query : Query α)
  | draw (overrides : Datum)
  | compare (other : String) (test : α → α → Bool)

structure Step (α : Type) where
  sheet : String
  action : Action α

inductive Answer (α : Type) where
  | done
  | returned (cells : Returned α)
  | view (view : View α)
  | text (text : String)
  | comparison (comparison : Comparison α)

structure Reply (α : Type) where
  answer : Except Fault (Answer α)
  sheet : Sheet α
  records : List Record

namespace Workbook

variable {α : Type}

def empty : Workbook α := ⟨[]⟩

def sheet (book : Workbook α) (name : String) : Sheet α :=
  ((book.sheets.find? fun entry => entry.1 == name).map (·.2)).getD .blank

def put (book : Workbook α) (name : String) (sheet : Sheet α) : Workbook α :=
  ⟨(name, sheet) :: book.sheets.filter fun entry => entry.1 != name⟩

theorem sheet_put (book : Workbook α) (name other : String) (sheet : Sheet α) :
    (book.put name sheet).sheet other = if other = name then sheet else book.sheet other := by
  by_cases h : other = name
  · simp [put, Workbook.sheet, h]
  · have hne : (name == other) = false := by simpa using fun e => h e.symm
    simp only [put, Workbook.sheet, List.find?_cons, hne, h, if_false]
    rw [List.find?_filter]
    congr 3
    funext entry
    by_cases he : entry.1 = other <;> simp [he, h]

/-- Replies without changing anything. -/
def look (book : Workbook α) (name : String) (answer : Except Fault (Answer α)) :
    Reply α × Workbook α :=
  (⟨answer, book.sheet name, []⟩, book)

/-- Gives a sheet the grid of a draft. -/
def adopt (book : Workbook α) (name : String) (sheet : Sheet α) (draft : Draft α)
    (answer : Except Fault (Answer α)) : Reply α × Workbook α :=
  let (sheet, records) := sheet.adopt draft
  (⟨answer, sheet, records⟩, book.put name sheet)

/-- A sheet that cannot be built leaves the old one in its place. -/
def build (book : Workbook α) (name : String) (source : Source α) (setup : Setup) :
    Reply α × Workbook α :=
  match setup.sheet with
  | .error fault => book.look name (.error fault)
  | .ok sheet =>
    match source.run with
    | (.error fault, _) => book.look name (.error (.index fault))
    | (.ok (), draft) => book.adopt name sheet draft (.ok .done)

/-- A sheet compared with itself is equal without a look at its cells. -/
def compare (book : Workbook α) (name other : String) (test : α → α → Bool) : Comparison α :=
  if name = other then .identical else (book.sheet name).grid.compare test (book.sheet other).grid

def perform [Content α] (book : Workbook α) (step : Step α) : Reply α × Workbook α :=
  let name := step.sheet
  let sheet := book.sheet name
  match step.action with
  | .build source setup => book.build name source setup
  | .clone target =>
    let book := book.put target sheet
    book.look name (.ok .done)
  | .edit edit =>
    let (outcome, draft) := edit.run sheet.grid
    book.adopt name sheet draft ((outcome.map .returned).mapError .index)
  | .ask query => book.look name ((query.answer sheet.grid).map .view |>.mapError .index)
  | .draw overrides => book.look name ((sheet.draw overrides).map .text |>.mapError .style)
  | .compare other test => book.look name (.ok (.comparison (book.compare name other test)))

/-- The replies to some steps, one after the other. -/
def run [Content α] : List (Step α) → Workbook α → List (Reply α)
  | [], _ => []
  | step :: steps, book =>
    let (reply, book) := book.perform step
    reply :: run steps book

end Workbook

end ElasticGrid
