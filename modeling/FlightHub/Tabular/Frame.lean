import Mathlib.Data.List.Basic

/-! Data frames as pandas builds them from a list of dicts: the columns are the
keys which occur in some record, and a step which names a column fails when the
frame has no such column. A missing value is `none`. -/
namespace Tabular

/-- A dict from columns to values. -/
abbrev Record (C V : Type) := List (C × Option V)

def Record.columns {C V : Type} (record : Record C V) : List C := record.map Prod.fst

structure Frame (C V : Type) where
  columns : List C
  rows : List (Record C V)
  shape : ∀ row ∈ rows, Record.columns row = columns

section Definitions
variable {C V : Type} [DecidableEq C]

/-- The keys in the order of their first occurrence. -/
def columnsOf (records : List (Record C V)) : List C :=
  records.foldl (fun columns record => columns ++ record.columns.filter (· ∉ columns)) []

def Record.get (record : Record C V) (column : C) : Option V := (record.lookup column).join

/-- The cells of a record under some columns. -/
def Record.align (columns : List C) (record : Record C V) : Record C V :=
  columns.map fun column => (column, record.get column)

def fromRecords (records : List (Record C V)) : Frame C V where
  columns := columnsOf records
  rows := records.map (Record.align (columnsOf records))
  shape := by
    intro row member
    obtain ⟨record, -, rfl⟩ := List.mem_map.mp member
    rw [Record.columns, Record.align, List.map_map]
    exact List.map_id _

def Frame.missing (frame : Frame C V) (columns : List C) : List C :=
  columns.filter (· ∉ frame.columns)

/-- Only the rows with a value in each of some columns; the error names the
columns which the frame lacks. -/
def Frame.dropna (frame : Frame C V) (subset : List C) : Except (List C) (Frame C V) :=
  if frame.missing subset = [] then
    .ok {
      columns := frame.columns
      rows := frame.rows.filter fun row => subset.all fun column => (row.get column).isSome
      shape := fun row member => frame.shape row (List.mem_of_mem_filter member) }
  else .error (frame.missing subset)

def Record.without (columns : List C) (record : Record C V) : Record C V :=
  record.filter fun cell => cell.1 ∉ columns

/-- The frame without some columns. -/
def Frame.drop (frame : Frame C V) (columns : List C) : Except (List C) (Frame C V) :=
  if frame.missing columns = [] then
    .ok {
      columns := frame.columns.filter (· ∉ columns)
      rows := frame.rows.map (Record.without columns)
      shape := by
        intro row member
        obtain ⟨whole, within, rfl⟩ := List.mem_map.mp member
        rw [← frame.shape whole within, Record.columns, Record.columns, List.filter_map]
        rfl }
  else .error (frame.missing columns)

def Frame.empty (frame : Frame C V) : Bool := frame.columns.isEmpty || frame.rows.isEmpty

end Definitions

/-! ### Columns -/

section Columns
variable {C V : Type} [DecidableEq C] {records : List (Record C V)} {columns known : List C}

theorem mem_foldl_columns (records : List (Record C V)) (known : List C) (column : C) :
    column ∈ records.foldl (fun columns record => columns ++ record.columns.filter (· ∉ columns)) known ↔
      column ∈ known ∨ ∃ record ∈ records, column ∈ record.columns := by
  induction records generalizing known with
  | nil => simp
  | cons record rest ih =>
    rw [List.foldl_cons, ih]
    by_cases already : column ∈ known
    · simp [already]
    · simp [already]

/-- A frame has a column for each key of some record. -/
theorem mem_columnsOf {column : C} :
    column ∈ columnsOf records ↔ ∃ record ∈ records, column ∈ record.columns := by
  rw [columnsOf, mem_foldl_columns]
  simp

theorem foldl_columns_known (all : ∀ record ∈ records, record.columns = columns) :
    records.foldl (fun known record => known ++ record.columns.filter (· ∉ known)) columns = columns := by
  induction records with
  | nil => rfl
  | cons record rest ih =>
    obtain ⟨same, all⟩ := List.forall_mem_cons.mp all
    have nothing : record.columns.filter (· ∉ columns) = [] := by simp [same]
    rw [List.foldl_cons, nothing, List.append_nil]
    exact ih all

/-- Records of the same keys make a frame of these columns, unless there is no record. -/
theorem columnsOf_eq (nonempty : records ≠ []) (all : ∀ record ∈ records, record.columns = columns) :
    columnsOf records = columns := by
  cases records with
  | nil => exact absurd rfl nonempty
  | cons record rest =>
    obtain ⟨same, all⟩ := List.forall_mem_cons.mp all
    have every : record.columns.filter (· ∉ ([] : List C)) = columns := by simp [same]
    rw [columnsOf, List.foldl_cons, every, List.nil_append]
    exact foldl_columns_known all

end Columns

/-! ### Rows -/

section Rows
variable {C V : Type} [DecidableEq C] {records : List (Record C V)} {columns : List C}
  {record : Record C V} {frame : Frame C V}

theorem align_columns (distinct : record.columns.Nodup) : record.align record.columns = record := by
  induction record with
  | nil => rfl
  | cons cell rest ih =>
    obtain ⟨key, value⟩ := cell
    obtain ⟨fresh, distinct⟩ := List.nodup_cons.mp distinct
    have head : Record.get ((key, value) :: rest) key = value := by simp [Record.get]
    have tail : ∀ column ∈ rest.map Prod.fst,
        (column, Record.get ((key, value) :: rest) column) = (column, Record.get rest column) := by
      intro column member
      have other : column ≠ key := fun same => fresh (same ▸ member)
      simp [Record.get, List.lookup_cons, beq_false_of_ne other]
    rw [Record.align, Record.columns, List.map_cons, List.map_cons, head, List.map_congr_left tail]
    exact congrArg ((key, value) :: ·) (ih distinct)

/-- The rows of a frame are the records, when these have the same keys. -/
theorem fromRecords_rows (distinct : columns.Nodup) (all : ∀ record ∈ records, record.columns = columns) :
    (fromRecords records).rows = records := by
  cases records with
  | nil => rfl
  | cons first rest =>
    refine (List.map_congr_left fun record member => ?_).trans (List.map_id _)
    rw [columnsOf_eq (List.cons_ne_nil _ _) all, ← all record member]
    exact align_columns (all record member ▸ distinct)

theorem fromRecords_columns (nonempty : records ≠ [])
    (all : ∀ record ∈ records, record.columns = columns) : (fromRecords records).columns = columns :=
  columnsOf_eq nonempty all

/-- Without a record there is no column to name. -/
theorem missing_fromRecords_nil : (fromRecords ([] : List (Record C V))).missing columns = columns := by
  rw [Frame.missing, List.filter_eq_self]
  intro column _
  have absent : column ∉ (fromRecords ([] : List (Record C V))).columns := by
    intro present
    obtain ⟨record, member, _⟩ := mem_columnsOf.mp present
    cases member
  simpa using absent

theorem missing_eq_nil (present : columns ⊆ frame.columns) : frame.missing columns = [] := by
  simpa [Frame.missing] using fun column member => present member

theorem dropna_ok (present : columns ⊆ frame.columns) : ∃ complete, frame.dropna columns = .ok complete ∧
    complete.columns = frame.columns ∧
    complete.rows = frame.rows.filter fun row => columns.all fun column => (row.get column).isSome :=
  ⟨_, if_pos (missing_eq_nil present), rfl, rfl⟩

theorem dropna_error (absent : frame.missing columns ≠ []) :
    frame.dropna columns = .error (frame.missing columns) :=
  if_neg absent

theorem drop_ok (present : columns ⊆ frame.columns) : ∃ rest, frame.drop columns = .ok rest ∧
    rest.columns = frame.columns.filter (· ∉ columns) ∧
    rest.rows = frame.rows.map (Record.without columns) :=
  ⟨_, if_pos (missing_eq_nil present), rfl, rfl⟩

end Rows

end Tabular
