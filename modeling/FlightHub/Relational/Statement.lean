import Mathlib.Data.List.Nodup
import Mathlib.Logic.Function.Basic

/-! Parameterized INSERT and INSERT … ON CONFLICT statements over rows of named
columns. Columns, parameter names and values are arbitrary types. A table is a
list of rows; the order of the list carries no meaning. -/
namespace Relational
variable {C P V : Type*}

abbrev Row (C V : Type*) := C → V

/-- `INSERT INTO … (columns) VALUES (%(name)s, …)`, by the names of its placeholders.
The server refuses a repeated column and a row of another width. -/
structure InsertStatement (C P : Type*) where
  columns : List C
  values : List P
  columns_distinct : columns.Nodup
  same_width : columns.length = values.length

/-- The right side of a `SET` item: a column of the row proposed for insertion,
or the time at which the transaction started. -/
inductive Source (C : Type*) where
  | excluded (column : C)
  | now
deriving DecidableEq

/-- `INSERT … ON CONFLICT (conflict) DO UPDATE SET …`. -/
structure UpsertStatement (C P : Type*) extends InsertStatement C P where
  conflict : C
  set : List (C × Source C)
  set_distinct : (set.map Prod.fst).Nodup

section Rows
variable [DecidableEq C]

def assign (items : List (C × V)) (row : Row C V) : Row C V :=
  items.foldl (fun row item => Function.update row item.1 item.2) row

theorem assign_other {items : List (C × V)} {column : C}
    (absent : column ∉ items.map Prod.fst) (row : Row C V) : assign items row column = row column := by
  induction items generalizing row with
  | nil => rfl
  | cons item items ih =>
    simp only [List.map_cons, List.mem_cons, not_or] at absent
    exact (ih absent.2 _).trans (Function.update_of_ne absent.1 _ _)

theorem assign_item {items : List (C × V)} (distinct : (items.map Prod.fst).Nodup)
    (member : (column, value) ∈ items) (row : Row C V) : assign items row column = value := by
  induction items generalizing row with
  | nil => simp at member
  | cons item items ih =>
    obtain ⟨fresh, distinct⟩ := List.nodup_cons.mp distinct
    rcases List.mem_cons.mp member with rfl | member
    · exact (assign_other fresh _).trans (Function.update_self _ _ _)
    · exact ih distinct member _

/-- The row proposed for insertion: the listed columns from the parameters, the
others by default. -/
def InsertStatement.row (stmt : InsertStatement C P) (defaults : Row C V) (params : P → V) : Row C V :=
  assign (stmt.columns.zip (stmt.values.map params)) defaults

theorem InsertStatement.row_listed {stmt : InsertStatement C P} {column : C} {name : P}
    (listed : (column, name) ∈ stmt.columns.zip stmt.values) (defaults : Row C V) (params : P → V) :
    stmt.row defaults params column = params name := by
  apply assign_item
  · rw [List.map_fst_zip (by simp [stmt.same_width])]
    exact stmt.columns_distinct
  · rw [List.zip_map_right]
    exact List.mem_map.mpr ⟨(column, name), listed, rfl⟩

theorem InsertStatement.row_unlisted {stmt : InsertStatement C P} {column : C}
    (unlisted : column ∉ stmt.columns) (defaults : Row C V) (params : P → V) :
    stmt.row defaults params column = defaults column := by
  apply assign_other
  rwa [List.map_fst_zip (by simp [stmt.same_width])]

def Source.value (now : V) (proposed : Row C V) : Source C → V
  | .excluded column => proposed column
  | .now => now

def UpsertStatement.update (stmt : UpsertStatement C P) (now : V) (old proposed : Row C V) : Row C V :=
  assign (stmt.set.map fun item => (item.1, item.2.value now proposed)) old

theorem UpsertStatement.update_listed {stmt : UpsertStatement C P} {column : C} {source : Source C}
    (listed : (column, source) ∈ stmt.set) (now : V) (old proposed : Row C V) :
    stmt.update now old proposed column = source.value now proposed := by
  apply assign_item
  · simpa only [List.map_map, Function.comp_def] using stmt.set_distinct
  · exact List.mem_map.mpr ⟨(column, source), listed, rfl⟩

theorem UpsertStatement.update_unlisted {stmt : UpsertStatement C P} {column : C}
    (unlisted : column ∉ stmt.set.map Prod.fst) (now : V) (old proposed : Row C V) :
    stmt.update now old proposed column = old column := by
  apply assign_other
  simpa only [List.map_map, Function.comp_def] using unlisted

def InsertStatement.execute (stmt : InsertStatement C P) (defaults : Row C V) (params : P → V)
    (table : List (Row C V)) : List (Row C V) :=
  table ++ [stmt.row defaults params]

end Rows

section Tables
variable [DecidableEq V]

/-- Update the first row in conflict with the proposed one, or insert it. -/
def place (key : C) (update : Row C V → Row C V) (proposed : Row C V) :
    List (Row C V) → List (Row C V)
  | [] => [proposed]
  | old :: rest =>
    if old key = proposed key then update old :: rest else old :: place key update proposed rest

def UpsertStatement.execute [DecidableEq C] (stmt : UpsertStatement C P) (now : V) (defaults : Row C V) (params : P → V)
    (table : List (Row C V)) : List (Row C V) :=
  let proposed := stmt.row defaults params
  place stmt.conflict (stmt.update now · proposed) proposed table

def lookup (key : C) (k : V) (table : List (Row C V)) : Option (Row C V) :=
  table.find? (fun row => row key = k)

def KeysUnique (key : C) (table : List (Row C V)) : Prop := (table.map (· key)).Nodup

variable {key : C} {update : Row C V → Row C V} {proposed : Row C V}

/-- Only the row under the proposed key can differ, and it is the update of
what was stored there or the proposed row itself. -/
theorem lookup_place (keeps : ∀ old, old key = proposed key → update old key = proposed key)
    (k : V) (table : List (Row C V)) :
    lookup key k (place key update proposed table) =
      if proposed key = k then some ((lookup key k table).elim proposed update)
      else lookup key k table := by
  induction table with
  | nil =>
    by_cases same : proposed key = k <;> simp [place, lookup, same]
  | cons old rest ih =>
    simp only [lookup] at ih ⊢
    by_cases conflict : old key = proposed key
    · by_cases same : proposed key = k
      · simp [place, conflict, same, keeps old conflict]
      · simp [place, conflict, same, keeps old conflict]
    · by_cases same : proposed key = k
      · have differs : old key ≠ k := fun equal => conflict (equal.trans same.symm)
        simp [place, same, differs, ih]
      · simp [place, conflict, same, List.find?_cons, ih]

/-- The row which `place` stores, whether it was inserted or updated. -/
def Placed (key : C) (update : Row C V → Row C V) (proposed row : Row C V) : Prop :=
  row = proposed ∨ ∃ old, old key = proposed key ∧ row = update old

theorem mem_place {row : Row C V} {table : List (Row C V)}
    (member : row ∈ place key update proposed table) :
    row ∈ table ∨ Placed key update proposed row := by
  induction table with
  | nil => exact .inr (.inl (List.mem_singleton.mp member))
  | cons old rest ih =>
    unfold place at member
    split at member
    · next conflict =>
      rcases List.mem_cons.mp member with rfl | member
      · exact .inr (.inr ⟨old, conflict, rfl⟩)
      · exact .inl (List.mem_cons_of_mem _ member)
    · rcases List.mem_cons.mp member with rfl | member
      · exact .inl List.mem_cons_self
      · exact (ih member).imp_left (List.mem_cons_of_mem _)

theorem exists_placed (key : C) (update : Row C V → Row C V) (proposed : Row C V)
    (table : List (Row C V)) :
    ∃ row ∈ place key update proposed table, Placed key update proposed row := by
  induction table with
  | nil => exact ⟨proposed, List.mem_singleton.mpr rfl, .inl rfl⟩
  | cons old rest ih =>
    unfold place
    split
    · next conflict => exact ⟨update old, List.mem_cons_self, .inr ⟨old, conflict, rfl⟩⟩
    · obtain ⟨row, member, placed⟩ := ih
      exact ⟨row, List.mem_cons_of_mem _ member, placed⟩

theorem filter_place (keeps : ∀ old, old key = proposed key → update old key = proposed key)
    (table : List (Row C V)) :
    (place key update proposed table).filter (fun row => row key ≠ proposed key) =
      table.filter (fun row => row key ≠ proposed key) := by
  induction table with
  | nil => simp [place]
  | cons old rest ih =>
    by_cases conflict : old key = proposed key
    · simp [place, conflict, keeps old conflict]
    · simpa [place, conflict] using ih

theorem keys_place (keeps : ∀ old, old key = proposed key → update old key = proposed key)
    (table : List (Row C V)) :
    (place key update proposed table).map (· key) =
      if proposed key ∈ table.map (· key) then table.map (· key)
      else table.map (· key) ++ [proposed key] := by
  induction table with
  | nil => simp [place]
  | cons old rest ih =>
    by_cases conflict : old key = proposed key
    · simp [place, conflict, keeps old conflict]
    · have differs : proposed key ≠ old key := fun equal => conflict equal.symm
      by_cases stored : proposed key ∈ rest.map (· key)
      · simp only [place, conflict, if_false, List.map_cons, ih, stored, if_true,
          List.mem_cons, or_true]
      · simp only [place, conflict, if_false, List.map_cons, ih, stored, List.mem_cons, differs,
          or_self, List.cons_append]

theorem keysUnique_place (keeps : ∀ old, old key = proposed key → update old key = proposed key)
    {table : List (Row C V)} (unique : KeysUnique key table) :
    KeysUnique key (place key update proposed table) := by
  unfold KeysUnique at unique ⊢
  rw [keys_place keeps]
  split
  · exact unique
  · next absent =>
    rw [← List.concat_eq_append]
    exact unique.concat absent

theorem lookup_of_mem {table : List (Row C V)} (unique : KeysUnique key table)
    {row : Row C V} (member : row ∈ table) : lookup key (row key) table = some row := by
  induction table with
  | nil => simp at member
  | cons first rest ih =>
    obtain ⟨fresh, unique⟩ := List.nodup_cons.mp unique
    rcases List.mem_cons.mp member with rfl | member
    · simp [lookup]
    · have differs : first key ≠ row key := fun equal =>
        fresh (List.mem_map.mpr ⟨row, member, equal.symm⟩)
      simpa [lookup, differs] using ih unique member

theorem lookup_key {k : V} {table : List (Row C V)} {row : Row C V}
    (found : lookup key k table = some row) : row key = k := by
  simpa using List.find?_some found

theorem mem_of_lookup {k : V} {table : List (Row C V)} {row : Row C V}
    (found : lookup key k table = some row) : row ∈ table :=
  List.mem_of_find?_eq_some found

end Tables

end Relational
