import Mathlib.Logic.Function.Basic
import Mathlib.Data.List.Nodup
import TetiBot.Library.Utf16

/-
Relational databases and the statements that define and fill their tables.

* `Schema`: the columns of a table and what is asked of its rows (`admits`).
* `Shape`: the tables, indexes and triggers of a database.
* `SqlDatabase`: a shape with rows that its tables admit; no other can be built.
* `Statement.onShape`, `Statement.onRows`: what a statement does to the one and to the
  other; the shape after a statement does not depend on any row.
* `exec_eq_ok`: a statement succeeds if the shape allows it and the tables admit the rows.
* `transaction_defines`: a list of definitions succeeds if the shape allows it, whatever the
  rows are.
-/

namespace Library

/-! ### Values, columns and checks -/

inductive SqlValue
  | null
  | integer (value : Int)
  | text (value : JsString)
  deriving DecidableEq

inductive SqlType
  | integer | text
  /-- A column of a table without types. -/
  | any
  deriving DecidableEq

structure Column where
  name : String
  type : SqlType
  notNull : Bool
  deriving DecidableEq

/-- A column of a strict table takes values of its type, and `NULL` if it may. -/
def Column.fits (c : Column) : SqlValue → Bool
  | .null => !c.notNull
  | .integer _ => c.type = .integer || c.type = .any
  | .text _ => c.type = .text || c.type = .any

/-- The conditions of `CHECK` constraints. -/
inductive Check
  | equals (column : String) (value : SqlValue)
  | equalsColumn (column other : String)
  | oneOf (column : String) (values : List SqlValue)
  | atLeast (column : String) (bound : Int)
  | isNull (column : String)
  | isNotNull (column : String)
  | both (left right : Check)
  | either (left right : Check)
  deriving DecidableEq

/-- A condition of values that may be unknown. -/
def SqlValue.compare (test : SqlValue → Bool) : SqlValue → Option Bool
  | .null => none
  | value => some (test value)

def SqlValue.atLeast (bound : Int) : SqlValue → Bool
  | .integer value => bound ≤ value
  -- a text is greater than every number
  | .text _ => true
  | .null => false

namespace Check

/-- The three values of a condition; `none` is unknown. -/
def eval (value : String → SqlValue) : Check → Option Bool
  | equals column v => if v = .null then none else (value column).compare fun w => w = v
  | equalsColumn column other =>
    if value other = .null then none else (value column).compare fun w => w = value other
  | oneOf column vs => (value column).compare fun w => w ∈ vs
  | atLeast column bound => (value column).compare (SqlValue.atLeast bound)
  | isNull column => some (value column = .null)
  | isNotNull column => some (value column ≠ .null)
  | both left right =>
    match left.eval value, right.eval value with
    | some false, _ | _, some false => some false
    | some true, some true => some true
    | _, _ => none
  | either left right =>
    match left.eval value, right.eval value with
    | some true, _ | _, some true => some true
    | some false, some false => some false
    | _, _ => none

/-- A constraint is violated by `false` only. -/
def passes (value : String → SqlValue) (check : Check) : Bool := check.eval value != some false

/-- What equals a value is one of the values among which it is. -/
lemma passes_oneOf {value : String → SqlValue} {column : String} {v : SqlValue} {vs : List SqlValue}
    (h : (equals column v).passes value = true) (hv : v ∈ vs) (hnull : v ≠ .null) :
    (oneOf column vs).passes value = true := by
  simp only [passes, eval, if_neg hnull] at h ⊢
  cases hvalue : value column with
  | null => simp [SqlValue.compare]
  | integer n =>
    have heq : SqlValue.integer n = v := by simpa [hvalue, SqlValue.compare] using h
    simp [SqlValue.compare, heq, hv]
  | text s =>
    have heq : SqlValue.text s = v := by simpa [hvalue, SqlValue.compare] using h
    simp [SqlValue.compare, heq, hv]

end Check

/-! ### Tables -/

abbrev Row : Type := List SqlValue

/-- The columns of a table, the sets of columns whose values are unique, and its checks. -/
structure Schema where
  columns : List Column
  unique : List (List String) := []
  checks : List Check := []
  deriving DecidableEq

namespace Schema

variable {schema : Schema}

def names (schema : Schema) : List String := schema.columns.map (·.name)

/-- The value of a row in a column. -/
def value (schema : Schema) (row : Row) (column : String) : SqlValue :=
  ((schema.names.zip row).lookup column).getD .null

/-- The values of a row in some columns, if none of them is `NULL`. -/
def key (schema : Schema) (columns : List String) (row : Row) : Option (List SqlValue) :=
  let values := columns.map (schema.value row)
  if .null ∈ values then none else some values

def admitsRow (schema : Schema) (row : Row) : Bool :=
  row.length = schema.columns.length
    && (schema.columns.zip row).all (fun (column, value) => column.fits value)
    && schema.checks.all (fun check => check.passes (schema.value row))

def admits (schema : Schema) (rows : List Row) : Bool :=
  rows.all schema.admitsRow
    && schema.unique.all fun columns => decide (rows.filterMap (schema.key columns)).Nodup

@[simp] lemma admits_nil : schema.admits [] = true := by simp [admits]

lemma length_of_admits {rows : List Row} (h : schema.admits rows = true) {row : Row}
    (hrow : row ∈ rows) : row.length = schema.columns.length := by
  simp only [admits, Bool.and_eq_true, List.all_eq_true] at h
  have hadmitted := h.1 row hrow
  simp only [admitsRow, Bool.and_eq_true, decide_eq_true_eq] at hadmitted
  exact hadmitted.1.1

/-- A row for the values of some columns; the others are `NULL`. -/
def arrange (schema : Schema) (columns : List String) (values : List SqlValue) : Row :=
  schema.names.map fun name => ((columns.zip values).lookup name).getD .null

lemma map_lookup_zip {names : List String} (hnames : names.Nodup) {values : List SqlValue}
    (h : values.length = names.length) :
    names.map (fun name => ((names.zip values).lookup name).getD .null) = values := by
  induction names generalizing values with
  | nil => exact (List.length_eq_zero_iff.mp h).symm
  | cons name names ih =>
    cases values with
    | nil => simp at h
    | cons v values =>
      obtain ⟨hname, hnames⟩ := List.nodup_cons.mp hnames
      have hrest := ih hnames (by simpa using h)
      have hothers : ∀ other ∈ names, (((name :: names).zip (v :: values)).lookup other).getD .null
          = ((names.zip values).lookup other).getD .null := by
        intro other hother
        have hne : other ≠ name := by
          rintro rfl
          exact hname hother
        simp [List.lookup_cons, beq_eq_false_iff_ne.mpr hne]
      rw [List.map_cons, List.map_congr_left hothers, hrest]
      simp

/-- The values of a row, arranged under the same names, are the row. -/
lemma arrange_value {source : Schema} (hnames : schema.names = source.names)
    (hnodup : source.names.Nodup) {row : Row} (hrow : row.length = source.columns.length) :
    schema.arrange source.names (source.names.map (source.value row)) = row := by
  have hlength : row.length = source.names.length := by simpa [names] using hrow
  rw [arrange, hnames, map_lookup_zip hnodup (by simp)]
  exact map_lookup_zip hnodup hlength

def addColumn (schema : Schema) (column : Column) : Schema :=
  { schema with columns := schema.columns ++ [column] }

/-- A new column changes no value. -/
lemma value_addColumn {row : Row} {column : Column} (h : row.length = schema.columns.length) :
    (schema.addColumn column).value (row ++ [.null]) = schema.value row := by
  funext name
  have hzip : (schema.addColumn column).names.zip (row ++ [.null])
      = schema.names.zip row ++ [(column.name, .null)] := by
    rw [names, addColumn, List.map_append, List.zip_append (by simp [h])]
    rfl
  rw [value, hzip, List.lookup_append, value]
  cases (schema.names.zip row).lookup name with
  | some v => rfl
  | none =>
    simp only [Option.none_or, List.lookup_cons, List.lookup_nil]
    split <;> rfl

/-- With `NULL` in a new column the rows are still admitted. -/
lemma admits_addColumn {rows : List Row} {column : Column} (h : schema.admits rows = true)
    (hcolumn : column.notNull = false) :
    (schema.addColumn column).admits (rows.map (· ++ [.null])) = true := by
  have hlength : ∀ row ∈ rows, row.length = schema.columns.length := fun _ => length_of_admits h
  simp only [admits, Bool.and_eq_true, List.all_eq_true, decide_eq_true_eq, List.mem_map] at h ⊢
  constructor
  · rintro _ ⟨row, hrow, rfl⟩
    have hadmitted := h.1 row hrow
    simp only [admitsRow, value_addColumn (hlength row hrow), Bool.and_eq_true] at hadmitted ⊢
    refine ⟨⟨?_, ?_⟩, hadmitted.2⟩
    · simp [addColumn, hlength row hrow]
    · rw [addColumn, List.zip_append (hlength row hrow).symm, List.all_append, hadmitted.1.2]
      simp [Column.fits, hcolumn]
  · intro columns hcolumns
    rw [List.filterMap_map]
    have hkey : ∀ row ∈ rows, ((schema.addColumn column).key columns ∘ (· ++ [.null])) row
        = schema.key columns row := by
      intro row hrow
      simp only [Function.comp_apply, key, value_addColumn (hlength row hrow)]
    rw [List.filterMap_congr hkey]
    exact h.2 columns hcolumns

end Schema

/-! ### Databases -/

/-- The objects of a database: tables with their schemas, indexes and triggers with their
tables, and the number that `PRAGMA user_version` keeps. -/
structure Shape where
  tables : List (String × Schema) := []
  indexes : List (String × String) := []
  triggers : List (String × String) := []
  userVersion : Nat := 0
  deriving DecidableEq

def Shape.schema? (shape : Shape) (name : String) : Option Schema := shape.tables.lookup name

/-- Tables and indexes share their names. -/
def Shape.free (shape : Shape) (name : String) : Bool :=
  name ∉ shape.tables.map (·.1) && name ∉ shape.indexes.map (·.1)

/-- A database: every table admits its rows. -/
@[ext] structure SqlDatabase where
  shape : Shape
  rows : String → List Row
  admitted : ∀ table ∈ shape.tables, table.2.admits (rows table.1) = true

/-- What `schema?` finds is a table. -/
lemma Shape.mem_of_schema? {shape : Shape} {name : String} {schema : Schema}
    (h : shape.schema? name = some schema) : (name, schema) ∈ shape.tables := by
  obtain ⟨before, after, hsplit, -⟩ := List.lookup_eq_some_iff.mp h
  rw [hsplit]
  simp

/-- A table admits its rows. -/
lemma SqlDatabase.admits_of_schema? (db : SqlDatabase) {name : String} {schema : Schema}
    (h : db.shape.schema? name = some schema) : schema.admits (db.rows name) = true :=
  db.admitted _ (Shape.mem_of_schema? h)

inductive SqlError
  /-- An object is missing, or its name is taken. -/
  | object
  | constraint
  deriving DecidableEq

/-! ### Statements -/

inductive Statement
  | createTable (name : String) (schema : Schema)
  | createIndex (name table : String) (columns : List String)
  | createTrigger (name table : String)
  | dropTrigger (name : String)
  | dropTable (name : String)
  | renameTable (name newName : String)
  | addColumn (table : String) (column : Column)
  | setUserVersion (version : Nat)
  | insertValues (table : String) (columns : List String) (values : List (List SqlValue))
  | insertSelect (table : String) (columns : List String) (source : String)
      (sourceColumns : List String)

namespace Statement

/-- What a statement does to the objects, if it can. -/
def onShape (shape : Shape) : Statement → Option Shape
  | createTable name schema =>
    if shape.free name then some { shape with tables := shape.tables ++ [(name, schema)] } else none
  | createIndex name table columns =>
    if shape.free name && (shape.schema? table).any fun schema => columns.all (· ∈ schema.names) then
      some { shape with indexes := shape.indexes ++ [(name, table)] }
    else none
  | createTrigger name table =>
    if name ∉ shape.triggers.map (·.1) && (shape.schema? table).isSome then
      some { shape with triggers := shape.triggers ++ [(name, table)] }
    else none
  | dropTrigger name =>
    if name ∈ shape.triggers.map (·.1) then
      some { shape with triggers := shape.triggers.filter fun trigger => trigger.1 ≠ name }
    else none
  | dropTable name =>
    if (shape.schema? name).isSome then
      some { shape with
        tables := shape.tables.filter fun table => table.1 ≠ name
        indexes := shape.indexes.filter fun index => index.2 ≠ name
        triggers := shape.triggers.filter fun trigger => trigger.2 ≠ name }
    else none
  | renameTable name newName =>
    if (shape.schema? name).isSome && shape.free newName then
      some { shape with
        tables := shape.tables.map fun table => if table.1 = name then (newName, table.2) else table
        indexes := shape.indexes.map fun index => if index.2 = name then (index.1, newName) else index
        triggers := shape.triggers.map fun trigger =>
          if trigger.2 = name then (trigger.1, newName) else trigger }
    else none
  | addColumn table column =>
    if (shape.schema? table).any (fun schema => column.name ∉ schema.names) && !column.notNull then
      some { shape with
        tables := shape.tables.map fun t => if t.1 = table then (t.1, t.2.addColumn column) else t }
    else none
  | setUserVersion version => some { shape with userVersion := version }
  | insertValues table columns _ =>
    if (shape.schema? table).any fun schema => columns.all (· ∈ schema.names) then some shape else none
  | insertSelect table columns source sourceColumns =>
    if ((shape.schema? table).any fun schema => columns.all (· ∈ schema.names))
        && (shape.schema? source).any fun schema => sourceColumns.all (· ∈ schema.names) then
      some shape
    else none

/-- What a statement does to the rows. -/
def onRows (shape : Shape) (rows : String → List Row) : Statement → String → List Row
  | createTable name _ => Function.update rows name []
  | dropTable name => Function.update rows name []
  | renameTable name newName => Function.update (Function.update rows newName (rows name)) name []
  | addColumn table _ => Function.update rows table ((rows table).map (· ++ [.null]))
  | insertValues table columns values =>
    Function.update rows table (rows table ++
      values.map (((shape.schema? table).getD ⟨[], [], []⟩).arrange columns))
  | insertSelect table columns source sourceColumns =>
    Function.update rows table (rows table ++ (rows source).map fun row =>
      ((shape.schema? table).getD ⟨[], [], []⟩).arrange columns
        (sourceColumns.map (((shape.schema? source).getD ⟨[], [], []⟩).value row)))
  | _ => rows

/-- A statement that adds no rows. -/
def defines : Statement → Bool
  | insertValues _ _ _ | insertSelect _ _ _ _ => false
  | _ => true

/-- The tables whose rows a statement may change. -/
def changes : Statement → List String
  | createTable name _ | dropTable name => [name]
  | renameTable name newName => [name, newName]
  | addColumn table _ | insertValues table _ _ | insertSelect table _ _ _ => [table]
  | _ => []

/-- Execute a statement. -/
def exec (s : Statement) (db : SqlDatabase) : Except SqlError SqlDatabase :=
  match s.onShape db.shape with
  | none => .error .object
  | some shape =>
    if h : ∀ table ∈ shape.tables, table.2.admits (s.onRows db.shape db.rows table.1) = true then
      .ok ⟨shape, s.onRows db.shape db.rows, h⟩
    else .error .constraint

/-! ### What a statement does -/

variable {s : Statement} {db t : SqlDatabase} {shape : Shape} {rows : String → List Row}

/-- A statement succeeds if the shape allows it and the tables admit the rows after it. -/
lemma exec_eq_ok : s.exec db = .ok t
    ↔ s.onShape db.shape = some t.shape ∧ t.rows = s.onRows db.shape db.rows := by
  rw [exec]
  cases hshape : s.onShape db.shape with
  | none => simp
  | some shape =>
    by_cases hadmitted : ∀ table ∈ shape.tables,
        table.2.admits (s.onRows db.shape db.rows table.1) = true
    · simp only [dif_pos hadmitted, Except.ok.injEq, Option.some.injEq]
      constructor
      · rintro rfl
        exact ⟨rfl, rfl⟩
      · rintro ⟨rfl, hrows⟩
        exact SqlDatabase.ext rfl hrows.symm
    · simp only [dif_neg hadmitted, reduceCtorEq, Option.some.injEq, false_iff, not_and]
      rintro rfl hrows
      exact hadmitted fun table htable => hrows ▸ t.admitted table htable

/-- The rows of the other tables stay. -/
lemma onRows_of_notMem {name : String} (h : name ∉ s.changes) : s.onRows shape rows name = rows name := by
  cases s <;> simp_all [changes, onRows]

/-- The rows after a definition do not depend on the shape. -/
lemma onRows_of_defines {shape' : Shape} (h : s.defines = true) :
    s.onRows shape rows = s.onRows shape' rows := by
  cases s <;> simp_all [defines, onRows]

/-- A definition succeeds if the shape allows it. -/
lemma exec_of_defines (hs : s.defines = true) (h : s.onShape db.shape = some shape) :
    ∃ t, s.exec db = .ok t ∧ t.shape = shape ∧ t.rows = s.onRows {} db.rows := by
  suffices hadmitted : ∀ table ∈ shape.tables, table.2.admits (s.onRows {} db.rows table.1) = true from
    ⟨⟨shape, s.onRows {} db.rows, hadmitted⟩, exec_eq_ok.mpr ⟨h, onRows_of_defines hs⟩, rfl, rfl⟩
  intro table htable
  cases s with
  | createTable name schema =>
    simp only [onShape, Option.ite_none_right_eq_some, Option.some.injEq] at h
    obtain ⟨-, rfl⟩ := h
    by_cases hname : table.1 = name
    · simp [onRows, hname]
    · simp only [List.mem_append, List.mem_singleton] at htable
      rcases htable with hold | rfl
      · simpa [onRows, hname] using db.admitted table hold
      · exact absurd rfl hname
  | dropTable name =>
    simp only [onShape, Option.ite_none_right_eq_some, Option.some.injEq] at h
    obtain ⟨-, rfl⟩ := h
    simp only [List.mem_filter, decide_eq_true_eq] at htable
    simpa [onRows, htable.2] using db.admitted table htable.1
  | renameTable name newName =>
    simp only [onShape, Option.ite_none_right_eq_some, Option.some.injEq] at h
    obtain ⟨hfree, rfl⟩ := h
    simp only [List.mem_map] at htable
    obtain ⟨old, hold, rfl⟩ := htable
    have hnew : old.1 ≠ newName := by
      rintro rfl
      simp only [Bool.and_eq_true, Shape.free, decide_eq_true_eq] at hfree
      exact hfree.2.1 (List.mem_map_of_mem hold)
    by_cases hname : old.1 = name
    · subst hname
      simpa [onRows, Function.update_apply, hnew.symm] using db.admitted old hold
    · simpa [onRows, Function.update_apply, hname, hnew] using db.admitted old hold
  | addColumn name column =>
    simp only [onShape, Option.ite_none_right_eq_some, Option.some.injEq] at h
    obtain ⟨hcolumn, rfl⟩ := h
    simp only [Bool.and_eq_true, Bool.not_eq_true'] at hcolumn
    simp only [List.mem_map] at htable
    obtain ⟨old, hold, rfl⟩ := htable
    by_cases hname : old.1 = name
    · subst hname
      simpa [onRows] using Schema.admits_addColumn (db.admitted old hold) hcolumn.2
    · simpa [onRows, hname] using db.admitted old hold
  | createIndex name index columns =>
    simp only [onShape, Option.ite_none_right_eq_some, Option.some.injEq] at h
    obtain ⟨-, rfl⟩ := h
    exact db.admitted table htable
  | createTrigger name trigger =>
    simp only [onShape, Option.ite_none_right_eq_some, Option.some.injEq] at h
    obtain ⟨-, rfl⟩ := h
    exact db.admitted table htable
  | dropTrigger name =>
    simp only [onShape, Option.ite_none_right_eq_some, Option.some.injEq] at h
    obtain ⟨-, rfl⟩ := h
    exact db.admitted table htable
  | setUserVersion version =>
    obtain rfl := Option.some.inj h
    exact db.admitted table htable
  | insertValues name columns values => cases hs
  | insertSelect name columns source sourceColumns => cases hs

/-- A statement that fills a table succeeds if the table admits the rows after it. -/
lemma exec_of_fills (s : Statement) (db : SqlDatabase) (new : List Row) {name : String} {schema : Schema}
    (h : s.onShape db.shape = some db.shape)
    (hrows : s.onRows db.shape db.rows = Function.update db.rows name new)
    (hnodup : (db.shape.tables.map (·.1)).Nodup) (hschema : db.shape.schema? name = some schema)
    (hnew : schema.admits new = true) :
    ∃ t, s.exec db = .ok t ∧ t.shape = db.shape ∧ t.rows = Function.update db.rows name new := by
  suffices hadmitted : ∀ table ∈ db.shape.tables,
      table.2.admits (Function.update db.rows name new table.1) = true from
    ⟨⟨db.shape, _, hadmitted⟩, exec_eq_ok.mpr ⟨h, hrows.symm⟩, rfl, rfl⟩
  intro table htable
  by_cases hname : table.1 = name
  · obtain rfl := List.inj_on_of_nodup_map hnodup htable (Shape.mem_of_schema? hschema) hname
    simpa using hnew
  · simpa [hname] using db.admitted table htable

end Statement

/-! ### Transactions -/

/-- The statements between `BEGIN` and `COMMIT`; after an error the database is as it was. -/
def transaction (statements : List Statement) (db : SqlDatabase) : Except SqlError SqlDatabase :=
  statements.foldlM (fun db s => s.exec db) db

/-- What statements do to the objects of a database. -/
def shapeAfter (shape : Shape) (statements : List Statement) : Option Shape :=
  statements.foldlM Statement.onShape shape

/-- What definitions do to the rows. -/
def rowsAfter (statements : List Statement) (rows : String → List Row) : String → List Row :=
  statements.foldl (fun rows s => s.onRows {} rows) rows

variable {s : Statement} {statements rest : List Statement} {db mid t : SqlDatabase} {shape : Shape}

lemma transaction_cons (h : s.exec db = .ok mid) : transaction (s :: rest) db = transaction rest mid := by
  rw [transaction, List.foldlM_cons, h]
  rfl

lemma transaction_append (h : transaction statements db = .ok mid) (rest : List Statement) :
    transaction (statements ++ rest) db = transaction rest mid := by
  rw [transaction, List.foldlM_append]
  rw [transaction] at h
  rw [h]
  rfl

/-- A list of definitions succeeds if the shape allows it. -/
lemma transaction_defines (hs : ∀ s ∈ statements, s.defines = true)
    (h : shapeAfter db.shape statements = some shape) :
    ∃ t, transaction statements db = .ok t ∧ t.shape = shape ∧ t.rows = rowsAfter statements db.rows := by
  induction statements generalizing db with
  | nil => exact ⟨db, rfl, Option.some.inj h, rfl⟩
  | cons s rest ih =>
    simp only [shapeAfter, List.foldlM_cons, Option.bind_eq_bind, Option.bind_eq_some_iff] at h
    obtain ⟨midShape, hmid, hrest⟩ := h
    obtain ⟨mid, hexec, rfl, hrows⟩ := Statement.exec_of_defines (hs s List.mem_cons_self) hmid
    obtain ⟨t, ht, hshape, htrows⟩ := ih (fun s h => hs s (List.mem_cons_of_mem _ h)) hrest
    refine ⟨t, (transaction_cons hexec).trans ht, hshape, ?_⟩
    rw [htrows, hrows]
    rfl

/-- The rows of a table that no statement changes. -/
lemma transaction_rows {name : String} (h : transaction statements db = .ok t)
    (hname : ∀ s ∈ statements, name ∉ s.changes) : t.rows name = db.rows name := by
  induction statements generalizing db with
  | nil =>
    obtain rfl := Except.ok.inj h
    rfl
  | cons s rest ih =>
    rw [transaction, List.foldlM_cons] at h
    cases hexec : s.exec db with
    | error e => rw [hexec] at h; cases h
    | ok mid =>
      rw [hexec] at h
      rw [ih h fun s hs => hname s (List.mem_cons_of_mem _ hs),
        (Statement.exec_eq_ok.mp hexec).2]
      exact Statement.onRows_of_notMem (hname s List.mem_cons_self)

end Library
