import TetiBot.Library.JsonText

/-
JSON values as data: what a value says apart from the order in which its objects
list their fields.

* `Json.SameData`: two values say the same.  An equivalence.
* `Json.field`: a property of a value, as `value.name` reads it.
* `Json.project`: an object rebuilt from some fields of another one, in a given
  order.  A rebuilt object says the same if the fields are all those there are
  (`sameData_project`), and objects that say the same are rebuilt equally
  (`project_congr`).
-/

namespace Library

namespace Json

/-! ### The same data -/

/-- Two values are the same data: their objects may list the fields in another order. -/
inductive SameData : Json → Json → Prop
  | null : SameData null null
  | bool (b : Bool) : SameData (bool b) (bool b)
  | num (n : Nat) : SameData (num n) (num n)
  | decimal (d : Decimal) : SameData (decimal d) (decimal d)
  | str (s : JsString) : SameData (str s) (str s)
  | arr {xs ys : List Json} (hlength : xs.length = ys.length)
      (hitems : ∀ (i : Nat) x y, xs[i]? = some x → ys[i]? = some y → SameData x y) :
      SameData (arr xs) (arr ys)
  | obj {f g : List (String × Json)}
      (hnames : ∀ name, (lookup f name).isSome = (lookup g name).isSome)
      (hvalues : ∀ name v w, lookup f name = some v → lookup g name = some w → SameData v w) :
      SameData (obj f) (obj g)

variable {value : Json}

lemma mem_of_lookup {fields : List (String × Json)} {name : String}
    (h : lookup fields name = some value) : (name, value) ∈ fields := by
  obtain ⟨field, hfind, rfl⟩ := Option.map_eq_some_iff.mp h
  have hname : field.1 = name := by simpa using List.find?_some hfind
  rw [← hname]
  exact List.mem_of_find?_eq_some hfind

namespace SameData

theorem refl (v : Json) : SameData v v := by
  match v with
  | .null => exact .null
  | .bool b => exact .bool b
  | .num n => exact .num n
  | .decimal d => exact .decimal d
  | .str s => exact .str s
  | .arr items =>
    refine .arr rfl fun i x y hx hy => ?_
    obtain rfl := Option.some.inj (hx.symm.trans hy)
    have hmem : x ∈ items := List.mem_of_getElem? hx
    exact refl x
  | .obj fields =>
    refine .obj (fun _ => rfl) fun name x y hx hy => ?_
    obtain rfl := Option.some.inj (hx.symm.trans hy)
    have hmem := mem_of_lookup hx
    exact refl x
termination_by sizeOf v
decreasing_by
  · have hsize := List.sizeOf_lt_of_mem hmem
    simp only [Json.arr.sizeOf_spec]
    omega
  · have hsize := List.sizeOf_lt_of_mem hmem
    simp only [Json.obj.sizeOf_spec, Prod.mk.sizeOf_spec] at hsize ⊢
    omega

theorem symm {v w : Json} (h : SameData v w) : SameData w v := by
  induction h with
  | null => exact .null
  | bool b => exact .bool b
  | num n => exact .num n
  | decimal d => exact .decimal d
  | str s => exact .str s
  | arr hlength _ ih => exact .arr hlength.symm fun i x y hx hy => ih i y x hy hx
  | obj hnames _ ih =>
    refine .obj (fun name => (hnames name).symm) fun name x y hx hy => ?_
    exact ih name y x hy hx

theorem trans {u v w : Json} (h : SameData u v) (h' : SameData v w) : SameData u w := by
  induction h generalizing w with
  | null => exact h'
  | bool b => exact h'
  | num n => exact h'
  | decimal d => exact h'
  | str s => exact h'
  | @arr xs ys hlength _ ih =>
    cases h' with
    | @arr _ zs hlength' hitems =>
      refine .arr (hlength.trans hlength') fun i x z hx hz => ?_
      have hi : i < ys.length := by
        rw [← hlength]
        exact (List.getElem?_eq_some_iff.mp hx).1
      exact ih i x ys[i] hx (List.getElem?_eq_getElem hi) (hitems i _ z (List.getElem?_eq_getElem hi) hz)
  | @obj f g hnames _ ih =>
    cases h' with
    | obj hnames' hvalues =>
      refine .obj (fun name => (hnames name).trans (hnames' name)) fun name x z hx hz => ?_
      have hsome : (lookup g name).isSome = true := by rw [← hnames name, hx]; rfl
      obtain ⟨y, hy⟩ := Option.isSome_iff_exists.mp hsome
      exact ih name x y hx hy (hvalues name y z hy hz)

end SameData

/-! ### Fields -/

/-- `value[name]`. -/
def field (value : Json) (name : String) : Option Json :=
  match value with
  | obj fields => lookup fields name
  | _ => none

/-- A value without fields or items. -/
def isScalar : Json → Bool
  | arr _ => false
  | obj _ => false
  | _ => true

lemma SameData.eq_of_scalar {v w : Json} (h : SameData v w) (hv : isScalar v = true) : v = w := by
  cases h with
  | null => rfl
  | bool b => rfl
  | num n => rfl
  | decimal d => rfl
  | str s => rfl
  | arr _ _ => cases hv
  | obj _ _ => cases hv

/-- A value without fields, or a list of such values. -/
def isPlain : Json → Bool
  | arr items => items.all isScalar
  | value => isScalar value

lemma SameData.eq_of_plain {v w : Json} (h : SameData v w) (hv : isPlain v = true) : v = w := by
  cases v with
  | arr items =>
    cases h with
    | @arr _ ys hlength hitems =>
      have hall : ∀ x ∈ items, isScalar x = true := List.all_eq_true.mp hv
      refine congrArg Json.arr (List.ext_getElem hlength fun i hi hi' => ?_)
      exact (hitems i _ _ (List.getElem?_eq_getElem hi) (List.getElem?_eq_getElem hi')).eq_of_scalar
        (hall _ (List.getElem_mem hi))
  | null => exact h.eq_of_scalar rfl
  | bool b => exact h.eq_of_scalar rfl
  | num n => exact h.eq_of_scalar rfl
  | decimal d => exact h.eq_of_scalar rfl
  | str s => exact h.eq_of_scalar rfl
  | obj fields => cases hv

/-- The same data have the same fields. -/
lemma SameData.field {v w : Json} (h : SameData v w) (name : String) :
    (∃ x y, v.field name = some x ∧ w.field name = some y ∧ SameData x y)
      ∨ v.field name = none ∧ w.field name = none := by
  cases h with
  | null => exact .inr ⟨rfl, rfl⟩
  | bool b => exact .inr ⟨rfl, rfl⟩
  | num n => exact .inr ⟨rfl, rfl⟩
  | decimal d => exact .inr ⟨rfl, rfl⟩
  | str s => exact .inr ⟨rfl, rfl⟩
  | arr _ _ => exact .inr ⟨rfl, rfl⟩
  | @obj f g hnames hvalues =>
    have hsome := hnames name
    cases hf : lookup f name with
    | none =>
      rw [hf] at hsome
      have hg : lookup g name = none := by simpa using hsome.symm
      exact .inr ⟨hf, hg⟩
    | some x =>
      rw [hf] at hsome
      obtain ⟨y, hy⟩ := Option.isSome_iff_exists.mp hsome.symm
      exact .inl ⟨x, y, hf, hy, hvalues name x y hf hy⟩

/-! ### Rebuilt objects -/

/-- The fields `names` of a value, in this order and converted; those that the value
does not have are left out. -/
def project (names : List String) (convert : String → Json → Json) (value : Json) :
    List (String × Json) :=
  names.filterMap fun name => (value.field name).map fun v => (name, convert name v)

lemma lookup_project (names : List String) (convert : String → Json → Json) (value : Json)
    (name : String) : lookup (project names convert value) name
      = if name ∈ names then (value.field name).map (convert name) else none := by
  induction names with
  | nil => simp [project, lookup_nil]
  | cons other names ih =>
    rw [project] at ih ⊢
    rw [List.filterMap_cons]
    by_cases h : name = other
    · subst h
      cases hfield : value.field name with
      | none =>
        simp only [Option.map_none]
        rw [ih, hfield]
        simp
      | some v =>
        simp only [Option.map_some]
        rw [lookup_cons]
        simp
    · cases hfield : value.field other with
      | none =>
        simp only [Option.map_none]
        rw [ih]
        simp [h]
      | some v =>
        simp only [Option.map_some]
        rw [lookup_cons, if_neg (Ne.symm h), ih]
        simp [h]

variable {names : List String} {convert : String → Json → Json}

lemma project_convert {convert' : String → Json → Json}
    (h : ∀ name ∈ names, ∀ v, convert name v = convert' name v) :
    project names convert value = project names convert' value := by
  refine List.filterMap_congr fun name hmem => ?_
  cases value.field name with
  | none => rfl
  | some v => rw [Option.map_some, Option.map_some, h name hmem]

lemma project_append (names names' : List String) (convert : String → Json → Json) (value : Json) :
    project (names ++ names') convert value
      = project names convert value ++ project names' convert value :=
  List.filterMap_append

/-- A value is an object with these fields: `exactRecord`. -/
def isRecordOf (names : List String) (value : Json) : Bool :=
  match value with
  | obj fields => fields.all (fun f => names.contains f.1)
      && names.all fun name => (lookup fields name).isSome
  | _ => false

lemma isRecordOf_iff (h : isRecordOf names value = true) :
    ∃ fields, value = obj fields ∧ ∀ name, (lookup fields name).isSome = true ↔ name ∈ names := by
  cases value with
  | null => cases h
  | bool b => cases h
  | num n => cases h
  | decimal d => cases h
  | str s => cases h
  | arr items => cases h
  | obj fields =>
    simp only [isRecordOf, Bool.and_eq_true, List.all_eq_true, List.contains_iff_mem] at h
    refine ⟨fields, rfl, fun name => ⟨fun hsome => ?_, h.2 name⟩⟩
    obtain ⟨v, hv⟩ := Option.isSome_iff_exists.mp hsome
    exact h.1 _ (mem_of_lookup hv)

/-- **A rebuilt object says the same**, if it has all the fields and their conversion
says the same. -/
theorem sameData_project (hrecord : isRecordOf names value = true)
    (hconvert : ∀ name ∈ names, ∀ v, value.field name = some v → SameData (convert name v) v) :
    SameData (obj (project names convert value)) value := by
  obtain ⟨fields, rfl, hnames⟩ := isRecordOf_iff hrecord
  refine .obj (fun name => ?_) fun name v w hv hw => ?_
  · rw [lookup_project]
    by_cases hmem : name ∈ names
    · simp [hmem, field]
    · have hnone : ¬(lookup fields name).isSome = true := fun h => hmem ((hnames name).mp h)
      simp [hmem, hnone]
  · rw [lookup_project] at hv
    split_ifs at hv with hmem
    rw [field, hw, Option.map_some] at hv
    rw [← Option.some.inj hv]
    exact hconvert name hmem w hw

/-- **Objects that say the same are rebuilt equally.** -/
theorem project_congr {v w : Json} (h : SameData v w)
    (hconvert : ∀ name ∈ names, ∀ x y, v.field name = some x →
      w.field name = some y → SameData x y → convert name x = convert name y) :
    project names convert v = project names convert w := by
  rw [project, project]
  refine List.filterMap_congr fun name hmem => ?_
  obtain ⟨x, y, hx, hy, hsame⟩ | ⟨hx, hy⟩ := h.field name
  · rw [hx, hy, Option.map_some, Option.map_some, hconvert name hmem x y hx hy hsame]
  · rw [hx, hy]

/-- The value of a field, as it is. -/
def keep (_ : String) (value : Json) : Json := value

/-- Fields that are kept are rebuilt equally if they are plain. -/
lemma project_keep_congr {v w : Json} (h : SameData v w)
    (hplain : ∀ name ∈ names, ∀ x, v.field name = some x → isPlain x = true) :
    project names keep v = project names keep w :=
  project_congr h fun name hmem x _ hx _ hsame =>
    hsame.eq_of_plain (hplain name hmem x hx)

/-- An object rebuilt with a field of its own says the same. -/
theorem sameData_kind {tag : String} {kind : Json}
    (hrecord : isRecordOf (tag :: names) value = true) (hkind : value.field tag = some kind)
    (hnot : tag ∉ names)
    (hconvert : ∀ name ∈ names, ∀ v, value.field name = some v → SameData (convert name v) v) :
    SameData (obj ((tag, kind) :: project names convert value)) value := by
  let tagged : String → Json → Json := fun name v => if name = tag then v else convert name v
  have hrest : project names convert value = project names tagged value := by
    refine project_convert fun name hmem v => ?_
    have hne : name ≠ tag := fun h => hnot (h ▸ hmem)
    exact (if_neg hne).symm
  have hobj : (tag, kind) :: project names convert value = project (tag :: names) tagged value := by
    rw [hrest, project, project, List.filterMap_cons, hkind, Option.map_some]
    simp [tagged]
  rw [hobj]
  refine sameData_project hrecord fun name hmem v hv => ?_
  by_cases h : name = tag
  · simp only [tagged, if_pos h]
    exact .refl v
  · simp only [tagged, if_neg h]
    exact hconvert name ((List.mem_cons.mp hmem).resolve_left h) v hv

/-! ### What is left of an object -/

/-- The fields but those `names`: `const { a, b, ...rest } = value`. -/
def without (names : List String) (fields : List (String × Json)) : List (String × Json) :=
  fields.filter fun field => !names.contains field.1

lemma lookup_append (f g : List (String × Json)) (name : String) :
    lookup (f ++ g) name = (lookup f name).or (lookup g name) := by
  rw [lookup, lookup, lookup, List.find?_append]
  cases f.find? fun field => field.1 = name <;> rfl

lemma lookup_without (names : List String) (fields : List (String × Json)) (name : String) :
    lookup (without names fields) name
      = if name ∈ names then none else lookup fields name := by
  induction fields with
  | nil => simp [without, lookup_nil]
  | cons field fields ih =>
    obtain ⟨other, value⟩ := field
    rw [without] at ih ⊢
    by_cases hmem : other ∈ names
    · rw [List.filter_cons_of_neg (by simpa using hmem), ih, lookup_cons]
      by_cases h : other = name
      · simp [← h, hmem]
      · rw [if_neg h]
    · rw [List.filter_cons_of_pos (by simpa using hmem), lookup_cons, ih, lookup_cons]
      by_cases h : other = name
      · simp [← h, hmem]
      · rw [if_neg h, if_neg h]

/-! ### Lists -/

/-- A list whose items are converted says the same if every item does. -/
lemma sameData_map {items : List Json} {convert : Json → Json}
    (h : ∀ x ∈ items, SameData (convert x) x) : SameData (arr (items.map convert)) (arr items) := by
  refine .arr (List.length_map _) fun i x y hx hy => ?_
  rw [List.getElem?_map, hy, Option.map_some] at hx
  rw [← Option.some.inj hx]
  exact h y (List.mem_of_getElem? hy)

/-- Lists that say the same are converted equally. -/
lemma map_congr_of_sameData {xs ys : List Json} {convert : Json → Json}
    (h : SameData (arr xs) (arr ys))
    (hconvert : ∀ x ∈ xs, ∀ y, SameData x y → convert x = convert y) :
    xs.map convert = ys.map convert := by
  cases h with
  | arr hlength hitems =>
    refine List.ext_getElem (by simpa using hlength) fun i hi hi' => ?_
    rw [List.getElem_map, List.getElem_map]
    have hx : i < xs.length := by simpa using hi
    have hy : i < ys.length := by simpa using hi'
    exact hconvert _ (List.getElem_mem hx) _
      (hitems i _ _ (List.getElem?_eq_getElem hx) (List.getElem?_eq_getElem hy))

/-! ### Fields that are set -/

/-- A field that is set to what it is. -/
lemma setField_self {fields : List (String × Json)} {name : String}
    (hnames : (fields.map Prod.fst).Nodup) (h : lookup fields name = some value) :
    setField fields (name, value) = fields := by
  have hmem := mem_of_lookup h
  have hcontains : (fields.map Prod.fst).contains name = true :=
    List.contains_iff_mem.mpr (List.mem_map_of_mem hmem)
  rw [setField, if_pos hcontains]
  refine (List.map_congr_left fun field hfield => ?_).trans (List.map_id fields)
  by_cases hname : field.1 = name
  · rw [if_pos hname]
    exact (List.inj_on_of_nodup_map hnames hfield hmem hname).symm
  · rw [if_neg hname]
    rfl

lemma lookup_setField (fields : List (String × Json)) (name : String) (value : Json) :
    lookup (setField fields (name, value)) name = some value := by
  rw [setField]
  split_ifs with h
  · rw [List.contains_iff_mem] at h
    induction fields with
    | nil => simp at h
    | cons field fields ih =>
      rw [List.map_cons]
      by_cases hname : field.1 = name
      · rw [if_pos hname, lookup_cons, if_pos rfl]
      · have hrest : name ∈ fields.map Prod.fst :=
          (List.mem_cons.mp h).resolve_left (Ne.symm hname)
        rw [if_neg hname]
        exact (lookup_cons _ _ _ _).trans ((if_neg hname).trans (ih hrest))
  · have hnone : lookup fields name = none := by
      rw [lookup, Option.map_eq_none_iff, List.find?_eq_none]
      intro field hfield hname
      exact h (List.contains_iff_mem.mpr (List.mem_map.mpr ⟨field, hfield, by simpa using hname⟩))
    rw [lookup_append, hnone, Option.none_or, lookup_cons, if_pos rfl]

end Json

end Library
