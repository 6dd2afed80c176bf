import Mathlib.Data.List.Forall2
import Mathlib.Data.List.Nodup
import SparkGateway.Workload

/-!
# What the document of a workload tells

A workload says up to sixteen things: texts, counts, lists of texts, and texts by name.  Its document
holds each thing that is said under a name of its own, and nothing else, so nothing is lost: two workloads
have the same document only if they are the same.

The order of named fields does not count for whoever reads a document.  Documents that differ in nothing
else are alike (`Json.Alike`), and those of two workloads are alike exactly if the workloads agree up to
the order of their further settings.
-/

namespace SparkGateway

namespace Json

/-- Documents that are equal up to the order of their named fields. -/
inductive Alike : Json → Json → Prop where
  | null : Alike .null .null
  | bool (b : Bool) : Alike (.bool b) (.bool b)
  | num (n : Number) : Alike (.num n) (.num n)
  | str (s : String) : Alike (.str s) (.str s)
  | arr {vs ws : List Json} : List.Forall₂ Alike vs ws → Alike (.arr vs) (.arr ws)
  | obj {fs gs : Fields} : (∀ name, Option.Rel Alike (fs.get? name) (gs.get? name)) →
      Alike (.obj fs) (.obj gs)

theorem alike_str_iff {s t : String} : Alike (.str s) (.str t) ↔ s = t := by
  constructor
  · rintro ⟨⟩
    rfl
  · rintro rfl
    exact .str s

theorem alike_int_iff {n m : Int} : Alike (.int n) (.int m) ↔ n = m := by
  constructor
  · rintro ⟨⟩
    rfl
  · rintro rfl
    exact .num (.whole n)

theorem alike_arr_iff {vs ws : List Json} :
    Alike (.arr vs) (.arr ws) ↔ List.Forall₂ Alike vs ws := by
  constructor
  · rintro ⟨⟩
    assumption
  · exact .arr

theorem alike_obj_iff {fs gs : Fields} :
    Alike (.obj fs) (.obj gs) ↔ ∀ name, Option.Rel Alike (fs.get? name) (gs.get? name) := by
  constructor
  · rintro ⟨⟩
    assumption
  · exact .obj

/-- Values that are alike only if they are equal may be missing too. -/
theorem rel_map_iff {α : Type} {f : α → Json} (hf : ∀ a b, Alike (f a) (f b) ↔ a = b)
    (x y : Option α) : Option.Rel Alike (x.map f) (y.map f) ↔ x = y := by
  constructor
  · intro h
    cases x <;> cases y <;> cases h
    · rfl
    · exact congrArg some ((hf _ _).1 ‹_›)
  · rintro rfl
    cases x with
    | none => exact .none
    | some a => exact .some ((hf a a).2 rfl)

theorem alike_texts_iff (xs ys : List String) :
    Alike (.arr (xs.map .str)) (.arr (ys.map .str)) ↔ xs = ys := by
  simp only [alike_arr_iff, List.forall₂_map_left_iff, List.forall₂_map_right_iff, alike_str_iff]
  rw [List.forall₂_eq_eq_eq]

theorem get?_named (conf : List (String × String)) (name : String) :
    Fields.get? (conf.map fun p => (p.1, .str p.2)) name = (conf.lookup name).map .str := by
  induction conf with
  | nil => rfl
  | cons p conf ih =>
      unfold Fields.get? at ih ⊢
      rw [List.map_cons, List.lookup_cons, List.lookup_cons, ih]
      cases name == p.1 <;> rfl

theorem alike_named_iff (conf conf' : List (String × String)) :
    Alike (.obj (conf.map fun p => (p.1, .str p.2))) (.obj (conf'.map fun p => (p.1, .str p.2))) ↔
      ∀ name, conf.lookup name = conf'.lookup name := by
  simp only [alike_obj_iff, get?_named, rel_map_iff fun _ _ => alike_str_iff]

end Json

namespace Workload

/-- One of the things that a workload may say. -/
inductive Part where
  | file
  | className
  | args
  | jars
  | pyFiles
  | files
  | archives
  | driverMemory
  | driverCores
  | executorMemory
  | executorCores
  | numExecutors
  | queue
  | name
  | proxyUser
  | conf
  deriving DecidableEq

namespace Part

/-- All parts, in the order of the document. -/
def all : List Part :=
  [file, className, args, jars, pyFiles, files, archives, driverMemory, driverCores, executorMemory,
    executorCores, numExecutors, queue, name, proxyUser, conf]

/-- The name under which a part is sent. -/
def key : Part → String
  | file => "file"
  | className => "className"
  | args => "args"
  | jars => "jars"
  | pyFiles => "pyFiles"
  | files => "files"
  | archives => "archives"
  | driverMemory => "driverMemory"
  | driverCores => "driverCores"
  | executorMemory => "executorMemory"
  | executorCores => "executorCores"
  | numExecutors => "numExecutors"
  | queue => "queue"
  | name => "name"
  | proxyUser => "proxyUser"
  | conf => "conf"

theorem mem_all (p : Part) : p ∈ all := by
  cases p <;> decide

theorem nodup_keys : (all.map key).Nodup := by
  decide

theorem key_injective : Function.Injective key := fun p q h =>
  List.inj_on_of_nodup_map nodup_keys p.mem_all q.mem_all h

theorem forall_iff {P : Part → Prop} :
    (∀ p, P p) ↔ P file ∧ P className ∧ P args ∧ P jars ∧ P pyFiles ∧ P files ∧ P archives ∧
      P driverMemory ∧ P driverCores ∧ P executorMemory ∧ P executorCores ∧ P numExecutors ∧ P queue ∧
      P name ∧ P proxyUser ∧ P conf := by
  constructor
  · intro h
    simp only [h, and_self]
  · intro h p
    cases p <;> simp only [h]

end Part

/-- What is said of a part. -/
inductive Told where
  /-- A text that may be left open. -/
  | text (s : Option String)
  /-- A count that may be left open. -/
  | count (n : Option Int)
  /-- Texts, which are left open if there are none. -/
  | texts (xs : List String)
  /-- Texts by name, which are left open if there are none. -/
  | named (conf : List (String × String))

namespace Told

/-- Whether anything is said; a count of zero and an empty text are something. -/
def isSet : Told → Bool
  | text s => s.isSome
  | count n => n.isSome
  | texts xs => !xs.isEmpty
  | named conf => !conf.isEmpty

/-- What is said, as a value in a document. -/
def json : Told → Json
  | text s => .ofText? s
  | count n => (n.map Json.int).getD .null
  | texts xs => .arr (xs.map .str)
  | named conf => .obj (conf.map fun p => (p.1, .str p.2))

/-- The value that stands in a document, if anything is said. -/
def written? (t : Told) : Option Json := if t.isSet then some t.json else none

/-- The same is said, up to the order of names. -/
def Same : Told → Told → Prop
  | named conf, named conf' => ∀ name, conf.lookup name = conf'.lookup name
  | t, t' => t = t'

/-- Two things are said that are both texts, both counts, both lists of texts or both texts by name. -/
inductive OfOneKind : Told → Told → Prop where
  | text (s s' : Option String) : OfOneKind (.text s) (.text s')
  | count (n n' : Option Int) : OfOneKind (.count n) (.count n')
  | texts (xs xs' : List String) : OfOneKind (.texts xs) (.texts xs')
  | named (conf conf' : List (String × String)) : OfOneKind (.named conf) (.named conf')

end Told

/-- What a workload says of a part. -/
def said (w : Workload) : Part → Told
  | .file => .text (some w.file)
  | .className => .text w.className
  | .args => .texts w.args
  | .jars => .texts w.jars
  | .pyFiles => .texts w.pyFiles
  | .files => .texts w.files
  | .archives => .texts w.archives
  | .driverMemory => .text w.driverMemory
  | .driverCores => .count w.driverCores
  | .executorMemory => .text w.executorMemory
  | .executorCores => .count w.executorCores
  | .numExecutors => .count w.numExecutors
  | .queue => .text w.queue
  | .name => .text w.name
  | .proxyUser => .text w.proxyUser
  | .conf => .named w.conf

/-- All that two workloads say is the same, where the order of the further settings does not count. -/
def Agrees (w v : Workload) : Prop :=
  { w with conf := [] } = { v with conf := [] } ∧ ∀ name, w.conf.lookup name = v.conf.lookup name

theorem said_ofOneKind (w v : Workload) (p : Part) : (w.said p).OfOneKind (v.said p) := by
  cases p <;> constructor

theorem eq_of_said {w v : Workload} (h : ∀ p, w.said p = v.said p) : w = v := by
  cases w
  cases v
  simpa [said, Part.forall_iff] using h

theorem agrees_iff (w v : Workload) : w.Agrees v ↔ ∀ p, (w.said p).Same (v.said p) := by
  cases w
  cases v
  simp [Agrees, said, Told.Same, Part.forall_iff, and_assoc]

/-! ## Values in the document -/

namespace Told

theorem written?_text (s : Option String) : (text s).written? = s.map .str := by
  cases s <;> rfl

theorem written?_count (n : Option Int) : (count n).written? = n.map .int := by
  cases n <;> rfl

theorem written?_texts_cons (x : String) (xs : List String) :
    (texts (x :: xs)).written? = some (.arr ((x :: xs).map .str)) :=
  rfl

theorem written?_named_cons (p : String × String) (conf : List (String × String)) :
    (named (p :: conf)).written? = some (.obj ((p :: conf).map fun p => (p.1, .str p.2))) :=
  rfl

/-- What is written of two things of one kind is alike exactly if they are the same. -/
theorem alike_written?_iff {t t' : Told} (h : t.OfOneKind t') :
    Option.Rel Json.Alike t.written? t'.written? ↔ t.Same t' := by
  cases h with
  | text s s' =>
      rw [written?_text, written?_text, Json.rel_map_iff fun _ _ => Json.alike_str_iff]
      exact (text.injEq s s').symm.to_iff
  | count n n' =>
      rw [written?_count, written?_count, Json.rel_map_iff fun _ _ => Json.alike_int_iff]
      exact (count.injEq n n').symm.to_iff
  | texts xs xs' =>
      show _ ↔ texts xs = texts xs'
      rw [texts.injEq]
      -- An empty list is not written at all, so it is alike to no other.
      cases xs <;> cases xs'
      · exact iff_of_true .none rfl
      · exact iff_of_false nofun nofun
      · exact iff_of_false nofun nofun
      · rw [written?_texts_cons, written?_texts_cons, Option.rel_some_some, Json.alike_texts_iff]
  | named conf conf' =>
      show _ ↔ ∀ name, conf.lookup name = conf'.lookup name
      -- The first of some settings is looked up under its name.
      rcases conf with _ | ⟨⟨name, value⟩, conf⟩ <;> rcases conf' with _ | ⟨⟨name', value'⟩, conf'⟩
      · exact iff_of_true .none fun _ => rfl
      · exact iff_of_false nofun fun h => by simpa using h name'
      · exact iff_of_false nofun fun h => by simpa using h name
      · rw [written?_named_cons, written?_named_cons, Option.rel_some_some, Json.alike_named_iff]

/-- What is written tells what was said. -/
theorem eq_of_written?_eq {t t' : Told} (h : t.OfOneKind t') (heq : t.written? = t'.written?) :
    t = t' := by
  cases h with
  | text s s' =>
      rw [written?_text, written?_text] at heq
      exact congrArg text (Option.map_injective (fun _ _ => Json.str.inj) heq)
  | count n n' =>
      rw [written?_count, written?_count] at heq
      exact congrArg count (Option.map_injective (fun _ _ h => by injection h with h; injection h) heq)
  | texts xs xs' =>
      cases xs <;> cases xs'
      · rfl
      · cases heq
      · cases heq
      · rw [written?_texts_cons, written?_texts_cons, Option.some_inj, Json.arr.injEq] at heq
        rw [List.map_injective_iff.2 (fun _ _ => Json.str.inj) heq]
  | named conf conf' =>
      cases conf <;> cases conf'
      · rfl
      · cases heq
      · cases heq
      · rw [written?_named_cons, written?_named_cons, Option.some_inj, Json.obj.injEq] at heq
        rw [List.map_injective_iff.2 (fun _ _ => by simp [Prod.ext_iff]) heq]

theorem isSet_of_written? {t : Told} {v : Json} (h : t.written? = some v) : t.isSet = true := by
  by_contra hset
  rw [written?, if_neg hset] at h
  cases h

/-- What is written is neither null nor empty. -/
theorem ne_of_written? {t : Told} {v : Json} (h : t.written? = some v) :
    v ≠ .null ∧ v ≠ .arr [] ∧ v ≠ .obj [] := by
  rcases t with (_ | s) | (_ | n) | (_ | ⟨x, xs⟩) | (_ | ⟨p, conf⟩) <;> cases h <;>
    exact ⟨nofun, nofun, nofun⟩

end Told

/-! ## The fields of the document -/

/-- The field of a part, if anything is said of it. -/
def field? (w : Workload) (p : Part) : Option (String × Json) :=
  (w.said p).written?.map fun v => (p.key, v)

theorem textField_eq (name : String) (s : Option String) :
    textField name s = ((Told.text s).written?.map fun v => (name, v)).toList := by
  cases s <;> rfl

theorem countField_eq (name : String) (n : Option Int) :
    countField name n = ((Told.count n).written?.map fun v => (name, v)).toList := by
  cases n <;> rfl

theorem listField_eq (name : String) (xs : List String) :
    listField name xs = ((Told.texts xs).written?.map fun v => (name, v)).toList := by
  cases xs <;> rfl

theorem confField_eq (name : String) (conf : List (String × String)) :
    confField name conf = ((Told.named conf).written?.map fun v => (name, v)).toList := by
  cases conf <;> rfl

/-- The fields are those of the parts, in their order. -/
theorem fields_eq (w : Workload) : w.fields = Part.all.filterMap w.field? := by
  have hfile : [("file", Json.str w.file)] = (w.field? .file).toList := rfl
  rw [List.filterMap_eq_flatMap_toList, fields, hfile]
  simp only [textField_eq, countField_eq, listField_eq, confField_eq, Part.all, List.flatMap_cons,
    List.flatMap_nil, List.append_nil, List.append_assoc]
  rfl

theorem mem_fields_iff {w : Workload} {name : String} {v : Json} :
    (name, v) ∈ w.fields ↔ ∃ p : Part, name = p.key ∧ (w.said p).written? = some v := by
  simp only [fields_eq, List.mem_filterMap, Part.mem_all, true_and, field?, Option.map_eq_some_iff,
    Prod.mk.injEq]
  constructor
  · rintro ⟨p, v', hv, rfl, rfl⟩
    exact ⟨p, rfl, hv⟩
  · rintro ⟨p, rfl, hv⟩
    exact ⟨p, v, hv, rfl, rfl⟩

/-- No name stands in the document twice. -/
theorem nodup_names (w : Workload) : (w.fields.map Prod.fst).Nodup := by
  rw [fields_eq, List.Nodup, List.pairwise_map, List.pairwise_filterMap]
  refine (List.pairwise_map.1 Part.nodup_keys).imp ?_
  rintro p q hpq _ hp _ hq
  obtain ⟨_, -, rfl⟩ := Option.map_eq_some_iff.1 hp
  obtain ⟨_, -, rfl⟩ := Option.map_eq_some_iff.1 hq
  exact hpq

/-- What stands under a name that stands nowhere else is found. -/
theorem lookup_of_mem {α : Type} {fields : List (String × α)} (hnodup : (fields.map Prod.fst).Nodup)
    {name : String} {v : α} (hmem : (name, v) ∈ fields) : fields.lookup name = some v := by
  obtain ⟨before, after, rfl⟩ := List.append_of_mem hmem
  rw [List.map_append, List.map_cons, List.nodup_append] at hnodup
  refine List.lookup_eq_some_iff.2 ⟨before, after, rfl, fun q hq => bne_iff_ne.2 fun heq => ?_⟩
  exact hnodup.2.2 q.1 (List.mem_map_of_mem hq) name List.mem_cons_self heq.symm

/-- Under the name of a part stands what is written of it. -/
theorem get?_fields (w : Workload) (p : Part) : Json.Fields.get? w.fields p.key = (w.said p).written? := by
  cases hp : (w.said p).written? with
  | none =>
      refine List.lookup_eq_none_iff.2 fun ⟨name, v⟩ hmem => bne_iff_ne.2 ?_
      rintro rfl
      obtain ⟨q, hkey, hq⟩ := mem_fields_iff.1 hmem
      rw [Part.key_injective hkey, hq] at hp
      cases hp
  | some v => exact lookup_of_mem w.nodup_names (mem_fields_iff.2 ⟨p, rfl, hp⟩)

theorem get?_fields_of_unknown (w : Workload) {name : String} (h : ∀ p : Part, name ≠ p.key) :
    Json.Fields.get? w.fields name = none := by
  refine List.lookup_eq_none_iff.2 fun ⟨name', v⟩ hmem => bne_iff_ne.2 ?_
  rintro rfl
  obtain ⟨p, hp, -⟩ := mem_fields_iff.1 hmem
  exact h p hp

/-- The documents of two workloads are alike exactly if the workloads agree. -/
theorem alike_document_iff (w v : Workload) : w.document.Alike v.document ↔ w.Agrees v := by
  rw [document, document, Json.alike_obj_iff, agrees_iff]
  have hpart (p : Part) := Told.alike_written?_iff (w.said_ofOneKind v p)
  constructor
  · intro h p
    rw [← hpart, ← get?_fields, ← get?_fields]
    exact h p.key
  · intro h name
    by_cases hname : ∃ p : Part, name = p.key
    · obtain ⟨p, rfl⟩ := hname
      rw [get?_fields, get?_fields, hpart]
      exact h p
    · have hunknown : ∀ p : Part, name ≠ p.key := not_exists.1 hname
      rw [get?_fields_of_unknown w hunknown, get?_fields_of_unknown v hunknown]
      exact .none

theorem document_injective : Function.Injective document := by
  intro w v h
  have hfields : w.fields = v.fields := Json.obj.inj h
  exact eq_of_said fun p => Told.eq_of_written?_eq (w.said_ofOneKind v p) (by
    rw [← get?_fields, ← get?_fields, hfields])

/-! ## Nothing is lost -/

/-- The document of a workload tells all that the workload says, and nothing else. -/
structure Lossless (w : Workload) : Prop where
  /-- The file is always told. -/
  file : w.fields.get? "file" = some (.str w.file)
  /-- A part stands under its name exactly if anything is said of it, and what stands there is what is
  said. -/
  parts : ∀ p : Part, w.fields.get? p.key = if (w.said p).isSet then some (w.said p).json else none
  /-- There are no other names, -/
  known : ∀ name v, (name, v) ∈ w.fields → ∃ p : Part, name = p.key ∧ (w.said p).isSet = true
  /-- none stands there twice, -/
  once : (w.fields.map Prod.fst).Nodup
  /-- and no value is null, an empty list or an empty record. -/
  filled : ∀ name v, (name, v) ∈ w.fields → v ≠ .null ∧ v ≠ .arr [] ∧ v ≠ .obj []
  /-- The document is equal to that of another workload, as documents are compared and as they are
  written, exactly if the workloads are equal. -/
  alike : ∀ v : Workload, w.document.Alike v.document ↔ w.Agrees v
  eq : ∀ v : Workload, w.document = v.document ↔ w = v

/-- **Nothing that a workload says is lost in its document.** -/
theorem document_lossless (w : Workload) : w.Lossless where
  file := w.get?_fields .file
  parts := w.get?_fields
  known name v hmem := by
    obtain ⟨p, rfl, hp⟩ := mem_fields_iff.1 hmem
    exact ⟨p, rfl, Told.isSet_of_written? hp⟩
  once := w.nodup_names
  filled name v hmem := by
    obtain ⟨p, -, hp⟩ := mem_fields_iff.1 hmem
    exact Told.ne_of_written? hp
  alike := w.alike_document_iff
  eq _ := document_injective.eq_iff

end Workload

end SparkGateway
