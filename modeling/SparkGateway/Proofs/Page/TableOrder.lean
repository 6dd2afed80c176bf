import Mathlib.Data.List.Nodup
import Mathlib.Data.List.Sort
import SparkGateway.Proofs.Page.Content

/-!
# The order of tables

The tables of a document are numbered in the order of their start tags (`startedTables`), whatever tags are
left out: each is read from its start tag up to its own end tag or the end of the document.  A page lists
them in the order of their ends (`endOrder`).  Tables that are open at the end of the document end there,
the one that started last first.

So a table comes before one that started earlier exactly if it starts inside it (`StartsInside`), and a page
lists its tables in the order of their start tags exactly if no table starts inside another one.  A key finds
the table that starts first among those it names exactly if none of the others starts inside that one.

Main statement: `ofHtml_startOrder_iff`.
-/

namespace SparkGateway.Html

/-- What an event is to the tables of a page. -/
inductive Mark where
  | start (attributes : List (String × Option String))
  | finish
  | other

def Event.mark : Event → Mark
  | .opened tag attributes => if tag = "table" then .start attributes else .other
  | .closed tag => if tag = "table" then .finish else .other
  | .text _ => .other

/-- How many invisible elements are open after an event. -/
def Event.hiddenAfter (hidden : Nat) : Event → Nat
  | .opened tag _ => hidden + (Page.isHidden tag).toNat
  | .closed tag => hidden - (Page.isHidden tag).toNat
  | .text _ => hidden

end SparkGateway.Html

namespace SparkGateway.Page

open Html

/-! ## Tables by their start tags -/

/-- What an event that is no tag of a table changes in the open table around it. -/
def OpenTable.heed (hidden : Nat) (t : OpenTable) : Event → OpenTable
  | .opened tag attributes => t.opened tag attributes
  | .closed tag => t.closed tag
  | .text s => if hidden == 0 then t.addText s else t

/-- An open table reads on up to its end.  There are `depth` tables open in it, and it heeds no event while
there is one. -/
def OpenTable.readOn (t : OpenTable) (depth hidden : Nat) : List Event → OpenTable
  | [] => t
  | e :: rest =>
    match e.mark, depth with
    | .start _, depth => t.readOn (depth + 1) hidden rest
    | .finish, 0 => t
    | .finish, depth + 1 => t.readOn depth hidden rest
    | .other, 0 => (t.heed hidden e).readOn 0 (e.hiddenAfter hidden) rest
    | .other, depth + 1 => t.readOn (depth + 1) (e.hiddenAfter hidden) rest

/-- The tables that start in some events, in the order of their start tags. -/
def startedFrom (hidden : Nat) : List Event → List Table
  | [] => []
  | e :: rest =>
    match e.mark with
    | .start attributes =>
      ((OpenTable.start attributes).readOn 0 hidden rest).finish :: startedFrom hidden rest
    | .finish => startedFrom hidden rest
    | .other => startedFrom (e.hiddenAfter hidden) rest

def startedTables (events : List Event) : List Table := startedFrom 0 events

/-! ## The order of their ends -/

/-- Tells things that are open, innermost first, and things that start with the tables of some events in the
order of their ends.  What does not end with a table ends after all events, innermost first. -/
def ended {α : Type} : List α → List α → List Event → List α
  | stack, _, [] => stack
  | stack, waiting, e :: rest =>
    match e.mark, stack, waiting with
    | .start _, stack, x :: waiting => ended (x :: stack) waiting rest
    | .finish, x :: stack, waiting => x :: ended stack waiting rest
    | _, stack, waiting => ended stack waiting rest

/-- The numbers of the tables, in the order of their ends. -/
def endOrder (events : List Event) : List Nat :=
  ended [] (List.range (startedTables events).length) events

/-- Whether table `j` from here on starts before a table ends in which `depth` tables are open. -/
def StartsWithin (depth j : Nat) : List Event → Prop
  | [] => False
  | e :: rest =>
    match e.mark, depth, j with
    | .start _, _, 0 => True
    | .start _, depth, j + 1 => StartsWithin (depth + 1) j rest
    | .finish, 0, _ => False
    | .finish, depth + 1, j => StartsWithin depth j rest
    | .other, depth, j => StartsWithin depth j rest

/-- Whether table `j` starts between the start and the end of table `i`. -/
def StartsInside (i j : Nat) : List Event → Prop
  | [] => False
  | e :: rest =>
    match e.mark, i, j with
    | .start _, _, 0 => False
    | .start _, 0, j + 1 => StartsWithin 0 j rest
    | .start _, i + 1, j + 1 => StartsInside i j rest
    | _, i, j => StartsInside i j rest

/-! ## What the builder lists -/

namespace Builder

variable (b : Builder) {e : Event}

theorem step_start {attributes : List (String × Option String)} (he : e.mark = .start attributes) :
    b.step e = { b with stack := OpenTable.start attributes :: b.stack } := by
  cases e with
  | opened tag tagAttributes =>
      by_cases htag : tag = "table"
      · subst htag
        simp only [Event.mark, if_true, Mark.start.injEq] at he
        subst he
        rfl
      · simp [Event.mark, htag] at he
  | closed tag => by_cases htag : tag = "table" <;> simp [Event.mark, htag] at he
  | text s => simp [Event.mark] at he

theorem step_finish (he : e.mark = .finish) : b.step e = b.closed "table" := by
  cases e with
  | opened tag attributes => by_cases htag : tag = "table" <;> simp [Event.mark, htag] at he
  | closed tag =>
      by_cases htag : tag = "table"
      · rw [htag]
        rfl
      · simp [Event.mark, htag] at he
  | text s => simp [Event.mark] at he

theorem step_other (he : e.mark = .other) :
    (b.step e).tables = b.tables ∧
      (b.step e).stack = (b.onTop fun t => t.heed b.hidden e).stack ∧
      (b.step e).hidden = e.hiddenAfter b.hidden := by
  cases e with
  | opened tag attributes =>
      have htag : tag ≠ "table" := fun htag => by simp [Event.mark, htag] at he
      simp [step, b.opened_inside htag, took, OpenTable.heed, Event.hiddenAfter]
  | closed tag =>
      have htag : tag ≠ "table" := fun htag => by simp [Event.mark, htag] at he
      simp [step, b.closed_inside htag, took, OpenTable.heed, Event.hiddenAfter]
  | text s => simp [step, b.text_eq, took, OpenTable.heed, Event.hiddenAfter]

/-- An end tag ends the innermost open table, if there is one. -/
theorem closed_table_cases (b : Builder) :
    b.stack = [] ∧ b.closed "table" = b ∨
      ∃ t ts, b.stack = t :: ts ∧ b.closed "table" = { b with tables := b.tables ++ [t.finish], stack := ts } := by
  obtain ⟨tables, stack, pieces, hidden⟩ := b
  cases stack with
  | nil => exact .inl ⟨rfl, rfl⟩
  | cons t ts => exact .inr ⟨t, ts, rfl, rfl⟩

/-- The open tables, innermost first, as they will be when they have read some events. -/
def pending (events : List Event) : List Table :=
  b.stack.mapIdx fun depth t => (t.readOn depth b.hidden events).finish

/-- A page lists its tables in the order of their ends: those that have ended, and then those that are open
and those that start. -/
theorem tables_finish_run (url : String) (events : List Event) :
    ((b.run events).finish url).tables =
      b.tables ++ ended (b.pending events) (startedFrom b.hidden events) events := by
  induction events generalizing b with
  | nil =>
      have hpending : b.pending [] = b.stack.map OpenTable.finish := by
        apply List.ext_getElem? fun depth => ?_
        simp [pending, OpenTable.readOn]
      simp [run, finish, ended, hpending]
  | cons e rest ih =>
      show (((b.step e).run rest).finish url).tables = _
      rw [ih]
      cases he : e.mark with
      | start attributes =>
          rw [b.step_start he]
          simp [pending, startedFrom, ended, OpenTable.readOn, he]
      | finish =>
          rw [b.step_finish he]
          rcases b.closed_table_cases with ⟨hstack, hclosed⟩ | ⟨t, ts, hstack, hclosed⟩
          · simp [hclosed, hstack, pending, startedFrom, ended, he]
          · simp [hclosed, hstack, pending, startedFrom, ended, OpenTable.readOn, he]
      | other =>
          obtain ⟨htables, hstack, hhidden⟩ := b.step_other he
          have hpending : (b.step e).pending rest = b.pending (e :: rest) := by
            rw [pending, pending, hstack, hhidden, onTop]
            cases hold : b.stack <;> simp [hold, OpenTable.readOn, he]
          rw [htables, hpending, hhidden]
          simp [startedFrom, ended, he]

end Builder

section Ended

variable {α β : Type} {stack waiting : List α} {events : List Event}

theorem map_ended (f : α → β) (stack waiting : List α) (events : List Event) :
    (ended stack waiting events).map f = ended (stack.map f) (waiting.map f) events := by
  induction events generalizing stack waiting with
  | nil => rfl
  | cons e rest ih =>
      cases he : e.mark <;> cases stack <;> cases waiting <;> simp [ended, he, ih]

theorem ended_perm (hidden : Nat) (hwaiting : waiting.length = (startedFrom hidden events).length) :
    (ended stack waiting events).Perm (stack ++ waiting) := by
  induction events generalizing stack waiting hidden with
  | nil =>
      rw [startedFrom, List.length_nil, List.length_eq_zero_iff] at hwaiting
      simp [ended, hwaiting]
  | cons e rest ih =>
      cases he : e.mark with
      | start attributes =>
          cases waiting with
          | nil => simp [startedFrom, he] at hwaiting
          | cons x waiting =>
              simp only [startedFrom, he, List.length_cons, Nat.add_right_cancel_iff] at hwaiting
              simp only [ended, he]
              exact (ih hidden hwaiting).trans List.perm_middle.symm
      | finish =>
          simp only [startedFrom, he] at hwaiting
          cases stack with
          | nil =>
              simp only [ended, he]
              exact ih hidden hwaiting
          | cons x stack => simpa [ended, he] using ih hidden hwaiting
      | other =>
          simp only [startedFrom, he] at hwaiting
          simpa [ended, he] using ih _ hwaiting

/-- What is open ends from the inside out, whatever else ends in between. -/
theorem sublist_ended (stack waiting : List α) (events : List Event) :
    stack.Sublist (ended stack waiting events) := by
  induction events generalizing stack waiting with
  | nil => exact List.Sublist.refl _
  | cons e rest ih =>
      cases he : e.mark with
      | start attributes =>
          cases waiting with
          | nil => simpa [ended, he] using ih stack []
          | cons x waiting =>
              simpa [ended, he] using (List.sublist_cons_self x stack).trans (ih (x :: stack) waiting)
      | finish =>
          cases stack with
          | nil => exact List.nil_sublist _
          | cons x stack => simpa [ended, he] using ih stack waiting
      | other => simpa [ended, he] using ih stack waiting

/-- Something that waits comes before something that is open exactly if it starts before that one ends. -/
theorem sublist_ended_iff_startsWithin (hidden : Nat)
    (hwaiting : waiting.length = (startedFrom hidden events).length) (hnodup : (stack ++ waiting).Nodup)
    {depth j : Nat} {x y : α} (hx : stack[depth]? = some x) (hy : waiting[j]? = some y) :
    [y, x].Sublist (ended stack waiting events) ↔ StartsWithin depth j events := by
  have hne : y ≠ x := fun heq => List.disjoint_of_nodup_append hnodup (List.mem_of_getElem? hx)
    (heq ▸ List.mem_of_getElem? hy)
  induction events generalizing stack waiting hidden depth j with
  | nil =>
      rw [startedFrom, List.length_nil, List.length_eq_zero_iff] at hwaiting
      simp [hwaiting] at hy
  | cons e rest ih =>
      cases he : e.mark with
      | start attributes =>
          cases waiting with
          | nil => simp at hy
          | cons z waiting =>
              simp only [startedFrom, he, List.length_cons, Nat.add_right_cancel_iff] at hwaiting
              have hnodup' : (z :: stack ++ waiting).Nodup := List.perm_middle.nodup_iff.1 hnodup
              cases j with
              | zero =>
                  obtain rfl : z = y := by simpa using hy
                  have hopen : [z, x].Sublist (z :: stack) :=
                    (List.singleton_sublist.2 (List.mem_of_getElem? hx)).cons_cons z
                  simpa [ended, he, StartsWithin] using hopen.trans (sublist_ended (z :: stack) waiting rest)
              | succ j =>
                  have hx' : (z :: stack)[depth + 1]? = some x := hx
                  simpa [ended, he, StartsWithin] using ih hidden hwaiting hnodup' hx' hy
      | finish =>
          simp only [startedFrom, he] at hwaiting
          cases stack with
          | nil => simp at hx
          | cons z stack =>
              have hy' := List.mem_of_getElem? hy
              obtain ⟨hz, hnodup'⟩ := List.nodup_cons.1 hnodup
              have hyz : y ≠ z := fun heq => hz (List.mem_append_right _ (heq ▸ hy'))
              cases depth with
              | zero =>
                  obtain rfl : z = x := by simpa using hx
                  have hlate : z ∉ ended stack waiting rest := fun hmem =>
                    hz ((ended_perm hidden hwaiting).mem_iff.1 hmem)
                  simp only [ended, he, StartsWithin, iff_false, List.cons_sublist_cons', hyz, false_and,
                    or_false]
                  exact fun hsub => hlate (hsub.subset (by simp))
              | succ depth =>
                  simpa [ended, he, StartsWithin, List.cons_sublist_cons', hyz] using
                    ih hidden hwaiting hnodup' hx hy
      | other =>
          simp only [startedFrom, he] at hwaiting
          simpa [ended, he, StartsWithin] using ih _ hwaiting hnodup hx hy

/-- Of two things that wait, the later one comes first exactly if it starts inside the other. -/
theorem sublist_ended_iff_startsInside (hidden : Nat)
    (hwaiting : waiting.length = (startedFrom hidden events).length) (hnodup : (stack ++ waiting).Nodup)
    {i j : Nat} (hij : i < j) {x y : α} (hx : waiting[i]? = some x) (hy : waiting[j]? = some y) :
    [y, x].Sublist (ended stack waiting events) ↔ StartsInside i j events := by
  induction events generalizing stack waiting hidden i j with
  | nil =>
      rw [startedFrom, List.length_nil, List.length_eq_zero_iff] at hwaiting
      simp [hwaiting] at hy
  | cons e rest ih =>
      cases he : e.mark with
      | start attributes =>
          cases waiting with
          | nil => simp at hy
          | cons z waiting =>
              simp only [startedFrom, he, List.length_cons, Nat.add_right_cancel_iff] at hwaiting
              have hnodup' : (z :: stack ++ waiting).Nodup := List.perm_middle.nodup_iff.1 hnodup
              cases j with
              | zero => omega
              | succ j =>
                  cases i with
                  | zero =>
                      simpa [ended, he, StartsInside] using
                        sublist_ended_iff_startsWithin hidden hwaiting hnodup'
                          (hx : (z :: stack)[0]? = some x) hy
                  | succ i =>
                      simpa [ended, he, StartsInside] using
                        ih hidden hwaiting hnodup' (Nat.lt_of_succ_lt_succ hij) hx hy
      | finish =>
          simp only [startedFrom, he] at hwaiting
          cases stack with
          | nil => simpa [ended, he, StartsInside] using ih hidden hwaiting hnodup hij hx hy
          | cons z stack =>
              obtain ⟨hz, hnodup'⟩ := List.nodup_cons.1 hnodup
              have hyz : y ≠ z := fun heq =>
                hz (List.mem_append_right _ (heq ▸ List.mem_of_getElem? hy))
              simpa [ended, he, StartsInside, List.cons_sublist_cons', hyz] using
                ih hidden hwaiting hnodup' hij hx hy
      | other =>
          simp only [startedFrom, he] at hwaiting
          simpa [ended, he, StartsInside] using ih _ hwaiting hnodup hij hx hy

end Ended

theorem StartsWithin.lt_length {depth j : Nat} {events : List Event} (h : StartsWithin depth j events)
    (hidden : Nat) : j < (startedFrom hidden events).length := by
  induction events generalizing depth j hidden with
  | nil => exact h.elim
  | cons e rest ih =>
      cases he : e.mark with
      | start attributes =>
          cases j with
          | zero => simp [startedFrom, he]
          | succ j =>
              simp only [StartsWithin, he] at h
              simpa [startedFrom, he] using ih h hidden
      | finish =>
          cases depth with
          | zero => simp [StartsWithin, he] at h
          | succ depth =>
              simp only [StartsWithin, he] at h
              simpa [startedFrom, he] using ih h hidden
      | other =>
          simp only [StartsWithin, he] at h
          simpa [startedFrom, he] using ih h _

/-- A table starts inside one that has started before. -/
theorem StartsInside.lt {i j : Nat} {events : List Event} (h : StartsInside i j events) (hidden : Nat) :
    i < j ∧ j < (startedFrom hidden events).length := by
  induction events generalizing i j hidden with
  | nil => exact h.elim
  | cons e rest ih =>
      cases he : e.mark with
      | start attributes =>
          cases j with
          | zero => simp [StartsInside, he] at h
          | succ j =>
              cases i with
              | zero =>
                  simp only [StartsInside, he] at h
                  simpa [startedFrom, he] using h.lt_length hidden
              | succ i =>
                  simp only [StartsInside, he] at h
                  simpa [startedFrom, he] using ih h hidden
      | finish =>
          simp only [StartsInside, he] at h
          simpa [startedFrom, he] using ih h hidden
      | other =>
          simp only [StartsInside, he] at h
          simpa [startedFrom, he] using ih h _

/-! ## The order of a page -/

variable (events : List Event)

theorem endOrder_perm : (endOrder events).Perm (List.range (startedTables events).length) :=
  ended_perm 0 List.length_range

theorem endOrder_nodup : (endOrder events).Nodup :=
  (endOrder_perm events).nodup_iff.2 List.nodup_range

/-- A table comes before one with a smaller number exactly if it starts inside it. -/
theorem startsInside_iff (i j : Nat) :
    StartsInside i j events ↔
      i < j ∧ j < (startedTables events).length ∧ [j, i].Sublist (endOrder events) := by
  have hinside (hij : i < j) (hj : j < (startedTables events).length) :
      [j, i].Sublist (endOrder events) ↔ StartsInside i j events :=
    sublist_ended_iff_startsInside 0 List.length_range List.nodup_range hij
      (List.getElem?_range (hij.trans hj)) (List.getElem?_range hj)
  constructor
  · intro h
    obtain ⟨hij, hj⟩ := h.lt 0
    exact ⟨hij, hj, (hinside hij hj).2 h⟩
  · rintro ⟨hij, hj, hsub⟩
    exact (hinside hij hj).1 hsub

theorem endOrder_eq_range_iff :
    endOrder events = List.range (startedTables events).length ↔ ∀ i j, ¬StartsInside i j events := by
  constructor
  · intro h i j hinside
    obtain ⟨hij, -, hsub⟩ := (startsInside_iff events i j).1 hinside
    rw [h] at hsub
    have hji : j < i := List.pairwise_iff_forall_sublist.1 List.pairwise_lt_range hsub
    omega
  · intro h
    have hsorted : (endOrder events).Pairwise (· < ·) := by
      refine List.pairwise_iff_forall_sublist.2 fun {a b} hsub => ?_
      have hne : a ≠ b := by simpa using hsub.nodup (endOrder_nodup events)
      have ha : a < (startedTables events).length := by
        simpa using (endOrder_perm events).mem_iff.1 (hsub.subset (List.mem_cons_self))
      by_contra hab
      exact h b a ((startsInside_iff events b a).2 ⟨by omega, ha, hsub⟩)
    exact (endOrder_perm events).eq_of_pairwise (fun a b _ _ hab hba => by omega) hsorted
      List.pairwise_lt_range

theorem tables_ofEvents (url : String) :
    (ofEvents url events).tables = ended [] (startedTables events) events := by
  rw [ofEvents, Builder.tables_finish_run]
  rfl

theorem map_getElem?_range {α : Type} (xs : List α) :
    (List.range xs.length).map (xs[·]?) = xs.map some := by
  apply List.ext_getElem? fun i => ?_
  by_cases hi : i < xs.length <;> simp [hi]

theorem map_tables_ofEvents (url : String) :
    (ofEvents url events).tables.map some = (endOrder events).map ((startedTables events)[·]?) := by
  rw [tables_ofEvents, endOrder, map_ended, map_ended, map_getElem?_range]
  rfl

/-- Without tables inside tables, a page lists the tables as they start. -/
theorem tables_eq_startedTables (url : String) (h : ∀ i j, ¬StartsInside i j events) :
    (ofEvents url events).tables = startedTables events := by
  have hmap := map_tables_ofEvents events url
  rw [(endOrder_eq_range_iff events).2 h, map_getElem?_range] at hmap
  exact List.map_injective_iff.2 (Option.some_injective Table) hmap

/-! ## Which table a key finds -/

/-- Whether a key names table `i`. -/
def namesTable (key : String) (i : Nat) : Bool := (startedTables events)[i]?.any (Table.named key)

/-- The table that ends first among those that a key names. -/
def firstToEnd? (key : String) : Option Nat := (endOrder events).find? (namesTable events key)

/-- The table that starts first among those that a key names. -/
def firstToStart? (key : String) : Option Nat := (startedTables events).findIdx? (Table.named key)

theorem table?_ofEvents (url key : String) :
    (ofEvents url events).table? key =
      (firstToEnd? events key).bind ((startedTables events)[·]?) := by
  have hfind : ((ofEvents url events).tables.map some).find? (Option.any (Table.named key)) =
      ((endOrder events).map ((startedTables events)[·]?)).find? (Option.any (Table.named key)) := by
    rw [map_tables_ofEvents]
  have hsome : Option.any (Table.named key) ∘ some = Table.named key := rfl
  have hnames : Option.any (Table.named key) ∘ ((startedTables events)[·]?) = namesTable events key := rfl
  rw [List.find?_map, List.find?_map, hsome, hnames] at hfind
  change ((ofEvents url events).table? key).map some = (firstToEnd? events key).map _ at hfind
  cases hlisted : firstToEnd? events key with
  | none => simpa [hlisted] using hfind
  | some i =>
      cases htable : (ofEvents url events).table? key with
      | none => simp [hlisted, htable] at hfind
      | some t => simpa [hlisted, htable] using hfind

/-- In a list without repetitions, what comes before an element comes before its only place. -/
theorem mem_of_sublist_append {α : Type} {before after : List α} {x y : α}
    (hnodup : (before ++ x :: after).Nodup) (hsub : [y, x].Sublist (before ++ x :: after)) :
    y ∈ before := by
  induction before with
  | nil =>
      have hx : x ∉ after := (List.nodup_cons.1 hnodup).1
      rcases List.cons_sublist_cons'.1 hsub with hafter | ⟨-, hafter⟩
      · exact (hx (hafter.subset (by simp))).elim
      · exact (hx (hafter.subset (by simp))).elim
  | cons z before ih =>
      rcases List.cons_sublist_cons'.1 hsub with hrest | ⟨hyz, -⟩
      · exact List.mem_cons_of_mem z (ih (List.nodup_cons.1 hnodup).2 hrest)
      · exact hyz ▸ List.mem_cons_self

theorem firstToEnd?_eq_iff (key : String) :
    firstToEnd? events key = firstToStart? events key ↔
      ∀ i j, firstToStart? events key = some i → StartsInside i j events →
        namesTable events key j = false := by
  cases hfirst : firstToStart? events key with
  | none =>
      have hnone : ∀ t ∈ startedTables events, t.named key = false := List.findIdx?_eq_none_iff.1 hfirst
      have hend : firstToEnd? events key = none := by
        refine List.find?_eq_none.2 fun i _ => ?_
        cases hi : (startedTables events)[i]? with
        | none => simp [namesTable, hi]
        | some t => simp [namesTable, hi, hnone t (List.mem_of_getElem? hi)]
      simp [hend]
  | some m =>
      obtain ⟨hm, hnamed, hbefore⟩ := List.findIdx?_eq_some_iff_getElem.1 hfirst
      have hmem : m ∈ endOrder events := (endOrder_perm events).mem_iff.2 (List.mem_range.2 hm)
      constructor
      · rintro hend i j ⟨⟩ hinside
        obtain ⟨-, before, after, horder, hothers⟩ := List.find?_eq_some_iff_append.1 hend
        obtain ⟨-, -, hsub⟩ := (startsInside_iff events m j).1 hinside
        have hnodup := endOrder_nodup events
        rw [horder] at hsub hnodup
        simpa using hothers j (mem_of_sublist_append hnodup hsub)
      · intro hinside
        obtain ⟨before, after, horder⟩ := List.append_of_mem hmem
        refine List.find?_eq_some_iff_append.2
          ⟨by simp [namesTable, hm, hnamed], before, after, horder, fun j hj => ?_⟩
        have hnodup := endOrder_nodup events
        have hsub : [j, m].Sublist (endOrder events) := by
          rw [horder]
          exact (List.singleton_sublist.2 hj).append ((List.nil_sublist after).cons_cons m)
        have hlt : j < (startedTables events).length := by
          simpa using (endOrder_perm events).mem_iff.1 (hsub.subset (by simp))
        rcases lt_trichotomy j m with hjm | rfl | hmj
        · simpa [namesTable, hlt] using hbefore j hjm
        · rw [horder] at hnodup
          exact (List.disjoint_of_nodup_append hnodup hj (by simp)).elim
        · simpa using hinside m j rfl ((startsInside_iff events m j).2 ⟨hmj, hlt, hsub⟩)

/-- A page lists each table that starts in its document once, in the order of their ends: a table comes
before one that started earlier if it starts inside it, and only then.  So its tables are in the order of
their start tags exactly if none starts inside another one, and a key finds the table that starts first
among those it names exactly if none of the others starts inside that one. -/
theorem ofHtml_startOrder_iff {html : String} {events : List Event}
    (hread : Event.read html.toList = .ok events) (url : String) :
    ∃ page, ofHtml url html = .ok page ∧
      page.tables.map some = (endOrder events).map ((startedTables events)[·]?) ∧
      (endOrder events).Perm (List.range (startedTables events).length) ∧
      (∀ i j, i < j → j < (startedTables events).length →
        ([j, i].Sublist (endOrder events) ↔ StartsInside i j events)) ∧
      (endOrder events = List.range (startedTables events).length ↔ ∀ i j, ¬StartsInside i j events) ∧
      ((∀ i j, ¬StartsInside i j events) → page.tables = startedTables events) ∧
      ∀ key, page.table? key = (firstToEnd? events key).bind ((startedTables events)[·]?) ∧
        (firstToEnd? events key = firstToStart? events key ↔
          ∀ i j, firstToStart? events key = some i → StartsInside i j events →
            namesTable events key j = false) := by
  have hpage : ofHtml url html = .ok (ofEvents url events) := by
    rw [ofHtml, hread]
    rfl
  refine ⟨ofEvents url events, hpage, map_tables_ofEvents events url, endOrder_perm events, ?_,
    endOrder_eq_range_iff events, tables_eq_startedTables events url, fun key =>
      ⟨table?_ofEvents events url key, firstToEnd?_eq_iff events key⟩⟩
  intro i j hij hj
  rw [startsInside_iff]
  exact ⟨fun hsub => ⟨hij, hj, hsub⟩, fun h => h.2.2⟩

/-- Two tables, one after the other, the second without its end tag. -/
theorem ofHtml_startOrder_of_unclosed :
    let html := "<table id=a><tr><td>1</td></tr></table><table class=a><tr><td>2</td></tr>"
    ∃ events page, Event.read html.toList = .ok events ∧ ofHtml "http://rm/page" html = .ok page ∧
      page.tables = startedTables events ∧
      page.tables = [⟨some "a", [], [⟨[⟨"1", none⟩]⟩]⟩, ⟨none, ["a"], [⟨[⟨"2", none⟩]⟩]⟩] ∧
      page.table? "a" = (startedTables events)[0]? := by
  intro html
  have hread : Event.read html.toList = .ok [.opened "table" [("id", some "a")], .opened "tr" [],
      .opened "td" [], .text "1", .closed "td", .closed "tr", .closed "table",
      .opened "table" [("class", some "a")], .opened "tr" [], .opened "td" [], .text "2", .closed "td",
      .closed "tr"] := by decide +kernel
  obtain ⟨page, hpage, -, -, -, horder, htables, hkeys⟩ := ofHtml_startOrder_iff hread "http://rm/page"
  have hstarted := htables (horder.1 (by decide +kernel))
  refine ⟨_, page, hread, hpage, hstarted, ?_, ?_⟩
  · rw [hstarted]
    decide +kernel
  · rw [(hkeys "a").1]
    decide +kernel

/-- A table in a cell of another one of the same class is listed first, and found by the class. -/
theorem ofHtml_not_startOrder :
    let html := "<table id=o class=c><tr><td>x<table id=i class=c><tr><td>y</td></tr></table></td></tr></table>"
    let outer : Table := ⟨some "o", ["c"], [⟨[⟨"x", none⟩]⟩]⟩
    let inner : Table := ⟨some "i", ["c"], [⟨[⟨"y", none⟩]⟩]⟩
    (Event.read html.toList).map startedTables = .ok [outer, inner] ∧
      ofHtml "http://rm/page" html = .ok ⟨"http://rm/page", [inner, outer], "x y"⟩ ∧
      Page.table? ⟨"http://rm/page", [inner, outer], "x y"⟩ "c" = some inner := by
  decide +kernel

end SparkGateway.Page
