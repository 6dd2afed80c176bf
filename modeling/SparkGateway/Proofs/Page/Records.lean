import SparkGateway.Proofs.Page.TableOrder
import SparkGateway.Proofs.Text.Collapsed

/-!
# What is recorded of a page

Nothing is known about how the events of a hypertext are nested.  Still a table ends as often as one starts,
the rows that are recorded have cells, and all texts are collapsed: each event keeps this of the builder
(`Builder.IsTidy.step`), so any events do.

What is recorded is final.  A table that has ended stays where and as it is, and of an open one an event can
only add a row behind the others (`OpenTable.heed_rows`).  So each table, by the number of its start tag,
still has its rows after more events, in their order and as they were (`startedFrom_append`).

Main statement: `ofEvents_recorded`.
-/

namespace SparkGateway

/-- A row has cells, and their texts are collapsed. -/
structure Row.IsTidy (r : Row) : Prop where
  filled : r.cells ≠ []
  collapsed : ∀ c ∈ r.cells, Text.IsCollapsed c.text.toList

/-- A table grows: it may have more rows behind those it has had. -/
structure Table.GrowsTo (t t' : Table) : Prop where
  id : t'.id = t.id
  classes : t'.classes = t.classes
  rows : t.rows <+: t'.rows

theorem Table.GrowsTo.refl (t : Table) : t.GrowsTo t :=
  ⟨rfl, rfl, List.prefix_refl t.rows⟩

theorem Table.GrowsTo.trans {t t' t'' : Table} (h : t.GrowsTo t') (h' : t'.GrowsTo t'') : t.GrowsTo t'' :=
  ⟨h'.id.trans h.id, h'.classes.trans h.classes, h.rows.trans h'.rows⟩

namespace Html

/-- Whether an event is the start tag of a table. -/
def Event.startsTable : Event → Bool
  | .opened tag _ => tag == "table"
  | _ => false

end Html

namespace Page

open Html Text

/-! ## Open tables -/

namespace OpenTable

/-- The rows of an open table are tidy, and so are the cells of the row that is being read. -/
structure IsTidy (t : OpenTable) : Prop where
  rows : ∀ r ∈ t.rows, r.IsTidy
  row : ∀ c ∈ t.row.getD [], IsCollapsed c.text.toList

variable (t : OpenTable)

theorem endCell_frame : t.endCell.id = t.id ∧ t.endCell.classes = t.classes ∧ t.endCell.rows = t.rows := by
  unfold endCell
  split <;> exact ⟨rfl, rfl, rfl⟩

theorem endRow_frame : t.endRow.id = t.id ∧ t.endRow.classes = t.classes ∧ t.endRow.row = none := by
  unfold endRow
  split <;> exact ⟨rfl, rfl, rfl⟩

theorem endRow_rows :
    t.endRow.rows = t.rows ∨ ∃ cells, t.row = some cells ∧ cells ≠ [] ∧ t.endRow.rows = t.rows ++ [⟨cells⟩] := by
  unfold endRow
  split
  · next c cs hrow =>
      cases t.hasData with
      | true => exact .inr ⟨c :: cs, hrow, List.cons_ne_nil c cs, rfl⟩
      | false => exact .inl rfl
  · exact .inl rfl

theorem endCell_row {c : Cell} (h : c ∈ t.endCell.row.getD []) :
    c ∈ t.row.getD [] ∨ ∃ cell : OpenCell, c = cell.finish := by
  unfold endCell at h
  split at h
  · next cell cells _ hrow =>
      rw [hrow]
      exact (List.mem_append.1 h).imp_right fun hnew => ⟨cell, List.mem_singleton.1 hnew⟩
  · exact .inl h

/-- All that an event can do to the rows of an open table is to add one: the row that was being read. -/
theorem heed_rows (hidden : Nat) (e : Event) :
    (t.heed hidden e).rows = t.rows ∨
      ∃ cells, t.row = some cells ∧ cells ≠ [] ∧ (t.heed hidden e).rows = t.rows ++ [⟨cells⟩] := by
  cases e with
  | opened tag attributes =>
      left
      simp only [heed, OpenTable.opened]
      split_ifs <;> rfl
  | closed tag =>
      simp only [heed, OpenTable.closed]
      split_ifs
      · exact .inl t.endCell_frame.2.2
      · exact t.endRow_rows
      · exact .inl rfl
  | text s =>
      left
      simp only [heed]
      split_ifs <;> rfl

/-- An event adds no other cells to the row that is being read than one that ends. -/
theorem heed_row (hidden : Nat) (e : Event) {c : Cell} (h : c ∈ (t.heed hidden e).row.getD []) :
    c ∈ t.row.getD [] ∨ ∃ cell : OpenCell, c = cell.finish := by
  cases e with
  | opened tag attributes =>
      left
      simp only [heed, OpenTable.opened] at h
      split_ifs at h
      · exact absurd h List.not_mem_nil
      all_goals exact h
  | closed tag =>
      simp only [heed, OpenTable.closed] at h
      split_ifs at h
      · exact t.endCell_row h
      · rw [t.endRow_frame.2.2] at h
        exact absurd h List.not_mem_nil
      · exact .inl h
  | text s =>
      left
      simp only [heed] at h
      split_ifs at h <;> exact h

theorem heed_id (hidden : Nat) (e : Event) :
    (t.heed hidden e).id = t.id ∧ (t.heed hidden e).classes = t.classes := by
  cases e with
  | opened tag attributes =>
      simp only [heed, OpenTable.opened]
      split_ifs <;> exact ⟨rfl, rfl⟩
  | closed tag =>
      simp only [heed, OpenTable.closed]
      split_ifs
      · exact ⟨t.endCell_frame.1, t.endCell_frame.2.1⟩
      · exact ⟨t.endRow_frame.1, t.endRow_frame.2.1⟩
      · exact ⟨rfl, rfl⟩
  | text s =>
      simp only [heed]
      split_ifs <;> exact ⟨rfl, rfl⟩

variable {t}

theorem IsTidy.heed (h : t.IsTidy) (hidden : Nat) (e : Event) : (t.heed hidden e).IsTidy where
  rows r hr := by
    rcases t.heed_rows hidden e with hrows | ⟨cells, hrow, hcells, hrows⟩
    · exact h.rows r (hrows ▸ hr)
    · rw [hrows] at hr
      rcases List.mem_append.1 hr with hold | hnew
      · exact h.rows r hold
      · obtain rfl := List.mem_singleton.1 hnew
        exact ⟨hcells, fun c hc => h.row c (by rw [hrow]; exact hc)⟩
  row c hc := by
    rcases t.heed_row hidden e hc with hold | ⟨cell, rfl⟩
    · exact h.row c hold
    · exact isCollapsed_collapse _

variable (t)

theorem heed_growsTo (hidden : Nat) (e : Event) : t.finish.GrowsTo (t.heed hidden e).finish := by
  obtain ⟨hid, hclasses⟩ := t.heed_id hidden e
  refine ⟨hid, hclasses, ?_⟩
  show t.rows <+: (t.heed hidden e).rows
  rcases t.heed_rows hidden e with hrows | ⟨cells, -, -, hrows⟩
  · exact hrows ▸ List.prefix_refl t.rows
  · exact hrows ▸ List.prefix_append t.rows _

theorem readOn_growsTo (depth hidden : Nat) (events : List Event) :
    t.finish.GrowsTo (t.readOn depth hidden events).finish := by
  induction events generalizing t depth hidden with
  | nil => exact .refl _
  | cons e rest ih =>
      cases he : e.mark with
      | start attributes => simpa only [readOn, he] using ih t (depth + 1) hidden
      | finish =>
          cases depth with
          | zero => simpa only [readOn, he] using .refl _
          | succ depth => simpa only [readOn, he] using ih t depth hidden
      | other =>
          cases depth with
          | zero => simpa only [readOn, he] using (t.heed_growsTo hidden e).trans (ih _ 0 _)
          | succ depth => simpa only [readOn, he] using ih t (depth + 1) _

/-- More events can only add rows to what an open table has read. -/
theorem readOn_append (depth hidden : Nat) (events more : List Event) :
    (t.readOn depth hidden events).finish.GrowsTo (t.readOn depth hidden (events ++ more)).finish := by
  induction events generalizing t depth hidden with
  | nil => exact t.readOn_growsTo depth hidden more
  | cons e rest ih =>
      cases he : e.mark with
      | start attributes => simpa only [List.cons_append, readOn, he] using ih t (depth + 1) hidden
      | finish =>
          cases depth with
          | zero => simpa only [List.cons_append, readOn, he] using .refl _
          | succ depth => simpa only [List.cons_append, readOn, he] using ih t depth hidden
      | other =>
          cases depth with
          | zero => simpa only [List.cons_append, readOn, he] using ih _ 0 _
          | succ depth => simpa only [List.cons_append, readOn, he] using ih t (depth + 1) _

end OpenTable

/-! ## Tables by their numbers -/

theorem length_startedFrom (hidden : Nat) (events : List Event) :
    (startedFrom hidden events).length = events.countP Event.startsTable := by
  induction events generalizing hidden with
  | nil => rfl
  | cons e rest ih =>
      rw [List.countP_cons]
      cases e with
      | opened tag attributes =>
          by_cases htag : tag = "table" <;> simp [startedFrom, Event.mark, Event.startsTable, htag, ih]
      | closed tag =>
          by_cases htag : tag = "table" <;> simp [startedFrom, Event.mark, Event.startsTable, htag, ih]
      | text s => simp [startedFrom, Event.mark, Event.startsTable, ih]

/-- After more events each table has its number, and it still has the rows that it has had. -/
theorem startedFrom_append (hidden : Nat) (events more : List Event) :
    ∃ grown newer, startedFrom hidden (events ++ more) = grown ++ newer ∧
      List.Forall₂ Table.GrowsTo (startedFrom hidden events) grown := by
  induction events generalizing hidden with
  | nil => exact ⟨[], _, rfl, .nil⟩
  | cons e rest ih =>
      cases he : e.mark with
      | start attributes =>
          obtain ⟨grown, newer, hsplit, hgrown⟩ := ih hidden
          simp only [List.cons_append, startedFrom, he, hsplit]
          exact ⟨_, newer, rfl, .cons (OpenTable.readOn_append _ 0 hidden rest more) hgrown⟩
      | finish => simpa only [List.cons_append, startedFrom, he] using ih hidden
      | other => simpa only [List.cons_append, startedFrom, he] using ih _

/-! ## The builder -/

namespace Builder

/-- All tables are tidy. -/
structure IsTidy (b : Builder) : Prop where
  tables : ∀ t ∈ b.tables, ∀ r ∈ t.rows, r.IsTidy
  stack : ∀ t ∈ b.stack, t.IsTidy

theorem isTidy_empty : empty.IsTidy :=
  ⟨nofun, nofun⟩

variable {b : Builder}

theorem forall_mem_onTop {p : OpenTable → Prop} (h : ∀ t ∈ b.stack, p t) {f : OpenTable → OpenTable}
    (hf : ∀ t, p t → p (f t)) : ∀ t ∈ (b.onTop f).stack, p t := by
  obtain ⟨tables, stack, pieces, hidden⟩ := b
  cases stack with
  | nil => exact h
  | cons t ts =>
      obtain ⟨htop, hothers⟩ := List.forall_mem_cons.1 h
      exact List.forall_mem_cons.2 ⟨hf t htop, hothers⟩

theorem IsTidy.step (h : b.IsTidy) (e : Event) : (b.step e).IsTidy := by
  cases he : e.mark with
  | start attributes =>
      rw [b.step_start he]
      exact ⟨h.tables, List.forall_mem_cons.2 ⟨⟨nofun, nofun⟩, h.stack⟩⟩
  | finish =>
      rw [b.step_finish he]
      rcases b.closed_table_cases with ⟨-, hclosed⟩ | ⟨t, ts, hstack, hclosed⟩
      · rwa [hclosed]
      · obtain ⟨htop, hothers⟩ := List.forall_mem_cons.1 (hstack ▸ h.stack)
        rw [hclosed]
        refine ⟨fun u hu => ?_, hothers⟩
        rcases List.mem_append.1 hu with hold | hnew
        · exact h.tables u hold
        · obtain rfl := List.mem_singleton.1 hnew
          exact htop.rows
  | other =>
      obtain ⟨htables, hstack, -⟩ := b.step_other he
      refine ⟨htables ▸ h.tables, hstack ▸ ?_⟩
      exact forall_mem_onTop h.stack fun t ht => ht.heed b.hidden e

theorem IsTidy.run (h : b.IsTidy) (events : List Event) : (b.run events).IsTidy := by
  induction events generalizing b with
  | nil => exact h
  | cons e rest ih => exact ih (h.step e)

theorem IsTidy.finish (h : b.IsTidy) (url : String) : ∀ t ∈ (b.finish url).tables, ∀ r ∈ t.rows, r.IsTidy := by
  intro t ht
  rcases List.mem_append.1 ht with hended | hopen
  · exact h.tables t hended
  · obtain ⟨u, hu, rfl⟩ := List.mem_map.1 hopen
    exact (h.stack u hu).rows

/-- Tables that have ended stay where and as they are. -/
theorem tables_prefix_run (b : Builder) (events : List Event) : b.tables <+: (b.run events).tables := by
  induction events generalizing b with
  | nil => exact List.prefix_refl _
  | cons e rest ih =>
      obtain ⟨more, hmore⟩ := b.tables_step e
      exact (hmore ▸ List.prefix_append b.tables more).trans (ih (b.step e))

end Builder

/-! ## The page -/

/-- What is recorded of some events, and stays so whatever events follow. -/
structure Recorded (events : List Event) (page : Page) : Prop where
  /-- There are as many tables as start tags of tables. -/
  count : page.tables.length = events.countP Event.startsTable
  filled : ∀ t ∈ page.tables, ∀ r ∈ t.rows, r.cells ≠ []
  cells : ∀ t ∈ page.tables, ∀ r ∈ t.rows, ∀ c ∈ r.cells, IsCollapsed c.text.toList
  text : IsCollapsed page.text.toList
  /-- The tables that have ended come first, and the others have the rows that they have so far. -/
  listed : page.tables =
    (Builder.empty.run events).tables ++ (Builder.empty.run events).stack.map OpenTable.finish
  /-- Each table has the number of its start tag. -/
  numbered : page.tables.map some = (endOrder events).map ((startedTables events)[·]?)
  once : (endOrder events).Perm (List.range (startedTables events).length)
  /-- Tables that have ended stay where and as they are. -/
  ended : ∀ (more : List Event) (url : String),
    (Builder.empty.run events).tables <+: (ofEvents url (events ++ more)).tables
  /-- Rows stay where and as they are in their tables. -/
  grown : ∀ (more : List Event) (i : Nat) (t : Table), (startedTables events)[i]? = some t →
    ∃ t', (startedTables (events ++ more))[i]? = some t' ∧ t.GrowsTo t'

theorem ofHtml_eq (url html : String) :
    ofHtml url html = (Event.read html.toList).map (ofEvents url) := by
  unfold ofHtml
  cases Event.read html.toList <;> rfl

/-- **What is recorded of any events, and so of every hypertext.** -/
theorem ofEvents_recorded (url : String) :
    (∀ events, Recorded events (ofEvents url events)) ∧
      ∀ html, ofHtml url html = (Event.read html.toList).map (ofEvents url) := by
  refine ⟨fun events => ?_, ofHtml_eq url⟩
  have htidy := (Builder.isTidy_empty.run events).finish url
  have hnumbered := map_tables_ofEvents events url
  have honce := endOrder_perm events
  refine ⟨?_, fun t ht r hr => (htidy t ht r hr).filled, fun t ht r hr => (htidy t ht r hr).collapsed,
    isCollapsed_collapse _, rfl, hnumbered, honce, ?_, ?_⟩
  · have hlength := congrArg List.length hnumbered
    rw [List.length_map, List.length_map, honce.length_eq, List.length_range] at hlength
    exact hlength.trans (length_startedFrom 0 events)
  · intro more url
    rw [ofEvents, Builder.run_append]
    exact ((Builder.empty.run events).tables_prefix_run more).trans (List.prefix_append _ _)
  · intro more i t ht
    obtain ⟨grown, newer, hsplit, hgrown⟩ := startedFrom_append 0 events more
    obtain ⟨hlength, hget⟩ := List.forall₂_iff_get.1 hgrown
    obtain ⟨hi, rfl⟩ := List.getElem?_eq_some_iff.1 ht
    have hi' : i < grown.length := hlength ▸ hi
    refine ⟨grown[i], ?_, hget i hi hi'⟩
    rw [startedTables, hsplit, List.getElem?_append_left hi', List.getElem?_eq_getElem hi']

example : ofHtml "http://rm/page" "<td><table></tr><tr><td>a <td> b\n c</td></tr><table>" =
    .ok ⟨"http://rm/page", [⟨none, [], []⟩, ⟨none, [], [⟨[⟨"b c", none⟩]⟩]⟩], "a b c"⟩ := by
  decide +kernel

end Page

end SparkGateway
