import SparkGateway.Page.Basic
import SparkGateway.Timeline

/-!
# Page cache

Pages that have been loaded are kept for some time, so that looking at the same page again costs no
request.  A cache holds at most `room` pages and lets the one go that was stored longest ago; a page
that is older than `lifetime` is dropped when it is asked for.

Main statements: `length_put_le` (the cache never outgrows its room) and `find?_put` (a page that has
just been stored is the one that is found).
-/

namespace SparkGateway.Page

/-- A page with the time when it was stored and the address it is stored under. -/
structure Stored (τ : Type) where
  /-- The address. -/
  url : String
  /-- The time. -/
  since : τ
  /-- The page. -/
  page : Page

/-- A cache of pages. -/
structure Cache (τ : Type) where
  /-- How long a page is kept. -/
  lifetime : τ
  /-- How many pages are kept. -/
  room : Int
  /-- The stored pages, the one stored longest ago first. -/
  entries : List (Stored τ)

namespace Cache

variable {τ : Type}

/-- A cache without pages. -/
def empty (lifetime : τ) (room : Int) : Cache τ := ⟨lifetime, room, []⟩

/-- How many pages are stored. -/
def size (c : Cache τ) : Nat := c.entries.length

/-- The entry of an address. -/
def find? (c : Cache τ) (url : String) : Option (Stored τ) := c.entries.find? fun e => e.url == url

/-- A cache without the entry of an address. -/
def drop (c : Cache τ) (url : String) : Cache τ :=
  { c with entries := c.entries.filter fun e => e.url != url }

/-- A cache without any entry. -/
def clear (c : Cache τ) : Cache τ := { c with entries := [] }

variable [Timeline τ]

/-- Whether an entry is too old at a time. -/
def expired (c : Cache τ) (now : τ) (e : Stored τ) : Bool :=
  Timeline.lt c.lifetime (Timeline.minus now e.since)

/-- The page of an address at a time, if one is stored and not too old; one that is too old is
dropped. -/
def get (c : Cache τ) (now : τ) (url : String) : Option Page × Cache τ :=
  match c.find? url with
  | none => (none, c)
  | some e => if c.expired now e then (none, c.drop url) else (some e.page, c)

/-- Whether the cache keeps anything at all. -/
def keeps (c : Cache τ) : Bool := !(Timeline.le c.lifetime (Timeline.seconds 0) || c.room ≤ 0)

/-- Stores a page under an address at a time; the entries stored longest ago make room. -/
def put (c : Cache τ) (now : τ) (url : String) (page : Page) : Cache τ :=
  if c.keeps then
    let entries := (c.drop url).entries ++ [⟨url, now, page⟩]
    { c with entries := entries.drop (entries.length - c.room.toNat) }
  else c

/-- The cache never outgrows its room. -/
theorem length_put_le (c : Cache τ) (now : τ) (url : String) (page : Page)
    (h : c.size ≤ c.room.toNat) :
    (c.put now url page).size ≤ c.room.toNat := by
  unfold put
  split
  · simp only [size, List.length_drop, List.length_append, List.length_singleton]
    omega
  · exact h

/-- A page that has just been stored is the one that is found. -/
theorem find?_put (c : Cache τ) (now : τ) (url : String) (page : Page)
    (h : c.keeps = true) :
    (c.put now url page).find? url = some ⟨url, now, page⟩ := by
  have hroom : 0 < c.room := by
    simp only [keeps, Bool.not_eq_true', Bool.or_eq_false_iff, decide_eq_false_iff_not] at h
    omega
  have hnone : ∀ e ∈ (c.drop url).entries, (e.url == url) = false := by
    intro e he
    simp only [drop, List.mem_filter] at he
    simpa using he.2
  simp only [put, h, if_true, find?]
  generalize hnew : (⟨url, now, page⟩ : Stored τ) = new
  have hfound : (new.url == url) = true := by simp [← hnew]
  have hle : ((c.drop url).entries ++ [new]).length - c.room.toNat ≤ (c.drop url).entries.length := by
    simp only [List.length_append, List.length_singleton]
    omega
  have hrest : List.find? (fun e => e.url == url) (List.drop
      (((c.drop url).entries ++ [new]).length - c.room.toNat) (c.drop url).entries) = none := by
    refine List.find?_eq_none.2 ?_
    intro e he
    simp [hnone e (List.mem_of_mem_drop he)]
  rw [List.drop_append_of_le_length hle, List.find?_append, hrest]
  simp [hfound]

end Cache

end SparkGateway.Page
