import Mathlib.Algebra.Order.Floor.Div
import SecretVault.Proofs.Listing

/-!
Walks through a listing, page by page, while names come and go. A cursor is a name and not a
position: all that was collected lies before it, and all that is still to be collected does not.
That is kept by every page, whatever the set of names is at the time, and carries the whole walk.
-/

namespace SecretVault

/-- A walk from a cursor on: each page is asked for with the cursor of the one before, and the walk
ends with a page whose cursor is empty. It may be at any point of its way. -/
inductive Walk {α : Type} (lists : String → α → Page → Prop) : String → List (α × Page) → Prop where
  | idle (cursor) : Walk lists cursor []
  | last {cursor x page} (listed : lists cursor x page) (ended : page.cursor = "") :
      Walk lists cursor [(x, page)]
  | more {cursor x page rest} (listed : lists cursor x page) (further : page.cursor ≠ "")
      (walk : Walk lists page.cursor rest) : Walk lists cursor ((x, page) :: rest)

namespace Walk

variable {α β : Type} {lists : String → α → Page → Prop} {cursor : String}
  {pages : List (α × Page)}

def collected (pages : List (α × Page)) : List String :=
  pages.flatMap (·.2.names)

def Finished (pages : List (α × Page)) : Prop :=
  (pages.getLast?.map (·.2.cursor)) = some ""

@[simp] theorem collected_nil : collected ([] : List (α × Page)) = [] := rfl

@[simp] theorem collected_cons (x : α) (page : Page) (rest : List (α × Page)) :
    collected ((x, page) :: rest) = page.names ++ collected rest := rfl

@[simp] theorem not_finished_nil : ¬ Finished ([] : List (α × Page)) := nofun

@[simp] theorem finished_singleton (x : α) (page : Page) :
    Finished [(x, page)] ↔ page.cursor = "" := by
  simp [Finished]

theorem finished_cons {x : α} {page : Page} {rest : List (α × Page)} (further : page.cursor ≠ "") :
    Finished ((x, page) :: rest) ↔ Finished rest := by
  cases rest with
  | nil => simp [further]
  | cons next rest => simp [Finished]

theorem listed (walk : Walk lists cursor pages) : ∀ v ∈ pages, ∃ from_, lists from_ v.1 v.2 := by
  induction walk with
  | idle cursor => simp
  | last listed ended =>
      intro v hv
      obtain rfl := List.mem_singleton.mp hv
      exact ⟨_, listed⟩
  | more listed further _ ih =>
      intro v hv
      rcases List.mem_cons.mp hv with rfl | hv
      · exact ⟨_, listed⟩
      · exact ih v hv

def reached (cursor : String) (pages : List (α × Page)) : String :=
  (pages.getLast?.map (·.2.cursor)).getD cursor

theorem reached_cons (cursor : String) (x : α) (page : Page) (rest : List (α × Page)) :
    reached cursor ((x, page) :: rest) = reached page.cursor rest := by
  simp only [reached, List.getLast?_cons, Option.map_some, Option.getD_some]
  cases rest.getLast? <;> rfl

/-- A walk that is not finished goes on with any page that is listed from where it is. -/
theorem concat (walk : Walk lists cursor pages) (unfinished : ¬ Finished pages) {x : α}
    {page : Page} (listed : lists (reached cursor pages) x page) :
    Walk lists cursor (pages ++ [(x, page)]) := by
  induction walk with
  | idle cursor =>
      by_cases ended : page.cursor = ""
      · exact .last listed ended
      · exact .more listed ended (.idle _)
  | last _ ended => exact absurd ((finished_singleton _ _).mpr ended) unfinished
  | more first further _ ih =>
      rw [finished_cons further] at unfinished
      rw [reached_cons] at listed
      exact .more first further (ih unfinished listed)

theorem map {lists' : String → β → Page → Prop} (f : α → β)
    (h : ∀ cursor x page, lists cursor x page → lists' cursor (f x) page)
    (walk : Walk lists cursor pages) : Walk lists' cursor (pages.map fun v => (f v.1, v.2)) := by
  induction walk with
  | idle cursor => exact .idle cursor
  | last listed ended => exact .last (h _ _ _ listed) ended
  | more listed further _ ih => exact .more (h _ _ _ listed) further ih

@[simp] theorem collected_map (f : α → β) :
    collected (pages.map fun v => (f v.1, v.2)) = collected pages := by
  simp [collected, List.flatMap_map]

theorem finished_map (f : α → β) :
    Finished (pages.map fun v => (f v.1, v.2)) ↔ Finished pages := by
  simp [Finished, List.getLast?_map]

end Walk

/-! ## Walks through sets of names -/

namespace Listing

open Walk (collected Finished)

variable {start cursor : String} {pages : List ((Finset String × Int) × Page)}

/-- A page of the names that there are at the time, with a limit of its own. -/
def Portions (start cursor : String) (asked : Finset String × Int) (page : Page) : Prop :=
  asked.2 ≠ 0 ∧ page = portion asked.1 start asked.2 cursor

theorem Portions.divides {asked : Finset String × Int} {page : Page}
    (h : Portions start cursor asked page) : Divides asked.1 start cursor page := by
  obtain ⟨given, rfl⟩ := h
  exact divides_portion asked.1 start cursor given

theorem Divides.mem_found {names : Finset String} {page : Page} {name : String}
    (h : Divides names start cursor page) (hname : name ∈ page.names) :
    name ∈ found names start cursor := by
  rw [h.whole]
  exact List.mem_append_left _ hname

/-- The names on a page come before its cursor, which does not come before that of the page. -/
theorem Divides.bounds {names : Finset String} {page : Page} (h : Divides names start cursor page)
    (further : page.cursor ≠ "") :
    (∀ name ∈ page.names, name < page.cursor) ∧ cursor ≤ page.cursor := by
  have sorted := found_pairwise names start cursor
  have whole := h.whole
  rw [if_neg further] at whole
  rw [whole] at sorted
  constructor
  · intro name hname
    exact (List.pairwise_append.mp sorted).2.2 name hname page.cursor (h.next further)
  · have there : page.cursor ∈ found names start cursor := by
      rw [whole]
      exact List.mem_append_right _ (h.next further)
    exact (Listing.mem_found.mp there).2.2

theorem Divides.sorted {names : Finset String} {page : Page}
    (h : Divides names start cursor page) : page.names.Pairwise (· < ·) := by
  have sorted := found_pairwise names start cursor
  rw [h.whole] at sorted
  exact (List.pairwise_append.mp sorted).1

theorem le_of_mem_collected (walk : Walk (Portions start) cursor pages) :
    ∀ name ∈ collected pages, cursor ≤ name := by
  induction walk with
  | idle cursor => simp
  | last listed ended =>
      intro name hname
      simp only [Walk.collected_cons, Walk.collected_nil, List.append_nil] at hname
      exact (mem_found.mp (listed.divides.mem_found hname)).2.2
  | more listed further _ ih =>
      intro name hname
      rw [Walk.collected_cons] at hname
      rcases List.mem_append.mp hname with here | later
      · exact (mem_found.mp (listed.divides.mem_found here)).2.2
      · exact (listed.divides.bounds further).2.trans (ih name later)

/-- What a walk collects is strictly increasing, however the names change between the pages. -/
theorem collected_pairwise (walk : Walk (Portions start) cursor pages) :
    (collected pages).Pairwise (· < ·) := by
  induction walk with
  | idle cursor => exact List.Pairwise.nil
  | last listed ended =>
      simp only [Walk.collected_cons, Walk.collected_nil, List.append_nil]
      exact listed.divides.sorted
  | more listed further walk ih =>
      rw [Walk.collected_cons]
      refine List.pairwise_append.mpr ⟨listed.divides.sorted, ih, ?_⟩
      intro name hname other hother
      exact lt_of_lt_of_le ((listed.divides.bounds further).1 name hname)
        (le_of_mem_collected walk other hother)

/-- Whatever a page gives is there at the time and begins as asked. -/
theorem mem_of_mem_page (walk : Walk (Portions start) cursor pages) :
    ∀ v ∈ pages, ∀ name ∈ v.2.names, name ∈ v.1.1 ∧ start.toList <+: name.toList := by
  induction walk with
  | idle cursor => simp
  | last listed ended =>
      intro v hv name hname
      obtain rfl := List.mem_singleton.mp hv
      obtain ⟨there, begins, _⟩ := mem_found.mp (listed.divides.mem_found hname)
      exact ⟨there, begins⟩
  | more listed further _ ih =>
      intro v hv name hname
      rcases List.mem_cons.mp hv with rfl | hv
      · obtain ⟨there, begins, _⟩ := mem_found.mp (listed.divides.mem_found hname)
        exact ⟨there, begins⟩
      · exact ih v hv name hname

/-- A finished walk has collected every name that begins as asked, does not come before the cursor,
and is there for all the pages. -/
theorem mem_collected_of_forall {name : String} (begins : start.toList <+: name.toList)
    (walk : Walk (Portions start) cursor pages) (finished : Finished pages)
    (reached : cursor ≤ name) (there : ∀ v ∈ pages, name ∈ v.1.1) : name ∈ collected pages := by
  induction walk with
  | idle cursor => exact absurd finished Walk.not_finished_nil
  | @last cursor x page listed ended =>
      have hfound : name ∈ found x.1 start cursor :=
        mem_found.mpr ⟨there _ List.mem_cons_self, begins, reached⟩
      rw [listed.divides.whole, if_pos ended] at hfound
      simpa using hfound
  | @more cursor x page rest listed further _ ih =>
      have hfound : name ∈ found x.1 start cursor :=
        mem_found.mpr ⟨there _ List.mem_cons_self, begins, reached⟩
      rw [listed.divides.whole, if_neg further] at hfound
      rw [Walk.collected_cons]
      -- a name that the page leaves does not come before the cursor, so the rest of the walk has it
      rcases List.mem_append.mp hfound with here | later
      · exact List.mem_append_left _ here
      · refine List.mem_append_right _ (ih ((Walk.finished_cons further).mp finished) ?_ ?_)
        · exact (mem_found.mp later).2.2
        · exact fun v hv => there v (List.mem_cons_of_mem _ hv)

def pagesFor (count limit : Nat) : Nat :=
  max 1 (count ⌈/⌉ limit)

theorem pagesFor_of_le {count limit : Nat} (positive : 0 < limit) (h : count ≤ limit) :
    pagesFor count limit = 1 := by
  have small : count ⌈/⌉ limit ≤ 1 := by
    rw [ceilDiv_le_iff_le_mul positive]
    omega
  rw [pagesFor]
  omega

/-- A full page takes one off the number of pages. -/
theorem pagesFor_add {rest limit : Nat} (positive : 0 < limit) (more : 0 < rest) :
    pagesFor (limit + rest) limit = pagesFor rest limit + 1 := by
  have step : (limit + rest) ⌈/⌉ limit = rest ⌈/⌉ limit + 1 := by
    rw [Nat.ceilDiv_eq_add_pred_div, Nat.ceilDiv_eq_add_pred_div, ← Nat.add_div_right _ positive]
    congr 1
    omega
  have one : 1 ≤ rest ⌈/⌉ limit := by
    rw [Nat.ceilDiv_eq_add_pred_div]
    apply Nat.div_pos
    · omega
    · exact positive
  rw [pagesFor, pagesFor, step]
  omega

structure Steady (names : Finset String) (start cursor : String) (limit : Nat)
    (pages : List ((Finset String × Int) × Page)) : Prop where
  length_le : pages.length ≤ pagesFor (found names start cursor).length limit
  finished_iff : Finished pages ↔
    pages.length = pagesFor (found names start cursor).length limit
  collected_eq : Finished pages → collected pages = found names start cursor

theorem Portions.length {names : Finset String} {limit : Nat} {page : Page}
    (positive : 0 < limit) (h : Portions start cursor (names, (limit : Int)) page) :
    page.names.length = min limit (found names start cursor).length := by
  obtain ⟨_, rfl⟩ := h
  rw [length_portion (Int.natCast_pos.mpr positive), Int.toNat_natCast]

theorem one_le_pagesFor (count limit : Nat) : 1 ≤ pagesFor count limit :=
  Nat.le_max_left 1 _

/-- A walk with one limit over names that stay the same ends when it has seen as many pages as they
need, and has then collected them. -/
theorem steady {names : Finset String} {limit : Nat} (positive : 0 < limit)
    (walk : Walk (Portions start) cursor pages)
    (same : ∀ v ∈ pages, v.1 = (names, (limit : Int))) : Steady names start cursor limit pages := by
  induction walk with
  | idle cursor =>
      have one := one_le_pagesFor (found names start cursor).length limit
      refine ⟨Nat.zero_le _, ?_, fun finished => absurd finished Walk.not_finished_nil⟩
      constructor
      · exact fun finished => absurd finished Walk.not_finished_nil
      · intro none
        rw [List.length_nil] at none
        omega
  | @last cursor x page listed ended =>
      obtain rfl : x = (names, (limit : Int)) := same _ List.mem_cons_self
      have divides : Divides names start cursor page := listed.divides
      have whole := divides.whole
      rw [if_pos ended, List.append_nil] at whole
      have short : (found names start cursor).length ≤ limit := by
        have size := listed.length positive
        rw [← whole] at size
        omega
      refine ⟨?_, ?_, ?_⟩
      · rw [pagesFor_of_le positive short, List.length_singleton]
      · rw [pagesFor_of_le positive short, List.length_singleton, Walk.finished_singleton]
        exact iff_of_true ended rfl
      · intro _
        rw [Walk.collected_cons, Walk.collected_nil, List.append_nil, whole]
  | @more cursor x page rest listed further walk ih =>
      obtain rfl : x = (names, (limit : Int)) := same _ List.mem_cons_self
      have divides : Divides names start cursor page := listed.divides
      have whole := divides.whole
      rw [if_neg further] at whole
      have left : 0 < (found names start page.cursor).length :=
        List.length_pos_of_mem (divides.next further)
      have size := listed.length positive
      have full : (found names start cursor).length =
          limit + (found names start page.cursor).length := by
        have total := congrArg List.length whole
        rw [List.length_append] at total
        omega
      obtain ⟨length_le, finished_iff, collected_eq⟩ :=
        ih fun v hv => same v (List.mem_cons_of_mem _ hv)
      refine ⟨?_, ?_, ?_⟩
      · rw [full, pagesFor_add positive left, List.length_cons]
        omega
      · rw [full, pagesFor_add positive left, List.length_cons, Walk.finished_cons further,
          finished_iff]
        omega
      · intro finished
        rw [Walk.collected_cons, whole, collected_eq ((Walk.finished_cons further).mp finished)]

end Listing

end SecretVault
