import Mathlib.Data.Finset.Sort
import Mathlib.Data.String.Basic
import SecretVault.Listing

/-!
A page of a listing depends on nothing but the set of the names: it is the beginning of the sorted
set of those that match, however the names are ordered or repeated. Its cursor finds those that the
page leaves.
-/

namespace SecretVault.Listing

/-! ## Ascending lists -/

theorem insert_pairwise (name : String) {names : List String} (h : names.Pairwise (· < ·)) :
    (insert name names).Pairwise (· < ·) := by
  induction names with
  | nil => exact List.pairwise_singleton _ _
  | cons first rest ih =>
      obtain ⟨hfirst, hrest⟩ := List.pairwise_cons.mp h
      by_cases hless : name < first
      · rw [insert, if_pos hless]
        refine List.pairwise_cons.mpr ⟨?_, h⟩
        intro other hother
        rcases List.mem_cons.mp hother with rfl | hother
        · exact hless
        · exact hless.trans (hfirst other hother)
      · by_cases hsame : name = first
        · rw [insert, if_neg hless, if_pos hsame]
          exact h
        · rw [insert, if_neg hless, if_neg hsame]
          refine List.pairwise_cons.mpr ⟨?_, ih hrest⟩
          intro other hother
          rcases mem_insert.mp hother with rfl | hother
          · exact lt_of_le_of_ne (not_lt.mp hless) (Ne.symm hsame)
          · exact hfirst other hother

theorem ascending_pairwise (names : List String) : (ascending names).Pairwise (· < ·) := by
  induction names with
  | nil => exact List.Pairwise.nil
  | cons first rest ih => exact insert_pairwise first ih

/-- Putting names in order one by one gives the sorted set of them. -/
theorem ascending_eq_sort (names : List String) : ascending names = names.toFinset.sort := by
  have sorted := ascending_pairwise names
  have nodup : (ascending names).Nodup := sorted.imp fun h => ne_of_lt h
  have members : (ascending names).toFinset = names.toFinset := by
    ext name
    simp only [List.mem_toFinset, mem_ascending]
  rw [← members]
  exact ((List.toFinset_sort (· ≤ ·) nodup).mpr (sorted.imp fun h => le_of_lt h)).symm

/-! ## Pages -/

theorem startsWith_iff {name start : String} :
    startsWith name start = true ↔ start.toList <+: name.toList :=
  List.isPrefixOf_iff_prefix

/-- Those names of a set that begin with `start` and do not come before the cursor, sorted. -/
def found (names : Finset String) (start cursor : String) : List String :=
  (names.filter fun name => start.toList <+: name.toList ∧ cursor ≤ name).sort

/-- A page of the names of a set: at most `limit` of those that match, all of them if the limit is
negative, and the first one left out, if there is one. -/
def portion (names : Finset String) (start : String) (limit : Int) (cursor : String) : Page :=
  if limit < 0 then ⟨found names start cursor, ""⟩
  else
    ⟨(found names start cursor).take limit.toNat,
      ((found names start cursor).drop limit.toNat).headD ""⟩

theorem matching_eq_found (names : List String) (start cursor : String) :
    matching names start cursor = found names.toFinset start cursor := by
  rw [matching, ascending_eq_sort, found]
  congr 1
  ext name
  simp only [List.mem_toFinset, List.mem_filter, Finset.mem_filter, Bool.and_eq_true,
    Bool.not_eq_true', decide_eq_false_iff_not, startsWith_iff, not_lt]

theorem page_eq_portion (names : List String) (start : String) (limit : Int) (cursor : String) :
    page names start limit cursor = portion names.toFinset start limit cursor := by
  unfold page portion
  rw [matching_eq_found]
  by_cases hneg : limit < 0
  · simp only [hneg, if_true]
  · simp only [hneg, if_false]
    cases hrest : (found names.toFinset start cursor).drop limit.toNat with
    | nil =>
        have all := List.drop_eq_nil_iff.mp hrest
        simp only [List.take_of_length_le all, List.headD_nil]
    | cons next rest => rfl

/-! ## Where a page leaves off -/

variable {names : Finset String} {start cursor : String} {limit : Int}

theorem mem_found {name : String} : name ∈ found names start cursor ↔
    name ∈ names ∧ start.toList <+: name.toList ∧ cursor ≤ name := by
  rw [found, Finset.mem_sort, Finset.mem_filter]

theorem found_pairwise (names : Finset String) (start cursor : String) :
    (found names start cursor).Pairwise (· < ·) :=
  (Finset.sortedLT_sort _).pairwise

theorem empty_le (name : String) : "" ≤ name := by
  rw [← not_lt, String.lt_iff_toList_lt]
  exact List.not_lt_nil _

theorem found_empty (names : Finset String) (start : String) :
    found names start "" = (names.filter (start.toList <+: ·.toList)).sort := by
  rw [found]
  congr 1
  ext name
  simp [empty_le]

theorem found_next {first rest : List String} {next : String}
    (h : found names start cursor = first ++ next :: rest) :
    found names start next = next :: rest := by
  have sorted := found_pairwise names start cursor
  rw [h] at sorted
  obtain ⟨_, after, before⟩ := List.pairwise_append.mp sorted
  have reached : cursor ≤ next := by
    have there : next ∈ found names start cursor := by simp [h]
    exact (mem_found.mp there).2.2
  apply (found_pairwise names start next).sortedLT.eq_of_mem_iff after.sortedLT
  intro name
  constructor
  · intro hname
    obtain ⟨hmem, begins, hnext⟩ := mem_found.mp hname
    have there : name ∈ first ++ next :: rest := by
      rw [← h]
      exact mem_found.mpr ⟨hmem, begins, reached.trans hnext⟩
    rcases List.mem_append.mp there with earlier | later
    · exact absurd (before name earlier next List.mem_cons_self) (not_lt.mpr hnext)
    · exact later
  · intro hname
    have there : name ∈ found names start cursor := by
      rw [h]
      exact List.mem_append_right _ hname
    obtain ⟨hmem, begins, _⟩ := mem_found.mp there
    refine mem_found.mpr ⟨hmem, begins, ?_⟩
    rcases List.mem_cons.mp hname with rfl | hrest
    · exact le_refl name
    · exact le_of_lt ((List.pairwise_cons.mp after).1 name hrest)

theorem next_eq_empty_iff {first rest : List String} {next : String}
    (h : found names start cursor = first ++ next :: rest) :
    next = "" ↔ first = [] ∧ "" ∈ found names start cursor := by
  have sorted := found_pairwise names start cursor
  rw [h] at sorted
  obtain ⟨_, after, before⟩ := List.pairwise_append.mp sorted
  constructor
  · rintro rfl
    refine ⟨List.eq_nil_iff_forall_not_mem.mpr fun name hname => ?_, by simp [h]⟩
    exact absurd (before name hname "" List.mem_cons_self) (not_lt.mpr (empty_le name))
  · rintro ⟨rfl, there⟩
    rw [h, List.nil_append] at there
    rcases List.mem_cons.mp there with hnext | later
    · exact hnext.symm
    · exact absurd ((List.pairwise_cons.mp after).1 "" later) (not_lt.mpr (empty_le next))

/-- A page takes some of the names that were found, and leaves those that its cursor finds. -/
structure Divides (names : Finset String) (start cursor : String) (p : Page) : Prop where
  whole : found names start cursor =
    p.names ++ if p.cursor = "" then [] else found names start p.cursor
  next : p.cursor ≠ "" → p.cursor ∈ found names start p.cursor

theorem divides_portion (names : Finset String) (start cursor : String) (given : limit ≠ 0) :
    Divides names start cursor (portion names start limit cursor) := by
  unfold portion
  by_cases all : limit < 0
  · rw [if_pos all]
    exact ⟨by simp, fun h => absurd rfl h⟩
  · rw [if_neg all]
    have positive : 0 < limit.toNat := by omega
    have split_found := List.take_append_drop limit.toNat (found names start cursor)
    cases hrest : (found names start cursor).drop limit.toNat with
    | nil =>
        rw [hrest, List.append_nil] at split_found
        exact ⟨by simp [split_found], fun h => absurd rfl h⟩
    | cons next rest =>
        rw [hrest] at split_found
        have found_rest := found_next split_found.symm
        have named : next ≠ "" := by
          intro hnext
          obtain ⟨none, there⟩ := (next_eq_empty_iff split_found.symm).mp hnext
          rcases List.take_eq_nil_iff.mp none with zero | nothing
          · omega
          · simp [nothing] at there
        constructor
        · simp only [List.headD_cons, named, if_false, found_rest, split_found]
        · intro _
          simp [found_rest]

theorem length_portion (positive : 0 < limit) :
    (portion names start limit cursor).names.length =
      min limit.toNat (found names start cursor).length := by
  rw [portion, if_neg (Int.not_lt.mpr (Int.le_of_lt positive)), List.length_take]

/-! ## The contract of a page -/

def left (names : Finset String) (start cursor : String) (p : Page) : List String :=
  (found names start cursor).filter fun name => decide (name ∉ p.names)

theorem left_eq {p : Page} {rest : List String}
    (h : found names start cursor = p.names ++ rest) : left names start cursor p = rest := by
  have sorted := found_pairwise names start cursor
  rw [h] at sorted
  have before := (List.pairwise_append.mp sorted).2.2
  rw [left, h, List.filter_append]
  have taken : (p.names.filter fun name => decide (name ∉ p.names)) = [] := by
    simp [List.filter_eq_nil_iff]
  have kept : (rest.filter fun name => decide (name ∉ p.names)) = rest := by
    rw [List.filter_eq_self]
    intro name hname
    rw [decide_eq_true_eq]
    exact fun twice => lt_irrefl name (before name twice name hname)
  rw [taken, kept, List.nil_append]

/-- What is promised of a page of names: which of those that were found it holds, and how its cursor
tells of those it leaves. -/
structure Meets (names : List String) (start : String) (limit : Int) (cursor : String)
    (p : Page) : Prop where
  taken : p.names =
    if limit < 0 then found names.toFinset start cursor
    else (found names.toFinset start cursor).take
      (min limit.toNat (found names.toFinset start cursor).length)
  -- the empty name is as good a cursor as others, but reads like the end of the listing
  ended : p.cursor = "" ↔ left names.toFinset start cursor p = [] ∨
    limit = 0 ∧ "" ∈ found names.toFinset start cursor
  least : left names.toFinset start cursor p ≠ [] →
    p.cursor ∈ left names.toFinset start cursor p ∧
      ∀ name ∈ left names.toFinset start cursor p, p.cursor ≤ name
  resumes : left names.toFinset start cursor p ≠ [] → ∀ more : Int,
    (page names start more p.cursor).names =
      if more < 0 then left names.toFinset start cursor p
      else (left names.toFinset start cursor p).take more.toNat
  unordered : ∀ others : List String, (∀ name, name ∈ others ↔ name ∈ names) →
    page others start limit cursor = p

theorem portion_append (names : Finset String) (start : String) (limit : Int) (cursor : String) :
    found names start cursor = (portion names start limit cursor).names ++
      if limit < 0 then [] else (found names start cursor).drop limit.toNat := by
  unfold portion
  by_cases all : limit < 0
  · simp only [all, if_true, List.append_nil]
  · simp only [all, if_false, List.take_append_drop]

theorem left_portion (names : Finset String) (start : String) (limit : Int) (cursor : String) :
    left names start cursor (portion names start limit cursor) =
      if limit < 0 then [] else (found names start cursor).drop limit.toNat :=
  left_eq (portion_append names start limit cursor)

/-- A page and the names it leaves are those that were found, in order. -/
theorem found_eq_append_left (names : Finset String) (start : String) (limit : Int)
    (cursor : String) : found names start cursor =
      (portion names start limit cursor).names ++
        left names start cursor (portion names start limit cursor) := by
  rw [left_portion]
  exact portion_append names start limit cursor

theorem cursor_eq_head_left (names : Finset String) (start : String) (limit : Int)
    (cursor : String) : (portion names start limit cursor).cursor =
      (left names start cursor (portion names start limit cursor)).headD "" := by
  rw [left_portion]
  unfold portion
  by_cases all : limit < 0
  · simp only [all, if_true, List.headD_nil]
  · simp only [all, if_false]

theorem portion_names_eq_nil_iff
    (leaves : left names start cursor (portion names start limit cursor) ≠ []) :
    (portion names start limit cursor).names = [] ↔ limit = 0 := by
  rw [left_portion] at leaves
  unfold portion
  by_cases all : limit < 0
  · simp [all] at leaves
  · rw [if_neg all] at leaves
    have some_found : found names start cursor ≠ [] := by
      intro nothing
      simp [nothing] at leaves
    simp only [all, if_false, List.take_eq_nil_iff, some_found, or_false]
    omega

/-- A listing meets its contract for all names, prefixes, limits and cursors. -/
theorem page_meets (names : List String) (start : String) (limit : Int) (cursor : String) :
    Meets names start limit cursor (page names start limit cursor) := by
  have whole := found_eq_append_left names.toFinset start limit cursor
  have head := cursor_eq_head_left names.toFinset start limit cursor
  have sorted := found_pairwise names.toFinset start cursor
  rw [page_eq_portion]
  constructor
  case taken =>
    unfold portion
    by_cases all : limit < 0
    · simp only [all, if_true]
    · simp only [all, if_false]
      rw [List.take_eq_take_iff]
      omega
  case ended =>
    cases hleft : left names.toFinset start cursor (portion names.toFinset start limit cursor) with
    | nil => simp [head, hleft]
    | cons next rest =>
        have leaves : left names.toFinset start cursor
            (portion names.toFinset start limit cursor) ≠ [] := by simp [hleft]
        rw [hleft] at head whole
        rw [head, List.headD_cons, next_eq_empty_iff whole, portion_names_eq_nil_iff leaves]
        simp
  case least =>
    intro leaves
    obtain ⟨next, rest, hleft⟩ := List.exists_cons_of_ne_nil leaves
    rw [hleft] at head whole ⊢
    rw [whole] at sorted
    have after := (List.pairwise_append.mp sorted).2.1
    rw [head, List.headD_cons]
    refine ⟨List.mem_cons_self, fun name hname => ?_⟩
    rcases List.mem_cons.mp hname with rfl | later
    · exact le_refl name
    · exact le_of_lt ((List.pairwise_cons.mp after).1 name later)
  case resumes =>
    intro leaves more
    obtain ⟨next, rest, hleft⟩ := List.exists_cons_of_ne_nil leaves
    rw [hleft] at head whole ⊢
    rw [page_eq_portion, head, List.headD_cons, portion, found_next whole]
    by_cases all : more < 0
    · simp only [all, if_true]
    · simp only [all, if_false]
  case unordered =>
    intro others same
    have set_eq : others.toFinset = names.toFinset := by
      ext name
      rw [List.mem_toFinset, List.mem_toFinset, same]
    rw [page_eq_portion, set_eq]

/-- The empty name can be left out, and the cursor that leads to it reads like the end. -/
theorem empty_cursor_leaves_empty_name :
    ¬ ((page [""] "" 0 "").cursor = "" ↔ left [""].toFinset "" "" (page [""] "" 0 "") = []) := by
  have leaves := left_portion [""].toFinset "" 0 ""
  have only : found [""].toFinset "" "" = [""] := by
    rw [← matching_eq_found]
    decide
  rw [page_eq_portion, leaves, cursor_eq_head_left, leaves, only]
  decide

end SecretVault.Listing
