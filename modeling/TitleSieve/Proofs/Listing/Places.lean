import TitleSieve.Proofs.Listing.Refiltering

/-!
Rows and their places. The titles of a listing are those of the rows that have one, each under the
number of its row in decimal digits, so no two have the same handle and a row without a title has
the handle of none; the lines of a text are numbered in the same way. Deciding a page changes the
attributes of each row as is decided for its place; the rows themselves, their number and their
order stay.
-/

namespace TitleSieve.Listing

open Markup

theorem handleOf_injective {m n : Nat} (h : handleOf m = handleOf n) : m = n := by
  calc
    m = Nat.ofDigitChars 10 (handleOf m) 0 := Nat.ofDigitChars_ten_toDigits.symm
    _ = Nat.ofDigitChars 10 (handleOf n) 0 := by rw [h]
    _ = n := Nat.ofDigitChars_ten_toDigits

/-- The items that have a title, each title under the handle of its item's place. -/
def placed {α : Type} (title? : α → Option Text) (index : Nat) (items : List α) :
    List (Text × Text) :=
  (items.zipIdx index).filterMap fun item => (title? item.1).map (handleOf item.2, ·)

def Distinct {α : Type} (entries : List (Text × α)) : Prop := (entries.map Prod.fst).Nodup

instance {α : Type} (entries : List (Text × α)) : Decidable (Distinct entries) :=
  inferInstanceAs (Decidable (entries.map Prod.fst).Nodup)

section

variable {α : Type} {title? : α → Option Text}

theorem placed_cons (index : Nat) (item : α) (rest : List α) :
    placed title? index (item :: rest) =
      match title? item with
      | some title => (handleOf index, title) :: placed title? (index + 1) rest
      | none => placed title? (index + 1) rest := by
  rw [placed, List.zipIdx_cons]
  cases htitle : title? item with
  | none => simp [placed, htitle]
  | some title => simp [placed, htitle]

theorem mem_placed_iff {items : List α} {handle title : Text} :
    (handle, title) ∈ placed title? 0 items ↔
      ∃ place item, items[place]? = some item ∧ title? item = some title ∧
        handle = handleOf place := by
  rw [placed, List.mem_filterMap]
  constructor
  · rintro ⟨⟨item, place⟩, hplaced, htitle⟩
    have hitem : items[place]? = some item := List.mem_zipIdx_iff_getElem?.mp hplaced
    obtain ⟨found, hfound, heq⟩ := Option.map_eq_some_iff.mp htitle
    obtain ⟨hhandle, rfl⟩ := Prod.mk.inj heq
    exact ⟨place, item, hitem, hfound, hhandle.symm⟩
  · rintro ⟨place, item, hitem, htitle, rfl⟩
    refine ⟨(item, place), List.mem_zipIdx_iff_getElem?.mpr hitem, ?_⟩
    rw [htitle, Option.map_some]

theorem distinct_placed (index : Nat) (items : List α) : Distinct (placed title? index items) := by
  have hplaces : (items.zipIdx index).Pairwise fun a b => a.2 ≠ b.2 := by
    have hnodup : ((items.zipIdx index).map Prod.snd).Nodup := by
      rw [List.zipIdx_map_snd]
      exact List.nodup_range'
    exact List.pairwise_map.mp hnodup
  have hhandles : (placed title? index items).Pairwise fun a b => a.1 ≠ b.1 := by
    refine hplaces.filterMap _ fun a b hne entry hentry other hother heq => hne ?_
    obtain ⟨title, -, rfl⟩ := Option.map_eq_some_iff.mp hentry
    obtain ⟨title', -, rfl⟩ := Option.map_eq_some_iff.mp hother
    exact handleOf_injective heq
  exact List.pairwise_map.mpr hhandles

end

theorem titlesFrom_eq_placed (index : Nat) (rows : List Forest.Element) :
    titlesFrom index rows = placed rowTitle? index rows := by
  induction rows generalizing index with
  | nil => rfl
  | cons row rest ih =>
    rw [titlesFrom, placed_cons]
    cases rowTitle? row with
    | none => exact ih (index + 1)
    | some title => exact congrArg ((handleOf index, title) :: ·) (ih (index + 1))

theorem distinct_titles {html : Text} {entries : List (Text × Text)}
    (h : titles html = .ok entries) : Distinct entries := by
  unfold titles titlesOf at h
  cases hpage : Forest.read html with
  | error fault =>
    rw [hpage] at h
    cases h
  | ok page =>
    cases hrows : rows page with
    | error what =>
      simp only [hpage, hrows, Except.map] at h
      cases h
    | ok before =>
      simp only [hpage, hrows, Except.map] at h
      obtain rfl := Except.ok.inj h
      rw [titlesFrom_eq_placed]
      exact distinct_placed 0 before

theorem lookup_eq_some_of_mem {decisions : Decisions} (hdistinct : Distinct decisions)
    {handle : Text} {visible : Bool} (h : (handle, visible) ∈ decisions) :
    decisions.lookup handle = some visible := by
  induction decisions with
  | nil => cases h
  | cons entry rest ih =>
    obtain ⟨first, decided⟩ := entry
    rw [Distinct, List.map_cons, List.nodup_cons] at hdistinct
    rcases List.mem_cons.mp h with heq | hrest
    · obtain ⟨rfl, rfl⟩ := Prod.mk.inj heq
      exact List.lookup_cons_self
    · have hne : handle ≠ first := by
        rintro rfl
        exact hdistinct.1 (List.mem_map.mpr ⟨_, hrest, rfl⟩)
      have hbeq : (handle == first) = false := by simpa using hne
      rw [List.lookup_cons, hbeq]
      exact ih hdistinct.2 hrest

/-- The rows of a rewritten body are its rows, each with its own new attributes. -/
theorem select_rewriteRows (rewrite : Nat → Attributes → Attributes) (index : Nat)
    (content : Forest) :
    (rewriteRows rewrite index content).select isRow =
      (content.select isRow).mapIdx fun place row =>
        { row with attributes := rewrite (index + place) row.attributes } := by
  induction content generalizing index with
  | nil => rfl
  | leaf kind text next ih => exact ih index
  | element name attributes children next _ ih =>
    by_cases hrow : name == "tr".toList
    · have hnext : ∀ place, index + 1 + place = index + (place + 1) := by omega
      simp only [rewriteRows, Forest.select, isRow, hrow, if_true, List.mapIdx_cons, Nat.add_zero]
      rw [ih (index + 1)]
      simp only [hnext]
    · simp only [rewriteRows, Forest.select, isRow, hrow, Bool.false_eq_true, if_false]
      exact ih index

/-- The rows of a decided page are its rows, each decided for its place. -/
theorem rows_decidePage? {decisions : Decisions} {page decided : Forest}
    {before : List Forest.Element} (hrows : rows page = .ok before)
    (h : decidePage? decisions page = some decided) :
    rows decided = .ok (before.mapIdx fun place row =>
      { row with attributes := decideRow decisions place row.attributes }) := by
  obtain ⟨listing, kids, hlisting, hkids, hlisting'⟩ := Forest.find?_of_updateFirst? h
  obtain ⟨inner, content, hinner, hcontent, hinner'⟩ := Forest.find?_of_updateFirst? hkids
  obtain rfl := Option.some.inj hcontent
  have hbody : body page = .ok inner.children := by simp only [body, hlisting, hinner]
  have hbody' : body decided = .ok (decideRows decisions 0 inner.children) := by
    simp only [body, hlisting', hinner']
  rw [rows, hbody] at hrows
  obtain rfl := Except.ok.inj hrows
  rw [rows, hbody', decideRows_eq_rewriteRows]
  refine congrArg Except.ok ?_
  simpa only [Nat.zero_add] using select_rewriteRows (decideRow decisions) 0 inner.children

/-- A text has candidates if it is a page with a listing, and they are the titles of its rows. -/
theorem candidates_eq_ok_iff {html : Text} {found : List (Candidate Handle)} :
    candidates html = .ok found ↔
      ∃ page before, Forest.read html = .ok page ∧ rows page = .ok before ∧
        found = (titlesFrom 0 before).map candidateOf := by
  unfold candidates titles titlesOf
  cases Forest.read html with
  | error fault => simp [Except.map]
  | ok page =>
    cases hrows : rows page with
    | error what => simp [hrows, Except.map]
    | ok before => simp [hrows, Except.map, eq_comm]

end TitleSieve.Listing
