import TitleSieve.Proofs.Listing.Places

/-!
What a filtering leaves in each row. A decision has the handle of the row that its title was read
from, so it reaches that row and no other one. A decided row keeps every other declaration of its
style; it has one about its display exactly if it is hidden. The counts of a pass are then counts of
rows: of those that have a title, and of those among them that are shown.
-/

namespace TitleSieve.Listing

open Markup Pass

def styleOf (row : Forest.Element) : List Text :=
  declarations ((row.attributes.get? styleName).getD [])

def hasTitle (row : Forest.Element) : Bool := (rowTitle? row).isSome

/-- No declaration of the row's style begins with the word `display`. -/
def isShown (row : Forest.Element) : Bool := (styleOf row).all (!isDisplay ·)

/-- The last declaration of the row's style hides the row, and no other one is about its display. -/
def Hides (row : Forest.Element) : Prop :=
  ∃ others, styleOf row = others ++ [hiddenDisplay] ∧
    ∀ declaration ∈ others, isDisplay declaration = false

/-- The second row is the first one, shown or hidden. -/
structure Shows (visible : Bool) (row row' : Forest.Element) : Prop where
  name_eq : row'.name = row.name
  children_eq : row'.children = row.children
  attributes_agree : row.attributes.Agree (· ≠ styleName) row'.attributes
  others_eq : (styleOf row').filter (!isDisplay ·) = (styleOf row).filter (!isDisplay ·)
  isShown_eq : isShown row' = visible
  hides : visible = false → Hides row'

/-- A row with a title shows what becomes of the title alone, any other row stays as it is. -/
def DecidedBy (converter : Converter) (rule : Rule) (row row' : Forest.Element) : Prop :=
  match rowTitle? row with
  | none => row' = row
  | some title => ∃ visible, rule.alone converter title = .ok visible ∧ Shows visible row row'

theorem styleOf_setDisplay (row : Forest.Element) (visible : Bool) :
    styleOf { row with attributes := setDisplay row.attributes visible } =
      keptDeclarations ((row.attributes.get? styleName).getD []) visible := by
  rw [styleOf, get?_setDisplay, if_pos rfl, declarations_styleFor?]

theorem shows_setDisplay (row : Forest.Element) (visible : Bool) :
    Shows visible row { row with attributes := setDisplay row.attributes visible } := by
  have hothers : ∀ declaration ∈ (styleOf row).filter (!isDisplay ·),
      isDisplay declaration = false := by
    intro declaration hdeclaration
    simpa using (List.mem_filter.mp hdeclaration).2
  have hstyle := styleOf_setDisplay row visible
  refine ⟨rfl, rfl, fun name hname => ?_, ?_, ?_, fun hhidden => ?_⟩
  · rw [get?_setDisplay, if_neg hname]
  · rw [hstyle, filter_keptDeclarations, styleOf]
  · rw [isShown, hstyle]
    cases visible <;> simp [keptDeclarations, isDisplay_hiddenDisplay]
  · subst hhidden
    exact ⟨_, hstyle, hothers⟩

variable {converter : Converter} {rule : Rule} {row row' : Forest.Element}

theorem Shows.rowTitle?_eq {visible : Bool} (h : Shows visible row row') :
    rowTitle? row' = rowTitle? row := by
  rw [rowTitle?, h.children_eq, rowTitle?]

theorem DecidedBy.rowTitle?_eq (h : DecidedBy converter rule row row') :
    rowTitle? row' = rowTitle? row := by
  unfold DecidedBy at h
  cases htitle : rowTitle? row with
  | none =>
    rw [htitle] at h
    rw [h, htitle]
  | some title =>
    rw [htitle] at h
    obtain ⟨visible, -, hshows⟩ := h
    rw [hshows.rowTitle?_eq, htitle]

theorem DecidedBy.hasTitle_eq (h : DecidedBy converter rule row row') :
    hasTitle row' = hasTitle row := by
  rw [hasTitle, h.rowTitle?_eq, hasTitle]

variable {decisions : List (Decision Handle)}

/-- A pass decides what it was given, under the handle it was given. -/
theorem exists_decided {entries : List (Text × Text)}
    (h : List.Forall₂ (Decides converter rule) (entries.map candidateOf) decisions)
    {handle title : Text} (hmem : (handle, title) ∈ entries) :
    ∃ visible, (handle, visible) ∈ decisionsOf decisions ∧
      rule.alone converter title = .ok visible := by
  induction entries generalizing decisions with
  | nil => cases hmem
  | cons entry rest ih =>
    rw [List.map_cons] at h
    obtain ⟨⟨_, visible⟩, others, ⟨rfl, hvisible⟩, hrest, rfl⟩ := List.forall₂_cons_left_iff.mp h
    have hcons : decisionsOf (⟨.text entry.1, visible⟩ :: others) =
        (entry.1, visible) :: decisionsOf others := rfl
    rw [show (candidateOf entry).handle = .text entry.1 from rfl, hcons]
    rcases List.mem_cons.mp hmem with rfl | hmem
    · exact ⟨visible, List.mem_cons_self, hvisible⟩
    · obtain ⟨visible', hdecided, halone⟩ := ih hrest hmem
      exact ⟨visible', List.mem_cons_of_mem _ hdecided, halone⟩

/-- The decision for a row is that of its own title, and a row without a title has none. -/
theorem decidedBy_decideRow {rows : List Forest.Element}
    (h : List.Forall₂ (Decides converter rule) ((titlesFrom 0 rows).map candidateOf) decisions)
    {place : Nat} (hrow : rows[place]? = some row) :
    DecidedBy converter rule row
      { row with attributes := decideRow (decisionsOf decisions) place row.attributes } := by
  have hhandles : (decisionsOf decisions).map Prod.fst = (titlesFrom 0 rows).map Prod.fst :=
    handles_decisionsOf (handles_of_decides h)
  unfold DecidedBy decideRow
  cases htitle : rowTitle? row with
  | none =>
    -- Every handle is that of a row with a title, and places with equal handles are equal.
    have hnone : handleOf place ∉ (decisionsOf decisions).map Prod.fst := by
      rw [hhandles]
      intro hmem
      obtain ⟨⟨_, title⟩, hentry, rfl⟩ := List.mem_map.mp hmem
      rw [titlesFrom_eq_placed] at hentry
      obtain ⟨other, found, hfound, hsome, heq⟩ := mem_placed_iff.mp hentry
      obtain rfl := handleOf_injective heq
      obtain rfl := Option.some.inj (hrow.symm.trans hfound)
      rw [htitle] at hsome
      cases hsome
    rw [lookup_eq_none_of_not_mem hnone]
  | some title =>
    have hentry : (handleOf place, title) ∈ titlesFrom 0 rows := by
      rw [titlesFrom_eq_placed]
      exact mem_placed_iff.mpr ⟨place, row, hrow, htitle, rfl⟩
    have hdistinct : Distinct (decisionsOf decisions) := by
      rw [Distinct, hhandles, titlesFrom_eq_placed]
      exact distinct_placed 0 rows
    obtain ⟨visible, hdecided, halone⟩ := exists_decided h hentry
    rw [lookup_eq_some_of_mem hdistinct hdecided]
    exact ⟨visible, halone, shows_setDisplay row visible⟩

theorem length_titlesFrom (index : Nat) (rows : List Forest.Element) :
    (titlesFrom index rows).length = rows.countP hasTitle := by
  induction rows generalizing index with
  | nil => rfl
  | cons row rest ih =>
    rw [titlesFrom, List.countP_cons]
    cases htitle : rowTitle? row with
    | none => simp [hasTitle, htitle, ih]
    | some title => simp [hasTitle, htitle, ih]

theorem countP_hasTitle_eq {before after : List Forest.Element}
    (h : List.Forall₂ (DecidedBy converter rule) before after) :
    before.countP hasTitle = after.countP hasTitle := by
  induction h with
  | nil => rfl
  | cons hrow _ ih => rw [List.countP_cons, List.countP_cons, ih, hrow.hasTitle_eq]

/-- The decisions of a pass are those that the rows with a title show, in their order. -/
theorem map_visible_eq {before after : List Forest.Element}
    (hrows : List.Forall₂ (DecidedBy converter rule) before after) {index : Nat}
    (h : List.Forall₂ (Decides converter rule) ((titlesFrom index before).map candidateOf)
      decisions) :
    decisions.map Decision.visible = (after.filter hasTitle).map isShown := by
  induction hrows generalizing index decisions with
  | nil =>
    cases h
    rfl
  | @cons row row' before after hrow _ ih =>
    have hsame := hrow.hasTitle_eq
    unfold DecidedBy at hrow
    rw [titlesFrom] at h
    rw [List.filter_cons, hsame, hasTitle]
    cases htitle : rowTitle? row with
    | none =>
      rw [htitle] at h
      simpa using ih h
    | some title =>
      rw [htitle] at h hrow
      rw [List.map_cons] at h
      obtain ⟨visible, halone, hshows⟩ := hrow
      obtain ⟨decision, others, hdecides, hrest, rfl⟩ := List.forall₂_cons_left_iff.mp h
      have hvisible : decision.visible = visible := Except.ok.inj (hdecides.2.symm.trans halone)
      simp only [Option.isSome_some, if_true, List.map_cons, ih hrest, hvisible, hshows.isShown_eq]

/-- The titles that a pass keeps are those of the rows that are shown. -/
theorem countP_visible_eq {before after : List Forest.Element}
    (hrows : List.Forall₂ (DecidedBy converter rule) before after) {index : Nat}
    (h : List.Forall₂ (Decides converter rule) ((titlesFrom index before).map candidateOf)
      decisions) :
    decisions.countP Decision.visible = after.countP fun row => hasTitle row && isShown row := by
  calc
    decisions.countP Decision.visible = (decisions.map Decision.visible).countP id := by
      rw [List.countP_map, Function.id_comp]
    _ = (after.filter hasTitle).countP isShown := by
      rw [map_visible_eq hrows h, List.countP_map, Function.id_comp]
    _ = after.countP fun row => hasTitle row && isShown row := by
      rw [List.countP_filter]
      simp only [Bool.and_comm]

/-- The rows of a page that a filtering decides are, place for place, the rows of the page before,
each decided by its own title. -/
theorem forall₂_decidedBy {rows : List Forest.Element}
    (h : List.Forall₂ (Decides converter rule) ((titlesFrom 0 rows).map candidateOf) decisions) :
    List.Forall₂ (DecidedBy converter rule) rows (rows.mapIdx fun place row =>
      { row with attributes := decideRow (decisionsOf decisions) place row.attributes }) := by
  refine List.forall₂_iff_get.mpr ⟨List.length_mapIdx.symm, fun place hplace hplace' => ?_⟩
  simp only [List.get_eq_getElem, List.getElem_mapIdx]
  exact decidedBy_decideRow h (List.getElem?_eq_getElem hplace)

/-- Where a page has candidates, any decisions can be written back, and each row of the page that is
written is the row that was there, decided for its place. -/
theorem exists_written {html : Text} {found : List (Candidate Handle)}
    (h : candidates html = .ok found) :
    ∃ page before, Forest.read html = .ok page ∧ rows page = .ok before ∧
      found = (titlesFrom 0 before).map candidateOf ∧
      ∀ decisions, ∃ decided, decidePage? decisions page = some decided ∧
        applyDecisions html decisions = .ok decided.write ∧
        rows decided = .ok (before.mapIdx fun place row =>
          { row with attributes := decideRow decisions place row.attributes }) := by
  obtain ⟨page, before, hpage, hbefore, rfl⟩ := candidates_eq_ok_iff.mp h
  have htitles : titlesOf page = .ok (titlesFrom 0 before) := by
    rw [titlesOf, hbefore]
    rfl
  obtain ⟨content, hcontent⟩ := exists_body htitles
  refine ⟨page, before, hpage, hbefore, rfl, fun decisions => ?_⟩
  obtain ⟨decided, hdecided⟩ := exists_decidePage? hcontent decisions
  exact ⟨decided, hdecided, applyDecisions_eq_ok hpage hcontent hdecided,
    rows_decidePage? hbefore hdecided⟩

/-- Where a page has candidates and a pass over them succeeds, the decisions can be written back. In
the page that is written, each row with a title is shown or hidden as is decided for its own title
alone, each other row is as it was, and the pass counts the rows with a title and those of them
that are shown. -/
theorem filter_decides_rows {caching : Bool} {raw : Option Text} {html : Text}
    {found : List (Candidate Handle)} {pass : Pass Handle} (hfound : candidates html = .ok found)
    (hrun : (Pass.run converter caching raw found).1 = .ok pass) :
    ∃ page rule decided before after,
      Forest.read html = .ok page ∧ Rule.readGiven raw = .ok rule ∧
      decidePage? (decisionsOf pass.decisions) page = some decided ∧
      applyDecisions html (decisionsOf pass.decisions) = .ok decided.write ∧
      (filter converter caching raw html).1 = .ok ⟨found, pass, .ok decided.write⟩ ∧
      rows page = .ok before ∧ rows decided = .ok after ∧
      List.Forall₂ (DecidedBy converter rule.value) before after ∧
      pass.summary.total = after.countP hasTitle ∧
      pass.summary.visible = after.countP fun row => hasTitle row && isShown row := by
  obtain ⟨page, before, hpage, hbefore, rfl, hwritten⟩ := exists_written hfound
  obtain ⟨decided, hdecided, happly, hafter⟩ := hwritten (decisionsOf pass.decisions)
  obtain ⟨rule, hrule, hofRule⟩ := run_eq_ok_iff.mp hrun
  obtain ⟨-, hdecides, htallied⟩ := (ofRule_eq_ok_iff ..).mp hofRule
  have hrows := forall₂_decidedBy hdecides
  have hfilter : (filter converter caching raw html).1 =
      .ok ⟨(titlesFrom 0 before).map candidateOf, pass, .ok decided.write⟩ := by
    unfold filter
    rw [hfound]
    rcases houtcome : Pass.run converter caching raw ((titlesFrom 0 before).map candidateOf) with
      ⟨outcome, ledger⟩
    rw [houtcome] at hrun
    obtain rfl : outcome = .ok pass := hrun
    simp only [houtcome, happly]
  have htotal : pass.summary.total = before.countP hasTitle := by
    rw [htallied.1, List.length_map, length_titlesFrom]
  refine ⟨page, rule, decided, before, _, hpage, hrule, hdecided, happly, hfilter, hbefore, hafter,
    hrows, ?_, htallied.2.1.trans (countP_visible_eq hrows hdecides)⟩
  rw [htotal]
  exact countP_hasTitle_eq hrows

/-- A listing of three rows; the second one has no title, the third one has a style of its own. -/
def threeRows : Text :=
  ("<p id=topic_list><tbody><tr><p class=title>b</tr><tr style=display:x></tr>" ++
    "<tr style='top:1;Display:x'><p class=title> a\n</tr>").toList

/-- The first row is hidden and the third one is shown. -/
theorem filter_decides_rows_of_three :
    let found : List (Candidate Handle) := [⟨.text ['0'], ['b']⟩, ⟨.text ['2'], ['a']⟩]
    candidates threeRows = .ok found ∧
      (Pass.run .identity true (some ['A']) found).1 =
        .ok ⟨[⟨.text ['0'], false⟩, ⟨.text ['2'], true⟩], ⟨2, 1, 1, 0⟩⟩ ∧
      ∃ decided after,
        applyDecisions threeRows [(['0'], false), (['2'], true)] = .ok decided.write ∧
        rows decided = .ok after ∧ after.countP hasTitle = 2 ∧
        (after.countP fun row => hasTitle row && isShown row) = 1 := by
  intro found
  have htitles : titles threeRows = .ok [(['0'], ['b']), (['2'], ['a'])] := by decide +kernel
  have hfound : candidates threeRows = .ok found := by
    rw [candidates, htitles]
    rfl
  have hrun : (Pass.run .identity true (some ['A']) found).1 =
      .ok ⟨[⟨.text ['0'], false⟩, ⟨.text ['2'], true⟩], ⟨2, 1, 1, 0⟩⟩ := rfl
  obtain ⟨_, _, decided, _, after, -, -, -, happly, -, -, hafter, -, htotal, hvisible⟩ :=
    filter_decides_rows hfound hrun
  exact ⟨hfound, hrun, decided, after, happly, hafter, htotal.symm, hvisible.symm⟩

end TitleSieve.Listing
