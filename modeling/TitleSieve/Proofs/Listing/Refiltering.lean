import TitleSieve.Listing.Filter
import TitleSieve.Proofs.Listing.Restyling
import TitleSieve.Proofs.Pass.Independence

/-!
Pages that are filtered more than once. Deciding the rows of a page changes nothing but their
styles, and the listing, its body, its rows and their titles are found without looking at styles:
so the candidates stay the same and so do their handles. Decisions that follow others are the
decisions of both with the later ones first. A filtering decides every row that has a title, hence
of any number of filterings the last one alone shows.
-/

namespace TitleSieve.Listing

open Markup

theorem respects_isListing {matters : Text → Prop} (h : matters "id".toList) :
    Forest.Choice.Respects matters isListing := by
  intro name first second hagree
  simp only [isListing, hagree _ h]

theorem respects_isTitle {matters : Text → Prop} (h : matters "class".toList) :
    Forest.Choice.Respects matters isTitle := by
  intro name first second hagree
  simp only [isTitle, hagree _ h]

theorem respects_isBody (matters : Text → Prop) : Forest.Choice.Respects matters isBody :=
  fun _ _ _ _ => rfl

theorem respects_isRow (matters : Text → Prop) : Forest.Choice.Respects matters isRow :=
  fun _ _ _ _ => rfl

section

variable {matters : Text → Prop} {first second : Forest}

theorem body_alike (h : first.Alike matters second) (hid : matters "id".toList) :
    (∃ what, body first = .error what ∧ body second = .error what) ∨
      ∃ content content', body first = .ok content ∧ body second = .ok content' ∧
        content.Alike matters content' := by
  have hlisting := h.find? (respects_isListing hid)
  unfold body
  generalize first.find? isListing = found, second.find? isListing = found' at hlisting
  cases hlisting with
  | none => exact .inl ⟨.listing, rfl, rfl⟩
  | @some listing listing' halike =>
    have hbody := halike.children_alike.find? (respects_isBody matters)
    simp only
    generalize listing.children.find? isBody = found,
      listing'.children.find? isBody = found' at hbody
    cases hbody with
    | none => exact .inl ⟨.body, rfl, rfl⟩
    | some hinner => exact .inr ⟨_, _, rfl, rfl, hinner.children_alike⟩

theorem rowTitle?_eq {row row' : Forest.Element} (h : row.Alike matters row')
    (hclass : matters "class".toList) : rowTitle? row = rowTitle? row' := by
  have hcell := h.children_alike.find? (respects_isTitle hclass)
  unfold rowTitle?
  generalize row.children.find? isTitle = found, row'.children.find? isTitle = found' at hcell
  cases hcell with
  | none => rfl
  | some halike => simp only [Option.map_some, halike.text_eq]

theorem titlesFrom_eq {rows rows' : List Forest.Element}
    (h : List.Forall₂ (Forest.Element.Alike matters) rows rows') (hclass : matters "class".toList)
    (index : Nat) : titlesFrom index rows = titlesFrom index rows' := by
  induction h generalizing index with
  | nil => rfl
  | cons hrow _ ih => simp only [titlesFrom, rowTitle?_eq hrow hclass, ih]

/-- Titles are read without looking at any attribute but identities and classes. -/
theorem titlesOf_eq (h : first.Alike matters second) (hid : matters "id".toList)
    (hclass : matters "class".toList) : titlesOf first = titlesOf second := by
  unfold titlesOf rows
  rcases body_alike h hid with ⟨what, hfirst, hsecond⟩ |
    ⟨content, content', hfirst, hsecond, halike⟩
  · rw [hfirst, hsecond]
  · have hrows := halike.select (respects_isRow matters)
    rw [hfirst, hsecond]
    exact congrArg Except.ok (titlesFrom_eq hrows hclass 0)

end

/-- Decisions that take the place of earlier ones on the handles that they decide. -/
def override (earlier later : Decisions) : Decisions := later ++ earlier

theorem lookup_override (earlier later : Decisions) (handle : Text) :
    (override earlier later).lookup handle = (later.lookup handle).or (earlier.lookup handle) :=
  List.lookup_append ..

theorem decideRow_decideRow (earlier later : Decisions) (index : Nat) (attributes : Attributes) :
    Attributes.Agree (fun _ => True) (decideRow later index (decideRow earlier index attributes))
      (decideRow (override earlier later) index attributes) := by
  unfold decideRow
  rw [lookup_override]
  cases later.lookup (handleOf index) with
  | none => exact .refl _
  | some visible =>
    cases earlier.lookup (handleOf index) with
    | none => exact .refl _
    | some before => exact setDisplay_setDisplay attributes before visible

theorem decideRow_agree {first second : Attributes} (h : first.Agree (fun _ => True) second)
    (decisions : Decisions) (index : Nat) :
    (decideRow decisions index first).Agree (fun _ => True) (decideRow decisions index second) := by
  unfold decideRow
  cases decisions.lookup (handleOf index) with
  | none => exact h
  | some visible => exact setDisplay_agree h visible

/-- Deciding a row leaves every attribute but its style. -/
theorem agree_decideRow (decisions : Decisions) (index : Nat) (attributes : Attributes) :
    attributes.Agree (· ≠ styleName) (decideRow decisions index attributes) := by
  intro name hname
  unfold decideRow
  cases decisions.lookup (handleOf index) with
  | none => rfl
  | some visible => rw [get?_setDisplay, if_neg hname]

/-- Gives each row of a body, the first of which has this index, new attributes. -/
def rewriteRows (rewrite : Nat → Attributes → Attributes) : Nat → Forest → Forest
  | _, .nil => .nil
  | index, .leaf kind content next => .leaf kind content (rewriteRows rewrite index next)
  | index, .element name attributes children next =>
    if isRow name attributes then
      .element name (rewrite index attributes) children (rewriteRows rewrite (index + 1) next)
    else .element name attributes children (rewriteRows rewrite index next)

theorem decideRows_eq_rewriteRows (decisions : Decisions) (index : Nat) (content : Forest) :
    decideRows decisions index content = rewriteRows (decideRow decisions) index content := by
  induction content generalizing index with
  | nil => rfl
  | leaf kind text next ih => simp only [decideRows, rewriteRows, ih]
  | element name attributes children next _ ih => simp only [decideRows, rewriteRows, ih]

theorem rewriteRows_self (index : Nat) (content : Forest) :
    rewriteRows (fun _ attributes => attributes) index content = content := by
  induction content generalizing index with
  | nil => rfl
  | leaf kind text next ih => simp only [rewriteRows, ih]
  | element name attributes children next _ ih => simp only [rewriteRows, ih, ite_self]

/-- Rows are told by their names, so rewriting twice is rewriting each row twice. -/
theorem rewriteRows_rewriteRows (first second : Nat → Attributes → Attributes) (index : Nat)
    (content : Forest) :
    rewriteRows second index (rewriteRows first index content) =
      rewriteRows (fun index attributes => second index (first index attributes)) index
        content := by
  induction content generalizing index with
  | nil => rfl
  | leaf kind text next ih => simp only [rewriteRows, ih]
  | element name attributes children next _ ih =>
    by_cases hrow : name == "tr".toList
    · simp only [rewriteRows, isRow, hrow, if_true, ih]
    · simp only [rewriteRows, isRow, hrow, Bool.false_eq_true, if_false, ih]

theorem rewriteRows_alike {matters matters' : Text → Prop} {first second : Forest}
    {rewrite rewrite' : Nat → Attributes → Attributes} (h : first.Alike matters second)
    (hle : ∀ name, matters' name → matters name)
    (hrewrite : ∀ index attributes attributes', attributes.Agree matters attributes' →
      (rewrite index attributes).Agree matters' (rewrite' index attributes')) (index : Nat) :
    (rewriteRows rewrite index first).Alike matters' (rewriteRows rewrite' index second) := by
  induction h generalizing index with
  | nil => exact .nil
  | leaf kind text _ ih => exact .leaf kind text (ih index)
  | element name hattributes hchildren _ _ ih =>
    by_cases hrow : name == "tr".toList
    · simp only [rewriteRows, isRow, hrow, if_true]
      exact .element name (hrewrite index _ _ hattributes) (hchildren.weaken hle) (ih (index + 1))
    · simp only [rewriteRows, isRow, hrow, Bool.false_eq_true, if_false]
      exact .element name (fun n hn => hattributes n (hle n hn)) (hchildren.weaken hle) (ih index)

theorem decideRows_decideRows (earlier later : Decisions) (content : Forest) :
    (decideRows later 0 (decideRows earlier 0 content)).Same
      (decideRows (override earlier later) 0 content) := by
  simp only [decideRows_eq_rewriteRows, rewriteRows_rewriteRows]
  refine rewriteRows_alike (.refl content) (fun _ h => h) (fun index first second h => ?_) 0
  exact (decideRow_agree (decideRow_agree h earlier index) later index).trans
    (decideRow_decideRow earlier later index second)

theorem decideRows_same {first second : Forest} (h : first.Same second) (decisions : Decisions) :
    (decideRows decisions 0 first).Same (decideRows decisions 0 second) := by
  simp only [decideRows_eq_rewriteRows]
  exact rewriteRows_alike h (fun _ h => h)
    (fun index _ _ hagree => decideRow_agree hagree decisions index) 0

theorem alike_decideRows (decisions : Decisions) (content : Forest) :
    content.Alike (· ≠ styleName) (decideRows decisions 0 content) := by
  have h : (rewriteRows (fun _ attributes => attributes) 0 content).Alike (· ≠ styleName)
      (rewriteRows (decideRow decisions) 0 content) :=
    rewriteRows_alike (.refl content) (fun _ h => h)
      (fun index _ second hagree => hagree.trans (agree_decideRow decisions index second)) 0
  rwa [rewriteRows_self, ← decideRows_eq_rewriteRows] at h

theorem decidePage?_congr {decisions decisions' : Decisions}
    (h : ∀ handle, decisions.lookup handle = decisions'.lookup handle) (page : Forest) :
    decidePage? decisions page = decidePage? decisions' page := by
  have hrow : decideRow decisions = decideRow decisions' := by
    funext index attributes
    simp only [decideRow, h]
  simp only [decidePage?, decideRows_eq_rewriteRows, hrow]

/-- A page with a listing can be decided, and what then stands in its body are the decided rows. -/
theorem exists_decidePage? {page content : Forest} (h : body page = .ok content)
    (decisions : Decisions) :
    ∃ decided, decidePage? decisions page = some decided := by
  rw [← Option.isSome_iff_exists, decidePage?, Forest.updateFirst?_isSome]
  unfold body at h
  cases hlisting : page.find? isListing with
  | none => simp [hlisting] at h
  | some listing =>
    cases hbody : listing.children.find? isBody with
    | none => simp [hlisting, hbody] at h
    | some inner => simp [Forest.updateFirst?_isSome, hbody]

theorem alike_decidePage? {decisions : Decisions} {page decided : Forest}
    (h : decidePage? decisions page = some decided) : page.Alike (· ≠ styleName) decided := by
  refine Forest.alike_of_updateFirst? (fun children kids hkids => ?_) h
  refine Forest.alike_of_updateFirst? (fun content rows hrows => ?_) hkids
  obtain rfl := Option.some.inj hrows
  exact alike_decideRows decisions content

theorem titlesOf_decidePage? {decisions : Decisions} {page decided : Forest}
    (h : decidePage? decisions page = some decided) : titlesOf decided = titlesOf page :=
  (titlesOf_eq (alike_decidePage? h) (by decide) (by decide)).symm

theorem decidePage?_same {first second : Forest} (h : first.Same second) (decisions : Decisions) :
    Option.Rel Forest.Same (decidePage? decisions first) (decidePage? decisions second) := by
  refine h.updateFirst? (fun _ h => h) (respects_isListing trivial) fun _ _ hlisting => ?_
  refine hlisting.updateFirst? (fun _ h => h) (respects_isBody _) fun _ _ hbody => ?_
  exact .some (decideRows_same hbody decisions)

/-- Deciding a page twice is deciding it once, with the later decisions before the earlier ones. -/
theorem decidePage?_bind (earlier later : Decisions) (page : Forest) :
    Option.Rel Forest.Same ((decidePage? earlier page).bind (decidePage? later))
      (decidePage? (override earlier later) page) := by
  unfold decidePage?
  simp only [Forest.updateFirst?_bind, Option.bind_some]
  refine (Forest.Alike.refl page).updateFirst? (fun _ h => h) (respects_isListing trivial)
    fun _ _ hlisting => ?_
  refine hlisting.updateFirst? (fun _ h => h) (respects_isBody _) fun first second hbody => ?_
  exact .some ((decideRows_same (decideRows_same hbody earlier) later).trans
    (decideRows_decideRows earlier later second))

structure Filtering where
  converter : Converter
  caching : Bool
  rule : Option Text

namespace Filtering

def decisions? (filtering : Filtering) (entries : List (Text × Text)) : Option Decisions :=
  match (Pass.run filtering.converter filtering.caching filtering.rule
    (entries.map candidateOf)).1 with
  | .error _ => none
  | .ok pass => some (decisionsOf pass.decisions)

def outcome? (filtering : Filtering) (page : Forest) : Option Forest :=
  match titlesOf page with
  | .error _ => none
  | .ok entries => (filtering.decisions? entries).bind fun decisions => decidePage? decisions page

/-- A filtering that fails leaves the page as it is. -/
def rewrite (filtering : Filtering) (page : Forest) : Forest := (filtering.outcome? page).getD page

end Filtering

theorem exists_body {page : Forest} {entries : List (Text × Text)}
    (h : titlesOf page = .ok entries) : ∃ content, body page = .ok content := by
  unfold titlesOf rows at h
  cases hbody : body page with
  | error what => simp [hbody, Except.map] at h
  | ok content => exact ⟨content, rfl⟩

theorem applyDecisions_eq_ok {html : Text} {page content decided : Forest} {decisions : Decisions}
    (hread : Forest.read html = .ok page) (hbody : body page = .ok content)
    (hdecided : decidePage? decisions page = some decided) :
    applyDecisions html decisions = .ok decided.write := by
  simp only [applyDecisions, hread, hbody, hdecided, Option.getD_some]

/-- What filtering a text writes is what filtering the page in it leads to. -/
theorem filter_written (filtering : Filtering) {html : Text} {page : Forest}
    (hread : Forest.read html = .ok page) :
    ((filter filtering.converter filtering.caching filtering.rule html).1.toOption.bind
      (·.written.toOption)) = (filtering.outcome? page).map Forest.write := by
  unfold filter candidates titles Filtering.outcome? Filtering.decisions?
  simp only [hread]
  cases htitles : titlesOf page with
  | error what => rfl
  | ok entries =>
    obtain ⟨content, hbody⟩ := exists_body htitles
    simp only [Except.map]
    rcases Pass.run filtering.converter filtering.caching filtering.rule (entries.map candidateOf)
      with ⟨fault | pass, ledger⟩
    · rfl
    · obtain ⟨decided, hdecided⟩ := exists_decidePage? hbody (decisionsOf pass.decisions)
      simp [applyDecisions_eq_ok hread hbody hdecided, hdecided, Except.toOption]

theorem handles_decisionsOf {decisions : List (Decision Handle)} {entries : List (Text × Text)}
    (h : decisions.map Decision.handle = (entries.map candidateOf).map Candidate.handle) :
    (decisionsOf decisions).map Prod.fst = entries.map Prod.fst := by
  induction decisions generalizing entries with
  | nil =>
    rw [List.map_nil, eq_comm, List.map_eq_nil_iff, List.map_eq_nil_iff] at h
    rw [h]
    rfl
  | cons decision rest ih =>
    cases entries with
    | nil => simp at h
    | cons entry more =>
      simp only [List.map_cons, List.cons.injEq] at h
      obtain ⟨handle, visible⟩ := decision
      obtain rfl : handle = .text entry.1 := h.1
      have hcons : decisionsOf (⟨.text entry.1, visible⟩ :: rest) =
          (entry.1, visible) :: decisionsOf rest := rfl
      rw [hcons, List.map_cons, List.map_cons, ih h.2]

/-- The decisions of a filtering are for the handles of the titles, in their order. -/
theorem Filtering.handles_of_decisions? {filtering : Filtering} {entries : List (Text × Text)}
    {decisions : Decisions} (h : filtering.decisions? entries = some decisions) :
    decisions.map Prod.fst = entries.map Prod.fst := by
  unfold Filtering.decisions? at h
  cases hrun : (Pass.run filtering.converter filtering.caching filtering.rule
      (entries.map candidateOf)).1 with
  | error fault =>
    rw [hrun] at h
    cases h
  | ok pass =>
    rw [hrun] at h
    obtain rfl := Option.some.inj h
    exact handles_decisionsOf (Pass.handles_of_run hrun)

/-- The page is what some decisions on handles of these titles make of another one. -/
def DecidedFrom (page : Forest) (handles : List Text) (current : Forest) : Prop :=
  ∃ decisions decided, (∀ handle, handle ∉ handles → decisions.lookup handle = none) ∧
    decidePage? decisions page = some decided ∧ decided.Same current

theorem decidedFrom_self {page content : Forest} (h : body page = .ok content)
    (handles : List Text) : DecidedFrom page handles page := by
  obtain ⟨decided, hdecided⟩ := exists_decidePage? h []
  refine ⟨[], decided, fun _ _ => rfl, hdecided, ?_⟩
  refine Forest.Alike.symm (Forest.alike_of_updateFirst? (fun children kids hkids => ?_) hdecided)
  refine Forest.alike_of_updateFirst? (fun content rows hrows => ?_) hkids
  obtain rfl := Option.some.inj hrows
  rw [decideRows_eq_rewriteRows]
  exact (rewriteRows_self 0 content).symm ▸ Forest.Alike.refl content

theorem DecidedFrom.titlesOf_eq {page current : Forest} {handles : List Text}
    (h : DecidedFrom page handles current) : titlesOf current = titlesOf page := by
  obtain ⟨decisions, decided, -, hdecided, hsame⟩ := h
  exact (Listing.titlesOf_eq hsame.symm trivial trivial).trans (titlesOf_decidePage? hdecided)

theorem lookup_eq_none_of_not_mem {decisions : Decisions} {handle : Text}
    (h : handle ∉ decisions.map Prod.fst) : decisions.lookup handle = none := by
  rw [List.lookup_eq_none_iff]
  intro entry hentry
  have hne : handle ≠ entry.1 := fun heq => h (List.mem_map.mpr ⟨entry, hentry, heq.symm⟩)
  simpa using hne

/-- Deciding the current page is deciding the first one, with the new decisions before all
others. -/
theorem DecidedFrom.decidePage? {page current : Forest} {handles : List Text}
    (h : DecidedFrom page handles current) (later : Decisions) :
    ∃ earlier, (∀ handle, handle ∉ handles → earlier.lookup handle = none) ∧
      Option.Rel Forest.Same (Listing.decidePage? later current)
        (Listing.decidePage? (override earlier later) page) := by
  obtain ⟨earlier, decided, hoff, hdecided, hsame⟩ := h
  have hjoint := decidePage?_bind earlier later page
  rw [hdecided, Option.bind_some] at hjoint
  exact ⟨earlier, hoff, Forest.rel_trans (decidePage?_same hsame.symm later) hjoint⟩

variable {page current : Forest} {entries : List (Text × Text)}

theorem DecidedFrom.rewrite (h : DecidedFrom page (entries.map Prod.fst) current)
    (htitles : titlesOf page = .ok entries) (filtering : Filtering) :
    DecidedFrom page (entries.map Prod.fst) (filtering.rewrite current) := by
  unfold Filtering.rewrite Filtering.outcome?
  rw [h.titlesOf_eq, htitles]
  simp only
  cases hdecisions : filtering.decisions? entries with
  | none => exact h
  | some later =>
    obtain ⟨earlier, hoff, hrel⟩ := h.decidePage? later
    have hhandles := Filtering.handles_of_decisions? hdecisions
    rw [Option.bind_some]
    generalize hnext : Listing.decidePage? later current = next,
      hjoint : Listing.decidePage? (override earlier later) page = joint at hrel
    cases hrel with
    | none => exact h
    | some hsame =>
      refine ⟨override earlier later, _, fun handle hmem => ?_, hjoint, hsame.symm⟩
      rw [lookup_override, lookup_eq_none_of_not_mem (hhandles ▸ hmem), hoff handle hmem]
      rfl

theorem DecidedFrom.outcome? (h : DecidedFrom page (entries.map Prod.fst) current)
    (htitles : titlesOf page = .ok entries) (filtering : Filtering) :
    Option.Rel Forest.Same (filtering.outcome? current) (filtering.outcome? page) := by
  unfold Filtering.outcome?
  rw [h.titlesOf_eq, htitles]
  simp only
  cases hdecisions : filtering.decisions? entries with
  | none => exact .none
  | some later =>
    obtain ⟨earlier, hoff, hrel⟩ := h.decidePage? later
    have hhandles := Filtering.handles_of_decisions? hdecisions
    have hlookup : ∀ handle, (override earlier later).lookup handle = later.lookup handle := by
      intro handle
      rw [lookup_override]
      by_cases hmem : handle ∈ entries.map Prod.fst
      · have hsome : later.lookup handle ≠ none := by
          obtain ⟨entry, hentry, rfl⟩ := List.mem_map.mp (hhandles.symm ▸ hmem)
          rw [Ne, List.lookup_eq_none_iff]
          intro hnone
          simpa using hnone entry hentry
        obtain ⟨visible, hvisible⟩ := Option.ne_none_iff_exists'.mp hsome
        rw [hvisible, Option.some_or]
      · rw [hoff handle hmem, Option.or_none]
    rw [Option.bind_some, Option.bind_some, ← decidePage?_congr hlookup page]
    exact hrel

/-- On a page with a listing: of two runs of decisions each row shows the later one that decides it;
decisions leave the candidates as they are; and after any number of filterings, with any rules and
converters, the last one leads to the page that it would have led to at first, or fails as it would
have failed. -/
theorem later_decisions_win (page : Forest) (hpage : ∃ content, body page = .ok content) :
    (∀ earlier later, ∃ first second joint, decidePage? earlier page = some first ∧
      decidePage? later first = some second ∧
      decidePage? (override earlier later) page = some joint ∧ second.Same joint) ∧
    (∀ decisions, ∃ decided, decidePage? decisions page = some decided ∧
      titlesOf decided = titlesOf page) ∧
    ∀ (earlier : List Filtering) (last : Filtering),
      Option.Rel Forest.Same
        (last.outcome? (earlier.foldl (fun page filtering => filtering.rewrite page) page))
        (last.outcome? page) := by
  obtain ⟨content, hcontent⟩ := hpage
  refine ⟨fun earlier later => ?_, fun decisions => ?_, fun earlier last => ?_⟩
  · obtain ⟨first, hfirst⟩ := exists_decidePage? hcontent earlier
    obtain ⟨joint, hjoint⟩ := exists_decidePage? hcontent (override earlier later)
    have hrel := decidePage?_bind earlier later page
    rw [hfirst, hjoint, Option.bind_some] at hrel
    generalize hsecond : decidePage? later first = second at hrel
    cases hrel with
    | some hsame => exact ⟨first, _, joint, hfirst, hsecond, hjoint, hsame⟩
  · obtain ⟨decided, hdecided⟩ := exists_decidePage? hcontent decisions
    exact ⟨decided, hdecided, titlesOf_decidePage? hdecided⟩
  · have htitles : titlesOf page = .ok (titlesFrom 0 (content.select isRow)) := by
      simp [titlesOf, rows, hcontent, Except.map]
    have hall : ∀ current, DecidedFrom page
        ((titlesFrom 0 (content.select isRow)).map Prod.fst) current →
        DecidedFrom page ((titlesFrom 0 (content.select isRow)).map Prod.fst)
          (earlier.foldl (fun page filtering => filtering.rewrite page) current) := by
      induction earlier with
      | nil => exact fun current h => h
      | cons filtering rest ih => exact fun current h => ih _ (h.rewrite htitles filtering)
    exact (hall page (decidedFrom_self hcontent _)).outcome? htitles last

def styledRow : Forest :=
  .element "table".toList [("id".toList, "topic_list".toList)]
    (.element "tbody".toList []
      (.element "tr".toList [("style".toList, " Display:x;; top:1 ".toList)] .nil .nil) .nil) .nil

/-- The row is hidden and shown again. -/
theorem later_decisions_win_one_row :
    (∃ content, body styledRow = .ok content) ∧
      ∃ first second joint, decidePage? [(['0'], false)] styledRow = some first ∧
        decidePage? [(['0'], true)] first = some second ∧
        decidePage? (override [(['0'], false)] [(['0'], true)]) styledRow = some joint ∧
        second.Same joint := by
  have hbody : ∃ content, body styledRow = .ok content := ⟨_, rfl⟩
  exact ⟨hbody, (later_decisions_win styledRow hbody).1 [(['0'], false)] [(['0'], true)]⟩

end TitleSieve.Listing
