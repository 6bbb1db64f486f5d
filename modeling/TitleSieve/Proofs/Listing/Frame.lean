import TitleSieve.Proofs.Listing.Places
import TitleSieve.Proofs.Markup.Routes

/-!
What deciding a page leaves alone. The rows of the listing stand directly in its body, and the
routes to them are the same before and after. At the end of every other route stands the same node
as before, however tables and bodies are nested; a row keeps its name and its attributes but for
the style, and a row without a decision keeps that too. So of the decisions only those count whose
handle is the number of a row.
-/

namespace TitleSieve.Listing

open Markup

/-- The route to the first `tbody` within the first element that is marked as the listing. -/
def bodyRoute? (page : Forest) : Option Route :=
  match page.firstRoute? isListing, page.find? isListing with
  | some route, some listing =>
    (listing.children.firstRoute? isBody).map fun inner => route ++ .into :: inner
  | _, _ => none

/-- The routes to the elements `tr` that stand directly in that body, in their order. -/
def rowRoutes (page : Forest) : List Route :=
  match bodyRoute? page, body page with
  | some route, .ok content => (content.routesTo isRow).map fun inner => route ++ .into :: inner
  | _, _ => []

theorem erase_set (name value : Text) (attributes : Attributes) :
    (attributes.set name value).erase name = attributes.erase name := by
  induction attributes with
  | nil => simp [Attributes.set, Attributes.erase]
  | cons entry rest ih =>
    obtain ⟨first, old⟩ := entry
    simp only [Attributes.erase] at ih
    by_cases hfirst : first = name
    · simp [Attributes.set, Attributes.erase, hfirst]
    · simp [Attributes.set, Attributes.erase, hfirst, ih]

theorem erase_setDisplay (attributes : Attributes) (visible : Bool) :
    (setDisplay attributes visible).erase styleName = attributes.erase styleName := by
  unfold setDisplay
  cases styleFor? ((attributes.get? styleName).getD []) visible with
  | some style => exact erase_set styleName style attributes
  | none =>
    simp only [Attributes.erase, List.filter_filter, Bool.and_self]

theorem erase_decideRow (decisions : Decisions) (index : Nat) (attributes : Attributes) :
    (decideRow decisions index attributes).erase styleName = attributes.erase styleName := by
  unfold decideRow
  cases decisions.lookup (handleOf index) with
  | none => rfl
  | some visible => exact erase_setDisplay attributes visible

section

variable (rewrite : Nat → Attributes → Attributes)

/-- Rows that are rewritten stay where they are. -/
theorem routesTo_rewriteRows (index : Nat) (content : Forest) :
    (rewriteRows rewrite index content).routesTo isRow = content.routesTo isRow := by
  induction content generalizing index with
  | nil => rfl
  | leaf kind text next ih => simp only [rewriteRows, Forest.routesTo, ih]
  | element name attributes children next _ ih =>
    by_cases hrow : name == "tr".toList
    · simp only [rewriteRows, Forest.routesTo, isRow, hrow, if_true, ih]
    · simp only [rewriteRows, Forest.routesTo, isRow, hrow, Bool.false_eq_true, if_false, ih]

/-- A node that is no row directly in the body is not rewritten. -/
theorem node?_rewriteRows (index : Nat) {content : Forest} {route : Route}
    (h : route ∉ content.routesTo isRow) :
    (rewriteRows rewrite index content).node? route = content.node? route := by
  induction content generalizing index route with
  | nil => rfl
  | leaf kind text next ih =>
    cases route with
    | nil => rfl
    | cons way after =>
      cases way with
      | into => rfl
      | on => exact ih index fun hmem => h (List.mem_map_of_mem hmem)
  | element name attributes children next _ ih =>
    by_cases hrow : name == "tr".toList
    · simp only [rewriteRows, Forest.routesTo, isRow, hrow, if_true] at h ⊢
      cases route with
      | nil => exact absurd List.mem_cons_self h
      | cons way after =>
        cases way with
        | into => rfl
        | on =>
          exact ih (index + 1) fun hmem => h (List.mem_cons_of_mem _ (List.mem_map_of_mem hmem))
    · simp only [rewriteRows, Forest.routesTo, isRow, hrow, Bool.false_eq_true, if_false] at h ⊢
      cases route with
      | nil => rfl
      | cons way after =>
        cases way with
        | into => rfl
        | on => exact ih index fun hmem => h (List.mem_map_of_mem hmem)

/-- A row is rewritten as is said for its place. -/
theorem exists_node?_rewriteRows (index : Nat) {content : Forest} {place : Nat} {route : Route}
    (h : (content.routesTo isRow)[place]? = some route) :
    ∃ name attributes, content.node? route = some (.element name attributes) ∧
      (rewriteRows rewrite index content).node? route =
        some (.element name (rewrite (index + place) attributes)) := by
  induction content generalizing index place route with
  | nil => cases h
  | leaf kind text next ih =>
    rw [Forest.routesTo, List.getElem?_map] at h
    obtain ⟨after, hafter, rfl⟩ := Option.map_eq_some_iff.mp h
    exact ih index hafter
  | element name attributes children next _ ih =>
    by_cases hrow : name == "tr".toList
    · simp only [rewriteRows, Forest.routesTo, isRow, hrow, if_true] at h ⊢
      cases place with
      | zero =>
        obtain rfl : [] = route := by simpa using h
        exact ⟨name, attributes, rfl, rfl⟩
      | succ place =>
        rw [List.getElem?_cons_succ, List.getElem?_map] at h
        obtain ⟨after, hafter, rfl⟩ := Option.map_eq_some_iff.mp h
        have hplace : index + (place + 1) = index + 1 + place := by omega
        rw [hplace]
        exact ih (index + 1) hafter
    · simp only [rewriteRows, Forest.routesTo, isRow, hrow, Bool.false_eq_true, if_false] at h ⊢
      rw [List.getElem?_map] at h
      obtain ⟨after, hafter, rfl⟩ := Option.map_eq_some_iff.mp h
      exact ih index hafter

end

/-- The body of the listing stands at the end of the route to it. With other rows put there it is
the body with those rows, and deciding the page is putting the decided rows there. -/
theorem exists_bodyRoute? {page content : Forest} (h : body page = .ok content) :
    ∃ route found, bodyRoute? page = some route ∧ page.LeadsTo route found ∧
      found.children = content ∧
      (∀ others, bodyRoute? (page.withChildren route others) = some route ∧
        body (page.withChildren route others) = .ok others) ∧
      ∀ decisions, decidePage? decisions page =
        some (page.withChildren route (decideRows decisions 0 content)) := by
  unfold body at h
  cases hlisting : page.find? isListing with
  | none => simp [hlisting] at h
  | some listing =>
    cases hbody : listing.children.find? isBody with
    | none => simp [hlisting, hbody] at h
    | some inner =>
      simp only [hlisting, hbody] at h
      obtain rfl := Except.ok.inj h
      obtain ⟨outer, houter, hleads⟩ := Forest.exists_firstRoute? hlisting
      obtain ⟨within, hwithin, hinner⟩ := Forest.exists_firstRoute? hbody
      refine ⟨outer ++ .into :: within, inner, ?_, hleads.append hinner, rfl, fun others => ?_,
        fun decisions => ?_⟩
      · rw [bodyRoute?, houter, hlisting]
        simp only [hwithin, Option.map_some]
      · rw [← hleads.withChildren_withChildren]
        have hlisting' := Forest.find?_withChildren houter hleads
          (listing.children.withChildren within others)
        have hbody' := Forest.find?_withChildren hwithin hinner others
        constructor
        · rw [bodyRoute?, Forest.firstRoute?_withChildren houter, hlisting']
          simp only [Forest.firstRoute?_withChildren hwithin, Option.map_some]
        · simp only [body, hlisting', hbody']
      · rw [decidePage?, hleads.updateFirst?_eq houter, hinner.updateFirst?_eq hwithin,
          Option.map_some, Option.map_some, hleads.withChildren_withChildren]

theorem rowRoutes_eq {page content : Forest} {route : Route} (hroute : bodyRoute? page = some route)
    (hbody : body page = .ok content) :
    rowRoutes page = (content.routesTo isRow).map fun inner => route ++ .into :: inner := by
  rw [rowRoutes, hroute, hbody]

theorem exists_body_of_rows {page : Forest} {before : List Forest.Element}
    (h : rows page = .ok before) :
    ∃ content, body page = .ok content ∧ content.select isRow = before := by
  cases hbody : body page with
  | error what => simp [rows, hbody, Except.map] at h
  | ok content => exact ⟨content, rfl, by simpa [rows, hbody, Except.map] using h⟩

/-- The rows of a page stand at the ends of the routes to them. -/
theorem leadsTo_rowRoutes {page : Forest} {before : List Forest.Element}
    (h : rows page = .ok before) : List.Forall₂ page.LeadsTo (rowRoutes page) before := by
  obtain ⟨content, hbody, rfl⟩ := exists_body_of_rows h
  obtain ⟨route, found, hroute, hleads, rfl, -⟩ := exists_bodyRoute? hbody
  rw [rowRoutes_eq hroute hbody, List.forall₂_map_left_iff]
  exact (Forest.leadsTo_routesTo isRow found.children).imp fun _ _ h => hleads.append h

section

variable {page decided : Forest} {decisions : Decisions} {before : List Forest.Element}
  (hrows : rows page = .ok before) (hdecided : decidePage? decisions page = some decided)

include hrows hdecided

/-- Decided rows stand where the rows stood. -/
theorem rowRoutes_decidePage? : rowRoutes decided = rowRoutes page := by
  obtain ⟨content, hbody, -⟩ := exists_body_of_rows hrows
  obtain ⟨route, _, hroute, -, -, hothers, hdecide⟩ := exists_bodyRoute? hbody
  obtain rfl := Option.some.inj ((hdecide decisions).symm.trans hdecided)
  obtain ⟨hroute', hbody'⟩ := hothers (decideRows decisions 0 content)
  rw [rowRoutes_eq hroute' hbody', rowRoutes_eq hroute hbody, decideRows_eq_rewriteRows,
    routesTo_rewriteRows]

/-- A node that is no row of the listing is the same in the decided page. -/
theorem node?_decidePage? {route : Route} (hroute : route ∉ rowRoutes page) :
    decided.node? route = page.node? route := by
  obtain ⟨content, hbody, -⟩ := exists_body_of_rows hrows
  obtain ⟨outer, found, houter, hleads, rfl, -, hdecide⟩ := exists_bodyRoute? hbody
  obtain rfl := Option.some.inj ((hdecide decisions).symm.trans hdecided)
  by_cases hinside : ∃ inner, route = outer ++ .into :: inner
  · obtain ⟨inner, rfl⟩ := hinside
    have hinner : inner ∉ found.children.routesTo isRow := by
      intro hmem
      refine hroute ?_
      rw [rowRoutes_eq houter hbody]
      exact List.mem_map_of_mem hmem
    rw [(hleads.withChildren _).node?_append, hleads.node?_append, decideRows_eq_rewriteRows,
      node?_rewriteRows _ 0 hinner]
  · exact Forest.node?_withChildren (fun inner heq => hinside ⟨inner, heq⟩) _ page

/-- A row is decided for its place. -/
theorem exists_node?_decidePage? {index : Nat} {route : Route}
    (hroute : (rowRoutes page)[index]? = some route) :
    ∃ name attributes, page.node? route = some (.element name attributes) ∧
      decided.node? route = some (.element name (decideRow decisions index attributes)) := by
  obtain ⟨content, hbody, -⟩ := exists_body_of_rows hrows
  obtain ⟨outer, found, houter, hleads, rfl, -, hdecide⟩ := exists_bodyRoute? hbody
  obtain rfl := Option.some.inj ((hdecide decisions).symm.trans hdecided)
  rw [rowRoutes_eq houter hbody, List.getElem?_map] at hroute
  obtain ⟨inner, hinner, rfl⟩ := Option.map_eq_some_iff.mp hroute
  obtain ⟨name, attributes, hnode, hnode'⟩ :=
    exists_node?_rewriteRows (decideRow decisions) 0 hinner
  rw [Nat.zero_add] at hnode'
  refine ⟨name, attributes, ?_, ?_⟩
  · rw [hleads.node?_append, hnode]
  · rw [(hleads.withChildren _).node?_append, decideRows_eq_rewriteRows, hnode']

/-- Decisions that say the same of every row lead to the same page. -/
theorem decidePage?_eq_of_lookup_eq {others : Decisions} (h : ∀ index < before.length,
      others.lookup (handleOf index) = decisions.lookup (handleOf index)) :
    decidePage? others page = some decided := by
  obtain ⟨content, hbody, -⟩ := exists_body_of_rows hrows
  obtain ⟨other, hother⟩ := exists_decidePage? hbody others
  rw [hother]
  refine congrArg some (Forest.eq_of_node?_eq fun route => ?_)
  by_cases hroute : route ∈ rowRoutes page
  · obtain ⟨index, hindex⟩ := List.mem_iff_getElem?.mp hroute
    have hlength : index < before.length := by
      rw [← (leadsTo_rowRoutes hrows).length_eq]
      exact (List.getElem?_eq_some_iff.mp hindex).1
    obtain ⟨name, attributes, hnode, hnode'⟩ := exists_node?_decidePage? hrows hother hindex
    obtain ⟨name', attributes', hsame, hnode''⟩ := exists_node?_decidePage? hrows hdecided hindex
    obtain ⟨rfl, rfl⟩ := Node.element.inj (Option.some.inj (hnode.symm.trans hsame))
    have hdecision : decideRow others index attributes = decideRow decisions index attributes := by
      simp only [decideRow, h index hlength]
    rw [hnode', hnode'', hdecision]
  · rw [node?_decidePage? hrows hother hroute, node?_decidePage? hrows hdecided hroute]

end

/-- A page with a listing can be decided, and this changes nothing but the styles of the rows that
are decided. The rows stand directly in the body of the listing, and the rows of the decided page
stand at the ends of the same routes. Any node that is no such row stays as it is, whether it is a
row elsewhere, a row within a row, a text or an element around the rows. A row keeps its name and,
in their order, its attributes other than the style, and without an entry for its number it keeps
that too. Entries with any other handle have no effect. -/
theorem decides_styles_of_rows {page : Forest} {before : List Forest.Element}
    (hrows : rows page = .ok before) (decisions : Decisions) :
    ∃ decided, decidePage? decisions page = some decided ∧
      List.Forall₂ page.LeadsTo (rowRoutes page) before ∧
      (∃ after, rows decided = .ok after ∧
        List.Forall₂ decided.LeadsTo (rowRoutes page) after) ∧
      (∀ route, route ∉ rowRoutes page → decided.node? route = page.node? route) ∧
      (∀ index route, (rowRoutes page)[index]? = some route →
        ∃ name attributes attributes', page.node? route = some (.element name attributes) ∧
          decided.node? route = some (.element name attributes') ∧
          attributes'.erase styleName = attributes.erase styleName ∧
          (decisions.lookup (handleOf index) = none → attributes' = attributes)) ∧
      ∀ others : Decisions, (∀ index < before.length,
        others.lookup (handleOf index) = decisions.lookup (handleOf index)) →
        decidePage? others page = some decided := by
  obtain ⟨content, hbody, -⟩ := exists_body_of_rows hrows
  obtain ⟨decided, hdecided⟩ := exists_decidePage? hbody decisions
  have hafter := rows_decidePage? hrows hdecided
  have hroutes := leadsTo_rowRoutes hafter
  rw [rowRoutes_decidePage? hrows hdecided] at hroutes
  refine ⟨decided, hdecided, leadsTo_rowRoutes hrows, ⟨_, hafter, hroutes⟩,
    fun route hroute => node?_decidePage? hrows hdecided hroute, fun index route hroute => ?_,
    fun others hothers => decidePage?_eq_of_lookup_eq hrows hdecided hothers⟩
  obtain ⟨name, attributes, hnode, hnode'⟩ := exists_node?_decidePage? hrows hdecided hroute
  refine ⟨name, attributes, _, hnode, hnode', erase_decideRow decisions index attributes,
    fun hnone => ?_⟩
  rw [decideRow, hnone]

def oneRow (attributes : Attributes) (next : Forest) : Forest :=
  .element "table".toList attributes
    (.element "tbody".toList []
      (.element "tr".toList [("style".toList, "top:1".toList)] .nil .nil) .nil) next

/-- A listing with two rows, the second one of which has a table in it, a second body behind the
first one, and a second table that is marked as the listing. -/
def crowdedListing : Forest :=
  .element "table".toList [("id".toList, "topic_list".toList)]
    (.element "tbody".toList []
      (.leaf (.text .page) ['\n']
        (.element "tr".toList [] .nil
          (.element "tr".toList [("style".toList, "top:2".toList), ("class".toList, ['a'])]
            (.element "td".toList [] (oneRow [] .nil) .nil) .nil)))
      (.element "tbody".toList [] (.element "tr".toList [] .nil .nil) .nil))
    (oneRow [("id".toList, "topic_list".toList)] .nil)

/-- Of five entries one hides the second row of the listing, and no other row changes. -/
theorem decides_styles_of_rows_crowded :
    ∃ before, rows crowdedListing = .ok before ∧ before.length = 2 ∧
      ∃ decided, decidePage? [(['2'], true), (['1'], false), (['0', '1'], true), ([], true),
          (['1'], true)] crowdedListing = some decided ∧
        decidePage? [(['1'], false)] crowdedListing = some decided ∧
        decided.node? [.into, .into, .on, .on] = some (.element "tr".toList
          [("style".toList, "top:2; display: none".toList), ("class".toList, ['a'])]) ∧
        ∀ route, route ∉ [[Way.into, .into, .on], [.into, .into, .on, .on]] →
          decided.node? route = crowdedListing.node? route := by
  obtain ⟨before, hrows⟩ : ∃ before, rows crowdedListing = .ok before := ⟨_, rfl⟩
  have hlength : before.length = 2 := by
    obtain rfl := Except.ok.inj hrows
    rfl
  obtain ⟨decided, hdecided, -, -, hframe, -, hothers⟩ := decides_styles_of_rows hrows
    [(['2'], true), (['1'], false), (['0', '1'], true), ([], true), (['1'], true)]
  have hroutes : rowRoutes crowdedListing = [[.into, .into, .on], [.into, .into, .on, .on]] := by
    decide
  rw [hroutes] at hframe
  have hsame : decidePage? [(['1'], false)] crowdedListing = some decided := by
    refine hothers _ ?_
    rw [hlength]
    decide
  refine ⟨before, hrows, hlength, decided, hdecided, hsame, ?_, hframe⟩
  obtain rfl := Option.some.inj hdecided
  decide

end TitleSieve.Listing
