import Mathlib.Data.List.Forall2
import TitleSieve.Markup.Forest

/-!
Nodes of a page and the routes to them. A route leads from the first tree of a forest to a node, on
to the next tree or into the children. A forest is known by the nodes at the ends of all routes, so
two pages can be compared node by node. The first chosen element of a page stands at the end of the
first route to one, and changing it is putting other children into the element at the end of that
route; no node elsewhere changes.
-/

namespace TitleSieve.Markup

inductive Way where
  | on
  | into
  deriving DecidableEq, Repr

abbrev Route := List Way

/-- A node without the nodes in it. -/
inductive Node where
  | leaf (kind : Leaf) (content : Text)
  | element (name : Text) (attributes : Attributes)
  deriving DecidableEq, Repr

namespace Forest

def node? : Forest → Route → Option Node
  | .nil, _ => none
  | .leaf kind content _, [] => some (.leaf kind content)
  | .leaf _ _ next, .on :: route => next.node? route
  | .leaf _ _ _, .into :: _ => none
  | .element name attributes _ _, [] => some (.element name attributes)
  | .element _ _ _ next, .on :: route => next.node? route
  | .element _ _ children _, .into :: route => children.node? route

inductive LeadsTo : Forest → Route → Element → Prop where
  | here (name : Text) (attributes : Attributes) (children next : Forest) :
      LeadsTo (.element name attributes children next) [] ⟨name, attributes, children⟩
  | pastLeaf (kind : Leaf) (content : Text) {next : Forest} {route : Route} {found : Element}
      (h : LeadsTo next route found) : LeadsTo (.leaf kind content next) (.on :: route) found
  | pastElement (name : Text) (attributes : Attributes) (children : Forest) {next : Forest}
      {route : Route} {found : Element} (h : LeadsTo next route found) :
      LeadsTo (.element name attributes children next) (.on :: route) found
  | into (name : Text) (attributes : Attributes) (next : Forest) {children : Forest}
      {route : Route} {found : Element} (h : LeadsTo children route found) :
      LeadsTo (.element name attributes children next) (.into :: route) found

/-- The route to the first chosen element in the order of the text, at any depth. -/
def firstRoute? (choice : Choice) : Forest → Option Route
  | .nil => none
  | .leaf _ _ next => (next.firstRoute? choice).map (.on :: ·)
  | .element name attributes children next =>
    if choice name attributes then some []
    else
      match children.firstRoute? choice with
      | some route => some (.into :: route)
      | none => (next.firstRoute? choice).map (.on :: ·)

def routesTo (choice : Choice) : Forest → List Route
  | .nil => []
  | .leaf _ _ next => (next.routesTo choice).map (.on :: ·)
  | .element name attributes _ next =>
    if choice name attributes then [] :: (next.routesTo choice).map (.on :: ·)
    else (next.routesTo choice).map (.on :: ·)

def withChildren : Forest → Route → Forest → Forest
  | .nil, _, _ => .nil
  | .leaf kind content next, .on :: route, kids =>
    .leaf kind content (next.withChildren route kids)
  | .leaf kind content next, _, _ => .leaf kind content next
  | .element name attributes _ next, [], kids => .element name attributes kids next
  | .element name attributes children next, .on :: route, kids =>
    .element name attributes children (next.withChildren route kids)
  | .element name attributes children next, .into :: route, kids =>
    .element name attributes (children.withChildren route kids) next

variable {choice : Choice} {page first second : Forest} {route : Route} {found : Element}

/-- A forest is known by the nodes at the ends of all routes. -/
theorem eq_of_node?_eq (h : ∀ route, first.node? route = second.node? route) : first = second := by
  induction first generalizing second with
  | nil =>
    cases second with
    | nil => rfl
    | leaf kind content next => cases h []
    | element name attributes children next => cases h []
  | leaf kind content next ih =>
    cases second with
    | nil => cases h []
    | leaf kind' content' next' =>
      obtain ⟨rfl, rfl⟩ := Node.leaf.inj (Option.some.inj (h []))
      rw [ih fun route => h (.on :: route)]
    | element name attributes children next => cases h []
  | element name attributes children next ihchildren ihnext =>
    cases second with
    | nil => cases h []
    | leaf kind content next => cases h []
    | element name' attributes' children' next' =>
      obtain ⟨rfl, rfl⟩ := Node.element.inj (Option.some.inj (h []))
      rw [ihchildren fun route => h (.into :: route), ihnext fun route => h (.on :: route)]

theorem LeadsTo.unique {other : Element} (h : page.LeadsTo route found)
    (h' : page.LeadsTo route other) : found = other := by
  induction h with
  | here name attributes children next =>
    cases h'
    rfl
  | pastLeaf kind content _ ih =>
    cases h' with
    | pastLeaf _ _ h' => exact ih h'
  | pastElement name attributes children _ ih =>
    cases h' with
    | pastElement _ _ _ h' => exact ih h'
  | into name attributes next _ ih =>
    cases h' with
    | into _ _ _ h' => exact ih h'

/-- What stands in an element stands behind the route to it. -/
theorem LeadsTo.append {inner : Route} {innermost : Element} (h : page.LeadsTo route found)
    (hinner : found.children.LeadsTo inner innermost) :
    page.LeadsTo (route ++ .into :: inner) innermost := by
  induction h with
  | here name attributes children next => exact .into name attributes next hinner
  | pastLeaf kind content _ ih => exact .pastLeaf kind content (ih hinner)
  | pastElement name attributes children _ ih =>
    exact .pastElement name attributes children (ih hinner)
  | into name attributes next _ ih => exact .into name attributes next (ih hinner)

theorem LeadsTo.node?_append (h : page.LeadsTo route found) (inner : Route) :
    page.node? (route ++ .into :: inner) = found.children.node? inner := by
  induction h with
  | here name attributes children next => rfl
  | pastLeaf kind content _ ih => exact ih
  | pastElement name attributes children _ ih => exact ih
  | into name attributes next _ ih => exact ih

/-- The first chosen element stands at the end of the first route to one. -/
theorem firstRoute?_cases (choice : Choice) (page : Forest) :
    (page.firstRoute? choice = none ∧ page.find? choice = none) ∨
      ∃ route found, page.firstRoute? choice = some route ∧ page.find? choice = some found ∧
        page.LeadsTo route found := by
  induction page with
  | nil => exact .inl ⟨rfl, rfl⟩
  | leaf kind content next ih =>
    rcases ih with ⟨hroute, hfind⟩ | ⟨route, found, hroute, hfind, hleads⟩
    · exact .inl ⟨by rw [firstRoute?, hroute, Option.map_none], hfind⟩
    · exact .inr ⟨.on :: route, found, by rw [firstRoute?, hroute, Option.map_some], hfind,
        .pastLeaf kind content hleads⟩
  | element name attributes children next ihchildren ihnext =>
    simp only [firstRoute?, find?]
    by_cases hchosen : choice name attributes
    · simp only [hchosen, if_true]
      exact .inr ⟨[], _, rfl, rfl, .here name attributes children next⟩
    · simp only [hchosen, Bool.false_eq_true, if_false]
      rcases ihchildren with ⟨hroute, hfind⟩ | ⟨route, found, hroute, hfind, hleads⟩
      · rw [hroute, hfind]
        rcases ihnext with ⟨hroute, hfind⟩ | ⟨route, found, hroute, hfind, hleads⟩
        · exact .inl ⟨by rw [hroute, Option.map_none], hfind⟩
        · exact .inr ⟨.on :: route, found, by rw [hroute, Option.map_some], hfind,
            .pastElement name attributes children hleads⟩
      · rw [hroute, hfind]
        exact .inr ⟨.into :: route, found, rfl, rfl, .into name attributes next hleads⟩

theorem exists_firstRoute? (h : page.find? choice = some found) :
    ∃ route, page.firstRoute? choice = some route ∧ page.LeadsTo route found := by
  rcases firstRoute?_cases choice page with ⟨-, hfind⟩ | ⟨route, other, hroute, hfind, hleads⟩
  · rw [hfind] at h
    cases h
  · obtain rfl := Option.some.inj (hfind.symm.trans h)
    exact ⟨route, hroute, hleads⟩

/-- Changing the first chosen element is changing the one at the end of the first route. -/
theorem LeadsTo.updateFirst?_eq (h : page.LeadsTo route found)
    (hroute : page.firstRoute? choice = some route) (change : Forest → Option Forest) :
    page.updateFirst? choice change =
      (change found.children).map (page.withChildren route) := by
  induction h with
  | here name attributes children next =>
    have hchosen : choice name attributes = true := by
      by_contra hnot
      simp only [firstRoute?, hnot, if_false] at hroute
      cases hinner : children.firstRoute? choice <;> simp [hinner] at hroute
    simp only [updateFirst?, hchosen, if_true]
    rfl
  | pastLeaf kind content _ ih =>
    have hnext := by simpa [firstRoute?] using hroute
    rw [updateFirst?, ih hnext, Option.map_map]
    rfl
  | @pastElement name attributes children next route found _ ih =>
    have hchosen : choice name attributes = false :=
      Bool.eq_false_iff.mpr fun hchosen => by simp [firstRoute?, hchosen] at hroute
    simp only [firstRoute?, updateFirst?, hchosen, Bool.false_eq_true, if_false] at hroute ⊢
    rcases firstRoute?_cases choice children with ⟨hnone, hfind⟩ | ⟨inner, _, hinner, -, -⟩
    · rw [hnone] at hroute
      have hnext : next.firstRoute? choice = some route := by simpa using hroute
      simp only [hfind]
      rw [ih hnext, Option.map_map]
      rfl
    · simp [hinner] at hroute
  | @into name attributes next children route found _ ih =>
    have hchosen : choice name attributes = false :=
      Bool.eq_false_iff.mpr fun hchosen => by simp [firstRoute?, hchosen] at hroute
    simp only [firstRoute?, updateFirst?, hchosen, Bool.false_eq_true, if_false] at hroute ⊢
    rcases firstRoute?_cases choice children with ⟨hnone, -⟩ | ⟨inner, _, hinner, hfind, -⟩
    · simp [hnone] at hroute
    · have hroute : children.firstRoute? choice = some route := by
        rw [hinner] at hroute ⊢
        simpa using hroute
      simp only [hfind]
      rw [ih hroute, Option.map_map]
      rfl

/-- An element that was chosen first is chosen first whatever its children are. -/
theorem firstRoute?_withChildren (h : page.firstRoute? choice = some route) (kids : Forest) :
    (page.withChildren route kids).firstRoute? choice = some route := by
  induction page generalizing route with
  | nil => cases h
  | leaf kind content next ih =>
    obtain ⟨after, hafter, rfl⟩ := Option.map_eq_some_iff.mp h
    rw [withChildren, firstRoute?, ih hafter, Option.map_some]
  | element name attributes children next ihchildren ihnext =>
    simp only [firstRoute?] at h
    by_cases hchosen : choice name attributes
    · simp only [hchosen, if_true, Option.some.injEq] at h
      subst h
      simp [withChildren, firstRoute?, hchosen]
    · simp only [hchosen, Bool.false_eq_true, if_false] at h
      cases hinner : children.firstRoute? choice with
      | none =>
        rw [hinner] at h
        obtain ⟨after, hafter, rfl⟩ := Option.map_eq_some_iff.mp h
        simp [withChildren, firstRoute?, hchosen, hinner, ihnext hafter]
      | some inner =>
        rw [hinner] at h
        obtain rfl := Option.some.inj h
        simp [withChildren, firstRoute?, hchosen, ihchildren hinner]

/-- The element at the end of the route has its new children. -/
theorem LeadsTo.withChildren (h : page.LeadsTo route found) (kids : Forest) :
    (page.withChildren route kids).LeadsTo route { found with children := kids } := by
  induction h with
  | here name attributes children next => exact .here name attributes kids next
  | pastLeaf kind content _ ih => exact .pastLeaf kind content ih
  | pastElement name attributes children _ ih => exact .pastElement name attributes children ih
  | into name attributes next _ ih => exact .into name attributes next ih

theorem find?_withChildren (hroute : page.firstRoute? choice = some route)
    (h : page.LeadsTo route found) (kids : Forest) :
    (page.withChildren route kids).find? choice = some { found with children := kids } := by
  have hsame := firstRoute?_withChildren hroute kids
  rcases firstRoute?_cases choice (page.withChildren route kids) with
    ⟨hnone, -⟩ | ⟨first, other, hfirst, hfind, hother⟩
  · rw [hnone] at hsame
    cases hsame
  · obtain rfl := Option.some.inj (hfirst.symm.trans hsame)
    rw [hfind, (h.withChildren kids).unique hother]

/-- Elements within elements are changed one in the other. -/
theorem LeadsTo.withChildren_withChildren (h : page.LeadsTo route found) (kids : Forest)
    (inner : Route) :
    page.withChildren route (found.children.withChildren inner kids) =
      page.withChildren (route ++ .into :: inner) kids := by
  induction h with
  | here name attributes children next => rfl
  | pastLeaf kind content _ ih => exact congrArg (Forest.leaf kind content) ih
  | pastElement name attributes children _ ih =>
    exact congrArg (Forest.element name attributes children) ih
  | into name attributes next _ ih => exact congrArg (Forest.element name attributes · next) ih

/-- Whatever does not stand in that element is as it was. -/
theorem node?_withChildren {other : Route} (h : ∀ inner, other ≠ route ++ .into :: inner)
    (kids page : Forest) : (page.withChildren route kids).node? other = page.node? other := by
  induction page generalizing route other with
  | nil => rfl
  | leaf kind content next ih =>
    match route, other with
    | [], _ => rfl
    | .into :: _, _ => rfl
    | .on :: _, [] => rfl
    | .on :: _, .into :: _ => rfl
    | .on :: after, .on :: behind =>
      exact ih fun inner heq => h inner (by rw [heq, List.cons_append])
  | element name attributes children next ihchildren ihnext =>
    match route, other with
    | [], [] => rfl
    | [], .on :: _ => rfl
    | [], .into :: inner => exact absurd rfl (h inner)
    | .on :: _, [] => rfl
    | .into :: _, [] => rfl
    | .on :: _, .into :: _ => rfl
    | .into :: _, .on :: _ => rfl
    | .on :: after, .on :: behind =>
      exact ihnext fun inner heq => h inner (by rw [heq, List.cons_append])
    | .into :: after, .into :: behind =>
      exact ihchildren fun inner heq => h inner (by rw [heq, List.cons_append])

/-- The chosen trees of a forest stand at the ends of the routes to them. -/
theorem leadsTo_routesTo (choice : Choice) (page : Forest) :
    List.Forall₂ page.LeadsTo (page.routesTo choice) (page.select choice) := by
  induction page with
  | nil => exact .nil
  | leaf kind content next ih =>
    rw [routesTo, select, List.forall₂_map_left_iff]
    exact ih.imp fun _ _ h => .pastLeaf kind content h
  | element name attributes children next _ ih =>
    have hnext : List.Forall₂ (Forest.element name attributes children next).LeadsTo
        ((next.routesTo choice).map (.on :: ·)) (next.select choice) := by
      rw [List.forall₂_map_left_iff]
      exact ih.imp fun _ _ h => .pastElement name attributes children h
    simp only [routesTo, select]
    split
    · exact .cons (.here name attributes children next) hnext
    · exact hnext

end Forest

end TitleSieve.Markup
