import Mathlib.Data.List.Forall2
import Mathlib.Data.Option.Basic
import TitleSieve.Markup.Forest

/-!
Pages that differ in attributes only. Two forests are alike when they have the same shape, names
and texts, and their elements agree on the attributes that matter; when all attributes matter they
differ in the order of attributes at most. What looks at the attributes that matter and at nothing
else finds the same in forests that are alike, and changing the first chosen element can be done
in stages.
-/

namespace TitleSieve.Markup

namespace Attributes

variable {matters : Text → Prop}

/-- The attributes that matter have the same values, wherever they stand. -/
def Agree (matters : Text → Prop) (first second : Attributes) : Prop :=
  ∀ name, matters name → first.get? name = second.get? name

theorem Agree.refl (attributes : Attributes) : Agree matters attributes attributes :=
  fun _ _ => rfl

theorem Agree.symm {first second : Attributes} (h : Agree matters first second) :
    Agree matters second first :=
  fun name hname => (h name hname).symm

theorem Agree.trans {first second third : Attributes} (h : Agree matters first second)
    (h' : Agree matters second third) : Agree matters first third :=
  fun name hname => (h name hname).trans (h' name hname)

theorem get?_set (attributes : Attributes) (name value other : Text) :
    (attributes.set name value).get? other =
      if other = name then some value else attributes.get? other := by
  induction attributes with
  | nil =>
    by_cases h : other = name
    · simp [set, get?, h]
    · have hbeq : (other == name) = false := by simpa using h
      simp [set, get?, List.lookup_cons, h, hbeq]
  | cons entry rest ih =>
    obtain ⟨first, old⟩ := entry
    simp only [get?] at ih
    by_cases hfirst : first = name
    · subst hfirst
      by_cases h : other = first
      · simp [set, get?, h]
      · have hbeq : (other == first) = false := by simpa using h
        simp [set, get?, List.lookup_cons, h, hbeq]
    · by_cases h : other = first
      · subst h
        simp [set, get?, hfirst]
      · have hbeq : (other == first) = false := by simpa using h
        simp only [set, if_neg hfirst, get?, List.lookup_cons, hbeq]
        exact ih

theorem get?_erase (attributes : Attributes) (name other : Text) :
    (attributes.erase name).get? other = if other = name then none else attributes.get? other := by
  induction attributes with
  | nil => simp [erase, get?]
  | cons entry rest ih =>
    obtain ⟨first, old⟩ := entry
    simp only [erase, get?] at ih
    by_cases hfirst : first = name
    · subst hfirst
      by_cases h : other = first
      · simpa [erase, get?, h] using ih
      · have hbeq : (other == first) = false := by simpa using h
        simpa [erase, get?, List.lookup_cons, h, hbeq] using ih
    · by_cases h : other = first
      · subst h
        simp [erase, get?, hfirst]
      · have hbeq : (other == first) = false := by simpa using h
        simpa [erase, get?, hfirst, List.lookup_cons, hbeq] using ih

end Attributes

namespace Forest

/-- The same shape, names and texts, and agreement on the attributes that matter. -/
inductive Alike (matters : Text → Prop) : Forest → Forest → Prop where
  | nil : Alike matters .nil .nil
  | leaf (kind : Leaf) (content : Text) {next next' : Forest} (hnext : Alike matters next next') :
      Alike matters (.leaf kind content next) (.leaf kind content next')
  | element (name : Text) {attributes attributes' : Attributes}
      {children children' next next' : Forest}
      (hattributes : attributes.Agree matters attributes')
      (hchildren : Alike matters children children') (hnext : Alike matters next next') :
      Alike matters (.element name attributes children next)
        (.element name attributes' children' next')

/-- The same page, up to the order of attributes. -/
def Same : Forest → Forest → Prop := Alike fun _ => True

variable {matters : Text → Prop}

theorem Alike.refl (page : Forest) : Alike matters page page := by
  induction page with
  | nil => exact .nil
  | leaf kind content next ih => exact .leaf kind content ih
  | element name attributes children next ihchildren ihnext =>
    exact .element name (.refl attributes) ihchildren ihnext

theorem Alike.symm {first second : Forest} (h : Alike matters first second) :
    Alike matters second first := by
  induction h with
  | nil => exact .nil
  | leaf kind content _ ih => exact .leaf kind content ih
  | element name hattributes _ _ ihchildren ihnext =>
    exact .element name hattributes.symm ihchildren ihnext

theorem Alike.trans {first second third : Forest} (h : Alike matters first second)
    (h' : Alike matters second third) : Alike matters first third := by
  induction h generalizing third with
  | nil => exact h'
  | leaf kind content _ ih =>
    cases h' with
    | leaf _ _ hnext' => exact .leaf kind content (ih hnext')
  | element name hattributes _ _ ihchildren ihnext =>
    cases h' with
    | element _ hattributes' hchildren' hnext' =>
      exact .element name (hattributes.trans hattributes') (ihchildren hchildren') (ihnext hnext')

/-- Where fewer attributes matter, more pages are alike. -/
theorem Alike.weaken {matters' : Text → Prop} {first second : Forest}
    (h : Alike matters first second) (hle : ∀ name, matters' name → matters name) :
    Alike matters' first second := by
  induction h with
  | nil => exact .nil
  | leaf kind content _ ih => exact .leaf kind content ih
  | element name hattributes _ _ ihchildren ihnext =>
    exact .element name (fun n hn => hattributes n (hle n hn)) ihchildren ihnext

theorem Alike.textOf_eq {first second : Forest} (h : Alike matters first second) (owner : Owner) :
    first.textOf owner = second.textOf owner := by
  induction h with
  | nil => rfl
  | leaf kind content _ ih => cases kind <;> simp only [textOf, ih]
  | element name _ _ _ ihchildren ihnext => simp only [textOf, ihchildren, ihnext]

/-- The choice looks at the attributes that matter only. -/
def Choice.Respects (matters : Text → Prop) (choice : Choice) : Prop :=
  ∀ name first second, Attributes.Agree matters first second →
    choice name first = choice name second

structure Element.Alike (matters : Text → Prop) (first second : Element) : Prop where
  name_eq : first.name = second.name
  attributes_agree : first.attributes.Agree matters second.attributes
  children_alike : Forest.Alike matters first.children second.children

theorem Element.Alike.text_eq {first second : Element} (h : first.Alike matters second) :
    first.text = second.text := by
  unfold Element.text
  rw [h.name_eq, h.children_alike.textOf_eq]

variable {choice : Choice}

theorem Alike.find? {first second : Forest} (h : Alike matters first second)
    (hchoice : choice.Respects matters) :
    Option.Rel (Element.Alike matters) (first.find? choice) (second.find? choice) := by
  induction h with
  | nil => exact .none
  | leaf kind content _ ih => exact ih
  | @element name attributes attributes' children children' next next' hattributes hchildren _
      ihchildren ihnext =>
    simp only [Forest.find?, ← hchoice name attributes attributes' hattributes]
    by_cases hchosen : choice name attributes
    · simp only [hchosen, if_true]
      exact .some ⟨rfl, hattributes, hchildren⟩
    · simp only [hchosen, Bool.false_eq_true, if_false]
      generalize children.find? choice = found, children'.find? choice = found' at ihchildren
      cases ihchildren with
      | none => exact ihnext
      | some hfound => exact .some hfound

theorem Alike.select {first second : Forest} (h : Alike matters first second)
    (hchoice : choice.Respects matters) :
    List.Forall₂ (Element.Alike matters) (first.select choice) (second.select choice) := by
  induction h with
  | nil => exact .nil
  | leaf kind content _ ih => exact ih
  | @element name attributes attributes' children children' next next' hattributes hchildren _
      ihchildren ihnext =>
    simp only [Forest.select, ← hchoice name attributes attributes' hattributes]
    by_cases hchosen : choice name attributes
    · simp only [hchosen, if_true]
      exact .cons ⟨rfl, hattributes, hchildren⟩ ihnext
    · simp only [hchosen, Bool.false_eq_true, if_false]
      exact ihnext

theorem rel_map {α : Type} {r s : α → α → Prop} {first second : Option α}
    {f g : α → α} (h : Option.Rel r first second) (hfg : ∀ a b, r a b → s (f a) (g b)) :
    Option.Rel s (first.map f) (second.map g) := by
  cases h with
  | none => exact .none
  | some hr => exact .some (hfg _ _ hr)

theorem rel_trans {first second third : Option Forest}
    (h : Option.Rel (Alike matters) first second) (h' : Option.Rel (Alike matters) second third) :
    Option.Rel (Alike matters) first third := by
  cases h with
  | none => exact h'
  | some hfirst =>
    cases h' with
    | some hsecond => exact .some (hfirst.trans hsecond)

/-- Changes of the chosen element's children that lead from like to like lead from like pages to
like pages. -/
theorem Alike.updateFirst? {matters' : Text → Prop} {first second : Forest}
    {change change' : Forest → Option Forest} (h : Alike matters first second)
    (hle : ∀ name, matters' name → matters name) (hchoice : choice.Respects matters)
    (hchange : ∀ children children', Alike matters children children' →
      Option.Rel (Alike matters') (change children) (change' children')) :
    Option.Rel (Alike matters') (first.updateFirst? choice change)
      (second.updateFirst? choice change') := by
  induction h with
  | nil => exact .none
  | leaf kind content _ ih => exact rel_map ih fun _ _ hnext => .leaf kind content hnext
  | @element name attributes attributes' children children' next next' hattributes hchildren hnext
      ihchildren ihnext =>
    have hagree : attributes.Agree matters' attributes' := fun n hn => hattributes n (hle n hn)
    have hfind := hchildren.find? hchoice
    simp only [Forest.updateFirst?, ← hchoice name attributes attributes' hattributes]
    by_cases hchosen : choice name attributes
    · simp only [hchosen, if_true]
      exact rel_map (hchange children children' hchildren)
        fun _ _ hkids => .element name hagree hkids (hnext.weaken hle)
    · simp only [hchosen, Bool.false_eq_true, if_false]
      generalize children.find? choice = found, children'.find? choice = found' at hfind
      cases hfind with
      | none =>
        exact rel_map ihnext fun _ _ hrest => .element name hagree (hchildren.weaken hle) hrest
      | some _ =>
        exact rel_map ihchildren fun _ _ hkids => .element name hagree hkids (hnext.weaken hle)

/-- A page can be changed exactly if there is a chosen element and the first one can be. -/
theorem updateFirst?_isSome (change : Forest → Option Forest) (page : Forest) :
    (page.updateFirst? choice change).isSome =
      (page.find? choice).any fun found => (change found.children).isSome := by
  induction page with
  | nil => rfl
  | leaf kind content next ih =>
    rw [Forest.updateFirst?, Option.isSome_map, ih, Forest.find?]
  | element name attributes children next ihchildren ihnext =>
    simp only [Forest.updateFirst?, Forest.find?]
    by_cases hchosen : choice name attributes
    · simp [hchosen]
    · simp only [hchosen, Bool.false_eq_true, if_false]
      cases hfind : children.find? choice with
      | some found => simpa [hfind] using ihchildren
      | none => simpa using ihnext

/-- A change after which the children of the first chosen element are alike leaves the whole page
alike. -/
theorem alike_of_find? {change : Forest → Option Forest} {page changed : Forest}
    (hchange : ∀ found kids, page.find? choice = some found → change found.children = some kids →
      Alike matters found.children kids)
    (h : page.updateFirst? choice change = some changed) : Alike matters page changed := by
  induction page generalizing changed with
  | nil => simp [Forest.updateFirst?] at h
  | leaf kind content next ih =>
    obtain ⟨rest, hrest, rfl⟩ := Option.map_eq_some_iff.mp h
    exact .leaf kind content (ih hchange hrest)
  | element name attributes children next ihchildren ihnext =>
    simp only [Forest.updateFirst?] at h
    simp only [Forest.find?] at hchange
    by_cases hchosen : choice name attributes
    · simp only [hchosen, if_true] at h hchange
      obtain ⟨kids, hkids, rfl⟩ := Option.map_eq_some_iff.mp h
      exact .element name (.refl attributes) (hchange _ kids rfl hkids) (.refl next)
    · simp only [hchosen, Bool.false_eq_true, if_false] at h hchange
      cases hfind : children.find? choice with
      | some found =>
        simp only [hfind] at h hchange ihchildren
        obtain ⟨kids, hkids, rfl⟩ := Option.map_eq_some_iff.mp h
        exact .element name (.refl attributes) (ihchildren hchange hkids) (.refl next)
      | none =>
        simp only [hfind] at h hchange
        obtain ⟨rest, hrest, rfl⟩ := Option.map_eq_some_iff.mp h
        exact .element name (.refl attributes) (.refl children) (ihnext hchange hrest)

/-- A change that leads to a page that is alike leaves the whole page alike. -/
theorem alike_of_updateFirst? {change : Forest → Option Forest} {page changed : Forest}
    (hchange : ∀ children kids, change children = some kids → Alike matters children kids)
    (h : page.updateFirst? choice change = some changed) : Alike matters page changed :=
  alike_of_find? (fun found kids _ hkids => hchange found.children kids hkids) h

/-- After a change the first chosen element is the same one, with its children changed. -/
theorem find?_of_updateFirst? {change : Forest → Option Forest} {page changed : Forest}
    (h : page.updateFirst? choice change = some changed) :
    ∃ found kids, page.find? choice = some found ∧ change found.children = some kids ∧
      changed.find? choice = some { found with children := kids } := by
  induction page generalizing changed with
  | nil => simp [Forest.updateFirst?] at h
  | leaf kind content next ih =>
    obtain ⟨rest, hrest, rfl⟩ := Option.map_eq_some_iff.mp h
    obtain ⟨found, kids, hfound, hchange, hchanged⟩ := ih hrest
    exact ⟨found, kids, hfound, hchange, hchanged⟩
  | element name attributes children next ihchildren ihnext =>
    simp only [Forest.updateFirst?] at h
    by_cases hchosen : choice name attributes
    · simp only [hchosen, if_true] at h
      obtain ⟨kids, hkids, rfl⟩ := Option.map_eq_some_iff.mp h
      exact ⟨⟨name, attributes, children⟩, kids, by simp [Forest.find?, hchosen], hkids,
        by simp [Forest.find?, hchosen]⟩
    · simp only [hchosen, Bool.false_eq_true, if_false] at h
      cases hfind : children.find? choice with
      | some found =>
        simp only [hfind] at h
        obtain ⟨kids, hkids, rfl⟩ := Option.map_eq_some_iff.mp h
        obtain ⟨found', kids', hfound', hchange, hchanged⟩ := ihchildren hkids
        exact ⟨found', kids', by simp [Forest.find?, hchosen, hfound'], hchange,
          by simp [Forest.find?, hchosen, hchanged]⟩
      | none =>
        simp only [hfind] at h
        obtain ⟨rest, hrest, rfl⟩ := Option.map_eq_some_iff.mp h
        obtain ⟨found', kids', hfound', hchange, hchanged⟩ := ihnext hrest
        exact ⟨found', kids', by simp [Forest.find?, hchosen, hfind, hfound'], hchange,
          by simp [Forest.find?, hchosen, hfind, hchanged]⟩

/-- Two changes one after the other are one change. -/
theorem updateFirst?_bind (change later : Forest → Option Forest) (page : Forest) :
    (page.updateFirst? choice change).bind (·.updateFirst? choice later) =
      page.updateFirst? choice fun children => (change children).bind later := by
  induction page with
  | nil => rfl
  | leaf kind content next ih =>
    simp only [Forest.updateFirst?, ← ih]
    cases next.updateFirst? choice change <;> rfl
  | element name attributes children next ihchildren ihnext =>
    simp only [Forest.updateFirst?]
    by_cases hchosen : choice name attributes
    · simp only [hchosen, if_true]
      cases change children with
      | none => rfl
      | some kids => simp [Forest.updateFirst?, hchosen]
    · simp only [hchosen, Bool.false_eq_true, if_false, ← ihchildren, ← ihnext]
      cases hfind : children.find? choice with
      | some found =>
        cases hkids : children.updateFirst? choice change with
        | none => rfl
        | some kids =>
          obtain ⟨_, _, _, _, hfound⟩ := find?_of_updateFirst? hkids
          simp [Forest.updateFirst?, hchosen, hfound]
      | none =>
        cases next.updateFirst? choice change with
        | none => rfl
        | some rest => simp [Forest.updateFirst?, hchosen, hfind]

end Forest

end TitleSieve.Markup
