import TitleSieve.Markup.Printer
import TitleSieve.Proofs.Text.Words

/-!
What a page looks like that has been read. The names of its elements and attributes are such as a
tag can give, nothing inside an insertion ends it, an element without content has none, and verbatim
text holds no end tag that would end it. Each event that a page can hold is legible in this sense,
and a builder that takes such events keeps what it has built legible.
-/

namespace TitleSieve.Markup

open Event StartTag

theorem toNat_of_isAsciiLetter {c : Char} (h : isAsciiLetter c = true) :
    (97 ≤ c.toNat ∧ c.toNat ≤ 122) ∨ (65 ≤ c.toNat ∧ c.toNat ≤ 90) := by
  rcases Bool.or_eq_true_iff.mp h with h | h <;>
    obtain ⟨hfirst, hlast⟩ := Bool.and_eq_true_iff.mp h
  · exact .inl ⟨of_decide_eq_true hfirst, of_decide_eq_true hlast⟩
  · exact .inr ⟨of_decide_eq_true hfirst, of_decide_eq_true hlast⟩

theorem isBlank_of_isAsciiLetter {c : Char} (h : isAsciiLetter c = true) :
    Text.isBlank c = false := by
  have hcode := toNat_of_isAsciiLetter h
  rw [Bool.eq_false_iff]
  intro hblank
  simp only [Text.isBlank, Text.isBlankCode, Bool.or_eq_true, Bool.and_eq_true, decide_eq_true_eq,
    beq_iff_eq] at hblank
  omega

structure IsTagName (name : Text) : Prop where
  begins : ∃ c rest, name = c :: rest ∧ isAsciiLetter c = true
  chars : ∀ c ∈ name, isTagNameChar c = true
  lowered : Text.lower name = name

/-- The name of an attribute as a start tag gives it; its first character may be an equals sign. -/
structure IsAttributeName (name : Text) : Prop where
  begins : ∃ first rest, name = first :: rest ∧ isGap first = false ∧ first ≠ '>' ∧
    ∀ c ∈ rest, isAttributeNameChar c = true
  lowered : Text.lower name = name

def Attributes.Named (attributes : Attributes) : Prop :=
  ∀ entry ∈ attributes, IsAttributeName entry.1

/-- Attributes as an element of a page that has been read keeps them. -/
structure Attributes.Legible (element : Text) (attributes : Attributes) : Prop where
  distinct : (attributes.map Prod.fst).Nodup
  names : attributes.Named
  spaced : ∀ entry ∈ attributes, Builder.listsWords element entry.1 = true →
    Text.joinWith [' '] (Text.words entry.2) = entry.2

namespace Attributes

theorem map_fst_set (name value : Text) (attributes : Attributes) :
    (attributes.set name value).map Prod.fst =
      if name ∈ attributes.map Prod.fst then attributes.map Prod.fst
      else attributes.map Prod.fst ++ [name] := by
  induction attributes with
  | nil => rfl
  | cons entry rest ih =>
    obtain ⟨first, old⟩ := entry
    by_cases hfirst : first = name
    · simp [set, hfirst]
    · rw [set, if_neg hfirst, List.map_cons, ih, List.map_cons]
      by_cases hrest : name ∈ rest.map Prod.fst
      · rw [if_pos hrest, if_pos (List.mem_cons_of_mem first hrest)]
      · have hnot : name ∉ first :: rest.map Prod.fst := by
          rw [List.mem_cons, not_or]
          exact ⟨Ne.symm hfirst, hrest⟩
        rw [if_neg hrest, if_neg hnot, List.cons_append]

theorem mem_set {name value : Text} {attributes : Attributes} {entry : Text × Text}
    (h : entry ∈ attributes.set name value) : entry = (name, value) ∨ entry ∈ attributes := by
  induction attributes with
  | nil => exact .inl (List.mem_singleton.mp h)
  | cons head rest ih =>
    obtain ⟨first, old⟩ := head
    by_cases hfirst : first = name
    · rw [set, if_pos hfirst, hfirst] at h
      rcases List.mem_cons.mp h with rfl | hrest
      · exact .inl rfl
      · exact .inr (List.mem_cons_of_mem _ hrest)
    · rw [set, if_neg hfirst] at h
      rcases List.mem_cons.mp h with rfl | hrest
      · exact .inr List.mem_cons_self
      · exact (ih hrest).imp_right (List.mem_cons_of_mem _)

theorem nodup_set {attributes : Attributes} (h : (attributes.map Prod.fst).Nodup)
    (name value : Text) : ((attributes.set name value).map Prod.fst).Nodup := by
  rw [map_fst_set]
  split
  · exact h
  · next hname =>
    rw [List.nodup_append]
    refine ⟨h, by simp, fun a ha b hb => ?_⟩
    obtain rfl := List.mem_singleton.mp hb
    exact fun hab => hname (hab ▸ ha)

/-- Merged attributes are some of the given ones, each name once. -/
theorem merge_spec (attributes : Attributes) :
    (attributes.merge.map Prod.fst).Nodup ∧ ∀ entry ∈ attributes.merge, entry ∈ attributes := by
  have hfold : ∀ given merged : Attributes, (merged.map Prod.fst).Nodup →
      ((given.foldl (fun merged entry => set entry.1 entry.2 merged) merged).map Prod.fst).Nodup ∧
        ∀ entry ∈ given.foldl (fun merged entry => set entry.1 entry.2 merged) merged,
          entry ∈ merged ∨ entry ∈ given := by
    intro given
    induction given with
    | nil => exact fun merged hmerged => ⟨hmerged, fun _ h => .inl h⟩
    | cons first rest ih =>
      intro merged hmerged
      obtain ⟨hnodup, hmem⟩ := ih (set first.1 first.2 merged) (nodup_set hmerged _ _)
      refine ⟨hnodup, fun entry hentry => ?_⟩
      rcases hmem entry hentry with h | h
      · rcases mem_set h with rfl | h
        · exact .inr List.mem_cons_self
        · exact .inl h
      · exact .inr (List.mem_cons_of_mem _ h)
  obtain ⟨hnodup, hmem⟩ := hfold attributes [] List.nodup_nil
  refine ⟨hnodup, fun entry hentry => ?_⟩
  rcases hmem entry hentry with h | h
  · cases h
  · exact h

theorem Legible.set {element : Text} {attributes : Attributes} (h : attributes.Legible element)
    {name value : Text} (hname : IsAttributeName name)
    (hvalue : Builder.listsWords element name = true →
      Text.joinWith [' '] (Text.words value) = value) :
    (attributes.set name value).Legible element where
  distinct := nodup_set h.distinct name value
  names entry hentry := by
    rcases mem_set hentry with rfl | hold
    · exact hname
    · exact h.names entry hold
  spaced entry hentry := by
    rcases mem_set hentry with rfl | hold
    · exact hvalue
    · exact h.spaced entry hold

theorem Legible.of_subset {element : Text} {attributes kept : Attributes}
    (h : attributes.Legible element) (hdistinct : (kept.map Prod.fst).Nodup)
    (hsubset : ∀ entry ∈ kept, entry ∈ attributes) : kept.Legible element where
  distinct := hdistinct
  names entry hentry := h.names entry (hsubset entry hentry)
  spaced entry hentry := h.spaced entry (hsubset entry hentry)

theorem Legible.erase {element : Text} {attributes : Attributes} (h : attributes.Legible element)
    (name : Text) : (attributes.erase name).Legible element :=
  h.of_subset (h.distinct.sublist (List.filter_sublist.map Prod.fst))
    fun _ hentry => List.mem_of_mem_filter hentry

end Attributes

theorem joinWith_words_joinWith (value : Text) :
    Text.joinWith [' '] (Text.words (Text.joinWith [' '] (Text.words value))) =
      Text.joinWith [' '] (Text.words value) := by
  rw [Text.words_joinWith fun _ => Text.isWord_of_mem_words]

theorem legible_keptAttributes (element : Text) {attributes : Attributes}
    (h : attributes.Named) : (Builder.keptAttributes element attributes).Legible element := by
  obtain ⟨hdistinct, hmem⟩ := attributes.merge_spec
  have hnames : (Builder.keptAttributes element attributes).map Prod.fst =
      attributes.merge.map Prod.fst := by
    rw [Builder.keptAttributes, List.map_map]
    rfl
  refine ⟨hnames ▸ hdistinct, fun entry hentry => ?_, fun entry hentry hlists => ?_⟩
  · obtain ⟨given, hgiven, rfl⟩ := List.mem_map.mp hentry
    exact h given (hmem given hgiven)
  · obtain ⟨given, -, rfl⟩ := List.mem_map.mp hentry
    have hlisted : Builder.listsWords element given.1 = true := hlists
    simp only [hlisted, if_true]
    exact joinWith_words_joinWith given.2

/-- Nothing in the content of an insertion ends it. -/
def Insertion.Holds (content : Text) : Insertion → Prop
  | .cdata => ∀ left, left <:+ content → endsSection? 2 left = none
  | .comment => ∀ left, left <:+ content → endsComment? left = none
  | .doctype => '>' ∉ content
  | .declaration => True
  | .instruction => '>' ∉ content

/-- No end tag in the verbatim text of an element is one that ends it. -/
def EndsNowhere (name content : Text) : Prop :=
  ∀ tag left, tag ++ left <:+ content → endsVerbatim? name (tag ++ left) = some left →
    plainEndName? (tag.drop 2).dropLast = none

/-- What an element of this name may contain. -/
structure Fits (name : Text) (children : Forest) : Prop where
  void : Builder.isVoid name = true → children = .nil
  verbatim : isVerbatim name = true →
    children = .nil ∨ ∃ owner content, children = .leaf (.text owner) content .nil ∧
      EndsNowhere name content

def isPreformattedName (name : Text) : Bool := Builder.preformattedNames.contains name

/-- A run of blanks outside preformatted text is a single blank. -/
def Settled (preformatted : Bool) (content : Text) : Prop :=
  preformatted = false → Builder.collapse content = content

inductive Forest.Legible : (preformatted : Bool) → Forest → Prop where
  | nil {preformatted : Bool} : Legible preformatted .nil
  | text {preformatted : Bool} (owner : Owner) {content : Text} {next : Forest}
      (hsettled : Settled preformatted content) (hnext : Legible preformatted next) :
      Legible preformatted (.leaf (.text owner) content next)
  | insertion {preformatted : Bool} {kind : Insertion} {content : Text} {next : Forest}
      (hholds : kind.Holds content) (hsettled : Settled preformatted content)
      (hnext : Legible preformatted next) :
      Legible preformatted (.leaf (.insertion kind) content next)
  | element {preformatted : Bool} {name : Text} {attributes : Attributes}
      {children next : Forest} (hname : IsTagName name) (hattributes : attributes.Legible name)
      (hfits : Fits name children)
      (hchildren : Legible (isPreformattedName name || preformatted) children)
      (hnext : Legible preformatted next) :
      Legible preformatted (.element name attributes children next)

def Branch.Legible (preformatted : Bool) (branch : Branch) : Prop :=
  (Forest.grow branch .nil).Legible preformatted

theorem Forest.legible_grow {preformatted : Bool} {branch : Branch} {next : Forest}
    (hbranch : branch.Legible preformatted) (hnext : next.Legible preformatted) :
    (Forest.grow branch next).Legible preformatted := by
  cases branch with
  | leaf kind content =>
    cases hbranch with
    | text owner hsettled _ => exact .text owner hsettled hnext
    | insertion hholds hsettled _ => exact .insertion hholds hsettled hnext
  | element name attributes children =>
    cases hbranch with
    | element hname hattributes hfits hchildren _ =>
      exact .element hname hattributes hfits hchildren hnext

theorem Forest.legible_ofBranches {preformatted : Bool} {branches : List Branch}
    (h : ∀ branch ∈ branches, branch.Legible preformatted) :
    (Forest.ofBranches branches).Legible preformatted := by
  have hfold : ∀ (branches : List Branch) (next : Forest),
      (∀ branch ∈ branches, branch.Legible preformatted) → next.Legible preformatted →
        (branches.foldl (fun next b => grow b next) next).Legible preformatted := by
    intro branches
    induction branches with
    | nil => exact fun _ _ hnext => hnext
    | cons branch rest ih =>
      intro next hall hnext
      exact ih _ (fun b hb => hall b (List.mem_cons_of_mem _ hb))
        (legible_grow (hall branch List.mem_cons_self) hnext)
  exact hfold branches .nil h .nil

end TitleSieve.Markup
