import TitleSieve.Proofs.Rule.Fragments

/-!
Literals in other scripts. A table replaces each character for itself, so the image of a part is a
part of the image of the whole, whatever stands around it. With a converter made of two tables a
literal is therefore found in a title that holds one of its variants, and a variant in a title that
holds the literal. The tables need not be inverse to each other, and an image may be longer than its
character or empty.
-/

namespace TitleSieve

open Text

theorem Text.substitute_append (image : Char → Text) (first second : Text) :
    substitute image (first ++ second) = substitute image first ++ substitute image second :=
  List.flatMap_append

/-- No text is refused, and no image holds a capital sigma. -/
structure ScriptTable.Harmless (table : ScriptTable) : Prop where
  refusedA : table.refusedA = none
  refusedB : table.refusedB = none
  imagesA : ∀ entry ∈ table.imagesA, 'Σ' ∉ entry.2
  imagesB : ∀ entry ∈ table.imagesB, 'Σ' ∉ entry.2

namespace ScriptTable

variable {table : ScriptTable}

def variantA (table : ScriptTable) : Text → Text := substitute (imageIn table.imagesA)

def variantB (table : ScriptTable) : Text → Text := substitute (imageIn table.imagesB)

theorem Harmless.gives (h : table.Harmless) :
    (Converter.ofTable table).Gives table.variantA table.variantB := by
  intro text
  simp [Converter.ofTable, refuses, h.refusedA, h.refusedB, variantA, variantB, substitute]

theorem sigma_not_mem_imageIn {images : List (Char × Text)}
    (h : ∀ entry ∈ images, 'Σ' ∉ entry.2) {c : Char} (hc : c ≠ 'Σ') : 'Σ' ∉ imageIn images c := by
  unfold imageIn
  cases himage : images.lookup c with
  | none => simpa using hc.symm
  | some image =>
    obtain ⟨first, rest, himages, -⟩ := List.lookup_eq_some_iff.mp himage
    have hentry : (c, image) ∈ images := by simp [himages]
    exact h (c, image) hentry

theorem sigma_not_mem_substitute {images : List (Char × Text)}
    (h : ∀ entry ∈ images, 'Σ' ∉ entry.2) {t : Text} (ht : 'Σ' ∉ t) :
    'Σ' ∉ substitute (imageIn images) t := by
  intro hmem
  obtain ⟨c, hc, himage⟩ := List.mem_flatMap.mp hmem
  refine sigma_not_mem_imageIn h ?_ himage
  rintro rfl
  exact ht hc

end ScriptTable

namespace Rule

/-- One of the three texts that a literal is compared by is part of one of the three that the title
is compared by. -/
theorem IsLiteral.finds_variant {converter : Converter} {variantA variantB : Text → Text}
    (hgives : converter.Gives variantA variantB) {raw title : Text} (hraw : IsLiteral raw)
    {part whole : Text} (hpart : part ∈ [raw, variantA raw, variantB raw])
    (hwhole : whole ∈ [title, variantA title, variantB title]) (hinside : part <:+: whole)
    (hsigma : 'Σ' ∉ part) : Finds converter raw title := by
  obtain ⟨before, after, rfl⟩ := hinside
  have hneedle : part.lower ∈ loweredForms variantA variantB raw := List.mem_map_of_mem hpart
  have hform : lower (before ++ part ++ after) ∈ loweredForms variantA variantB title :=
    List.mem_map_of_mem hwhole
  exact hraw.finds (hgives.forms_of raw) (hgives.forms_of title) hneedle hform
    (sigmasAgree_of_not_mem hsigma before after).infix_lower

/-- A literal without a capital sigma is found in every title that holds it or one of its variants,
and each of its variants that is a literal in every title that holds the literal itself. -/
theorem finds_across_scripts {table : ScriptTable} (htable : table.Harmless) {x : Text}
    (hx : 'Σ' ∉ x) (p q : Text) :
    (IsLiteral x → Finds (.ofTable table) x (p ++ x ++ q) ∧
      Finds (.ofTable table) x (p ++ table.variantA x ++ q) ∧
      Finds (.ofTable table) x (p ++ table.variantB x ++ q)) ∧
    (IsLiteral (table.variantA x) → Finds (.ofTable table) (table.variantA x) (p ++ x ++ q)) ∧
    (IsLiteral (table.variantB x) → Finds (.ofTable table) (table.variantB x) (p ++ x ++ q)) := by
  have hgives := htable.gives
  have hA : 'Σ' ∉ table.variantA x := ScriptTable.sigma_not_mem_substitute htable.imagesA hx
  have hB : 'Σ' ∉ table.variantB x := ScriptTable.sigma_not_mem_substitute htable.imagesB hx
  have hinsideA : table.variantA x <:+: table.variantA (p ++ x ++ q) := by
    simp only [ScriptTable.variantA, substitute_append]
    exact ⟨_, _, rfl⟩
  have hinsideB : table.variantB x <:+: table.variantB (p ++ x ++ q) := by
    simp only [ScriptTable.variantB, substitute_append]
    exact ⟨_, _, rfl⟩
  refine ⟨fun hliteral => ⟨?_, ?_, ?_⟩, fun hliteral => ?_, fun hliteral => ?_⟩
  · exact hliteral.finds_variant hgives (by simp) (by simp) ⟨p, q, rfl⟩ hx
  · exact hliteral.finds_variant hgives (by simp) List.mem_cons_self ⟨p, q, rfl⟩ hA
  · exact hliteral.finds_variant hgives (by simp) List.mem_cons_self ⟨p, q, rfl⟩ hB
  · exact hliteral.finds_variant hgives List.mem_cons_self (by simp) hinsideA hA
  · exact hliteral.finds_variant hgives List.mem_cons_self (by simp) hinsideB hB

/-- The first table has an image of two characters and an empty one; the second table does not undo
the first. -/
def unevenTable : ScriptTable :=
  ⟨[('体', "體".toList), ('İ', "ii".toList), ('-', [])], [('體', "体".toList), ('İ', "x".toList)],
    none, none⟩

/-- A literal and its two variants, each found in titles that hold another one of the three. -/
theorem finds_across_uneven_scripts :
    unevenTable.Harmless ∧ 'Σ' ∉ "简体-İ".toList ∧
      unevenTable.variantA "简体-İ".toList = "简體ii".toList ∧
      unevenTable.variantB "简体-İ".toList = "简体-x".toList ∧
      IsLiteral "简体-İ".toList ∧
      IsLiteral (unevenTable.variantA "简体-İ".toList) ∧
      IsLiteral (unevenTable.variantB "简体-İ".toList) ∧
      (Finds (.ofTable unevenTable) "简体-İ".toList "[体简体-İ-".toList ∧
        Finds (.ofTable unevenTable) "简体-İ".toList "[体简體ii-".toList ∧
        Finds (.ofTable unevenTable) "简体-İ".toList "[体简体-x-".toList) ∧
      Finds (.ofTable unevenTable) "简體ii".toList "[体简体-İ-".toList ∧
      Finds (.ofTable unevenTable) "简体-x".toList "[体简体-İ-".toList := by
  have htable : unevenTable.Harmless := ⟨rfl, rfl, by decide, by decide⟩
  have hsigma : 'Σ' ∉ "简体-İ".toList := by decide
  have hliteral : IsLiteral "简体-İ".toList := by decide
  have hliteralA : IsLiteral (unevenTable.variantA "简体-İ".toList) := by decide
  have hliteralB : IsLiteral (unevenTable.variantB "简体-İ".toList) := by decide
  obtain ⟨hplain, hA, hB⟩ := finds_across_scripts htable hsigma "[体".toList "-".toList
  exact ⟨htable, hsigma, by decide, by decide, hliteral, hliteralA, hliteralB, hplain hliteral,
    hA hliteralA, hB hliteralB⟩

end Rule

end TitleSieve
