import Mathlib.Data.List.Forall2
import TitleSieve.Proofs.Listing.Places
import TitleSieve.Service.Form

/-!
Forms for titles, as they are read. A body is accepted exactly if it is a record, its fields are
well typed and no two of its handles are equal; if only the last of this fails, the body has one
issue, which names the first handle that has been there before and shows the list of candidates.
-/

namespace TitleSieve.Service

open Json Listing

namespace Checked

variable {α β : Type}

theorem both_eq_ok_iff {first : Checked α} {second : Checked β} {a : α} {b : β} :
    both first second = .ok (a, b) ↔ first = .ok a ∧ second = .ok b := by
  cases first <;> cases second <;> simp [both]

theorem all_eq_ok_iff {items : List (Checked α)} {values : List α} :
    all items = .ok values ↔ items = values.map .ok := by
  induction items generalizing values with
  | nil => cases values <;> simp [all]
  | cons first rest ih =>
    have hboth : all (first :: rest) = .ok values ↔
        ∃ pair, both first (all rest) = .ok pair ∧ pair.1 :: pair.2 = values := by
      rw [all]
      cases both first (all rest) <;> simp [Except.map]
    simp only [hboth, Prod.exists, both_eq_ok_iff, ih]
    constructor
    · rintro ⟨value, more, ⟨rfl, rfl⟩, rfl⟩
      rfl
    · intro h
      cases values with
      | nil => cases h
      | cons value more =>
        obtain ⟨hfirst, hrest⟩ := List.cons.inj h
        exact ⟨value, more, ⟨hfirst, hrest⟩, rfl⟩

end Checked

section

variable {handles seen : List Text} {handle : Text}

def FirstRepeated (handles : List Text) (handle : Text) : Prop :=
  ∃ before after, handles = before ++ handle :: after ∧ before.Nodup ∧ handle ∈ before

theorem repeated?_cons_of_mem {rest : List Text} (h : handle ∈ seen) :
    repeated? seen (handle :: rest) = some handle := by
  rw [repeated?, if_pos (List.contains_iff_mem.mpr h)]

theorem repeated?_cons_of_not_mem {rest : List Text} (h : handle ∉ seen) :
    repeated? seen (handle :: rest) = repeated? (handle :: seen) rest := by
  rw [repeated?, if_neg (mt List.contains_iff_mem.mp h)]

/-- Nothing is repeated in a list without repetitions, none of which has been seen. -/
theorem repeated?_eq_none_iff :
    repeated? seen handles = none ↔ handles.Nodup ∧ ∀ handle ∈ handles, handle ∉ seen := by
  induction handles generalizing seen with
  | nil => simp [repeated?]
  | cons first rest ih =>
    by_cases hfirst : first ∈ seen
    · rw [repeated?_cons_of_mem hfirst]
      simp [hfirst]
    · rw [repeated?_cons_of_not_mem hfirst, ih, List.nodup_cons, List.forall_mem_cons]
      constructor
      · rintro ⟨hnodup, hrest⟩
        refine ⟨⟨fun hmem => hrest first hmem List.mem_cons_self, hnodup⟩, hfirst, ?_⟩
        exact fun other hother hseen => hrest other hother (List.mem_cons_of_mem first hseen)
      · rintro ⟨⟨hnot, hnodup⟩, -, hrest⟩
        refine ⟨hnodup, fun other hother hmem => ?_⟩
        rcases List.mem_cons.mp hmem with rfl | hseen
        · exact hnot hother
        · exact hrest other hother hseen

theorem exists_of_repeated? (h : repeated? seen handles = some handle) :
    ∃ before after, handles = before ++ handle :: after ∧ before.Nodup ∧
      (∀ other ∈ before, other ∉ seen) ∧ (handle ∈ before ∨ handle ∈ seen) := by
  induction handles generalizing seen with
  | nil => cases h
  | cons first rest ih =>
    by_cases hfirst : first ∈ seen
    · rw [repeated?_cons_of_mem hfirst] at h
      obtain rfl : first = handle := Option.some.inj h
      exact ⟨[], rest, rfl, .nil, by simp, .inr hfirst⟩
    · rw [repeated?_cons_of_not_mem hfirst] at h
      obtain ⟨before, after, rfl, hnodup, hnew, hmem⟩ := ih h
      refine ⟨first :: before, after, rfl, ?_, ?_, ?_⟩
      · exact List.nodup_cons.mpr ⟨fun hbefore => hnew first hbefore List.mem_cons_self, hnodup⟩
      · refine List.forall_mem_cons.mpr ⟨hfirst, fun other hother hseen => ?_⟩
        exact hnew other hother (List.mem_cons_of_mem first hseen)
      · rcases hmem with hbefore | hseen
        · exact .inl (List.mem_cons_of_mem first hbefore)
        · rcases List.mem_cons.mp hseen with rfl | hseen
          · exact .inl List.mem_cons_self
          · exact .inr hseen

theorem firstRepeated_of_repeated? (h : repeated? [] handles = some handle) :
    FirstRepeated handles handle := by
  obtain ⟨before, after, heq, hnodup, -, hmem⟩ := exists_of_repeated? h
  exact ⟨before, after, heq, hnodup, hmem.resolve_right List.not_mem_nil⟩

end

/-- The item is a record with this handle and this title; its other fields do not count. -/
def HoldsEntry (item : Value) (entry : Text × Text) : Prop :=
  ∃ fields : Fields, item = .object fields ∧ fields.get? "handle".toList = some (.text entry.1) ∧
    fields.get? "title".toList = some (.text entry.2)

/-- The fields are well typed: a rule, if there is one, is a text, and candidates, if there are any,
are a list of records with handles and titles. -/
structure HoldsForm (fields : Fields) (rule : Text) (items : List Value)
    (entries : List (Text × Text)) : Prop where
  rule_eq : fields.get? "rule".toList = some (.text rule) ∨
    fields.get? "rule".toList = none ∧ rule = []
  items_eq : fields.get? "candidates".toList = some (.list items) ∨
    fields.get? "candidates".toList = none ∧ items = []
  holds : List.Forall₂ HoldsEntry items entries

def repetition (handle : Text) (items : List Value) : Issue :=
  ⟨[.name "candidates"], .duplicate handle, .list items⟩

theorem readText_eq_ok_iff {place : List Step} {value : Value} {t : Text} :
    readText place value = .ok t ↔ value = .text t := by
  cases value <;> simp [readText]

theorem requiredText_eq_ok_iff {place : List Step} {fields : Fields} {name : String} {t : Text} :
    requiredText place fields name = .ok t ↔ fields.get? name.toList = some (.text t) := by
  unfold requiredText
  cases fields.get? name.toList with
  | none => simp
  | some value => simp [readText_eq_ok_iff]

theorem ruleOf_eq_ok_iff {fields : Fields} {rule : Text} :
    ruleOf fields = .ok rule ↔ fields.get? "rule".toList = some (.text rule) ∨
      fields.get? "rule".toList = none ∧ rule = [] := by
  unfold ruleOf
  cases fields.get? "rule".toList with
  | none => simp [eq_comm]
  | some value => simp [readText_eq_ok_iff]

theorem readCandidate_eq_ok_iff {index : Nat} {item : Value} {entry : Text × Text} :
    readCandidate index item = .ok entry ↔ HoldsEntry item entry := by
  obtain ⟨handle, title⟩ := entry
  cases item <;> simp [readCandidate, HoldsEntry, Checked.both_eq_ok_iff, requiredText_eq_ok_iff]

theorem readItems_eq_ok_iff {items : List Value} {entries : List (Text × Text)} :
    Checked.all (items.mapIdx readCandidate) = .ok entries ↔
      List.Forall₂ HoldsEntry items entries := by
  rw [Checked.all_eq_ok_iff, List.forall₂_iff_get]
  constructor
  · intro h
    have hlength : items.length = entries.length := by simpa using congrArg List.length h
    refine ⟨hlength, fun place hitem hentry => ?_⟩
    have hplace := List.getElem_of_eq h (by simpa using hitem)
    rw [List.getElem_mapIdx, List.getElem_map] at hplace
    exact readCandidate_eq_ok_iff.mp hplace
  · rintro ⟨hlength, hholds⟩
    refine List.ext_getElem (by simpa using hlength) fun place hitem hentry => ?_
    rw [List.getElem_mapIdx, List.getElem_map]
    exact readCandidate_eq_ok_iff.mpr (hholds place (by simpa using hitem) (by simpa using hentry))

theorem readCandidates_of_distinct {items : List Value} {entries : List (Text × Text)}
    (hholds : List.Forall₂ HoldsEntry items entries) (hdistinct : Distinct entries) :
    readCandidates (.list items) = .ok entries := by
  have hnone : repeated? [] (entries.map Prod.fst) = none :=
    repeated?_eq_none_iff.mpr ⟨hdistinct, fun _ _ => List.not_mem_nil⟩
  simp only [readCandidates, readItems_eq_ok_iff.mpr hholds, hnone]

theorem readCandidates_of_not_distinct {items : List Value} {entries : List (Text × Text)}
    (hholds : List.Forall₂ HoldsEntry items entries) (hrepeated : ¬ Distinct entries) :
    ∃ handle, FirstRepeated (entries.map Prod.fst) handle ∧
      readCandidates (.list items) = .error [repetition handle items] := by
  cases hfound : repeated? [] (entries.map Prod.fst) with
  | none => exact absurd (repeated?_eq_none_iff.mp hfound).1 hrepeated
  | some handle =>
    refine ⟨handle, firstRepeated_of_repeated? hfound, ?_⟩
    simp only [readCandidates, readItems_eq_ok_iff.mpr hholds, hfound, repetition]

theorem readCandidates_eq_ok_iff {value : Value} {entries : List (Text × Text)} :
    readCandidates value = .ok entries ↔
      ∃ items, value = .list items ∧ List.Forall₂ HoldsEntry items entries ∧ Distinct entries := by
  constructor
  · intro h
    cases value with
    | list items =>
      cases hitems : Checked.all (items.mapIdx readCandidate) with
      | error issues =>
        simp only [readCandidates, hitems] at h
        cases h
      | ok found =>
        have hholds := readItems_eq_ok_iff.mp hitems
        by_cases hdistinct : Distinct found
        · rw [readCandidates_of_distinct hholds hdistinct] at h
          obtain rfl : found = entries := Except.ok.inj h
          exact ⟨items, rfl, hholds, hdistinct⟩
        · obtain ⟨handle, -, hread⟩ := readCandidates_of_not_distinct hholds hdistinct
          rw [hread] at h
          cases h
    | _ => cases h
  · rintro ⟨items, rfl, hholds, hdistinct⟩
    exact readCandidates_of_distinct hholds hdistinct

theorem candidatesOf_eq_ok_iff {fields : Fields} {entries : List (Text × Text)} :
    candidatesOf fields = .ok entries ↔ ∃ items,
      (fields.get? "candidates".toList = some (.list items) ∨
        fields.get? "candidates".toList = none ∧ items = []) ∧
      List.Forall₂ HoldsEntry items entries ∧ Distinct entries := by
  unfold candidatesOf
  cases fields.get? "candidates".toList with
  | none =>
    simp only [reduceCtorEq, false_or, true_and, exists_eq_left, List.forall₂_nil_left_iff]
    constructor
    · intro h
      obtain rfl := Except.ok.inj h
      exact ⟨rfl, .nil⟩
    · rintro ⟨rfl, -⟩
      rfl
  | some value =>
    rw [readCandidates_eq_ok_iff]
    simp only [Option.some.injEq, reduceCtorEq, false_and, or_false]

namespace FilterForm

theorem read_object (fields : Fields) :
    read (some (.object fields)) =
      (Checked.both (ruleOf fields) (candidatesOf fields)).map fun (rule, entries) =>
        ⟨rule, entries⟩ := rfl

theorem read_object_eq_ok_iff {fields : Fields} {form : FilterForm} :
    read (some (.object fields)) = .ok form ↔
      ruleOf fields = .ok form.rule ∧ candidatesOf fields = .ok form.entries := by
  obtain ⟨rule, entries⟩ := form
  have hboth : ruleOf fields = .ok rule ∧ candidatesOf fields = .ok entries ↔
      Checked.both (ruleOf fields) (candidatesOf fields) = .ok (rule, entries) :=
    Checked.both_eq_ok_iff.symm
  rw [read_object, hboth]
  rcases Checked.both (ruleOf fields) (candidatesOf fields) with issues | ⟨found, others⟩ <;>
    simp [Except.map]

/-- A body is accepted as a form for titles exactly if it is a record with well typed fields and no
two handles are equal. -/
theorem read_eq_ok_iff {body : Option Value} {form : FilterForm} :
    read body = .ok form ↔ ∃ fields items, body = some (.object fields) ∧
      HoldsForm fields form.rule items form.entries ∧ Distinct form.entries := by
  constructor
  · intro h
    rcases body with _ | value
    · cases h
    · cases value with
      | object fields =>
        obtain ⟨hrule, hcandidates⟩ := read_object_eq_ok_iff.mp h
        obtain ⟨items, hitems, hholds, hdistinct⟩ := candidatesOf_eq_ok_iff.mp hcandidates
        exact ⟨fields, items, rfl, ⟨ruleOf_eq_ok_iff.mp hrule, hitems, hholds⟩, hdistinct⟩
      | _ => cases h
  · rintro ⟨fields, items, rfl, hform, hdistinct⟩
    exact read_object_eq_ok_iff.mpr ⟨ruleOf_eq_ok_iff.mpr hform.rule_eq,
      candidatesOf_eq_ok_iff.mpr ⟨items, hform.items_eq, hform.holds, hdistinct⟩⟩

end FilterForm

namespace HoldsForm

variable {fields : Fields} {rule : Text} {items : List Value} {entries : List (Text × Text)}

theorem read_of_distinct (h : HoldsForm fields rule items entries) (hdistinct : Distinct entries) :
    FilterForm.read (some (.object fields)) = .ok ⟨rule, entries⟩ :=
  FilterForm.read_eq_ok_iff.mpr ⟨fields, items, rfl, h, hdistinct⟩

/-- If only handles are repeated, this is all that is wrong. -/
theorem read_of_not_distinct (h : HoldsForm fields rule items entries)
    (hrepeated : ¬ Distinct entries) :
    ∃ handle, FirstRepeated (entries.map Prod.fst) handle ∧
      FilterForm.read (some (.object fields)) = .error [repetition handle items] := by
  obtain ⟨handle, hhandle, hread⟩ := readCandidates_of_not_distinct h.holds hrepeated
  refine ⟨handle, hhandle, ?_⟩
  rcases h.items_eq with hitems | ⟨-, rfl⟩
  · rw [FilterForm.read_object, ruleOf_eq_ok_iff.mpr h.rule_eq, candidatesOf, hitems]
    simp only [hread]
    rfl
  · obtain rfl := List.forall₂_nil_left_iff.mp h.holds
    exact absurd List.nodup_nil hrepeated

end HoldsForm

end TitleSieve.Service
