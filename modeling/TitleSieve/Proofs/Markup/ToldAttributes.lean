import Mathlib.Data.Bool.AllAny
import Mathlib.Data.List.Lex
import Mathlib.Data.List.Nodup
import TitleSieve.Proofs.Markup.Alike
import TitleSieve.Proofs.Markup.WrittenPages

/-!
Attributes that are written once more. An element has one attribute of each name, so the order in
which its attributes are written depends on nothing but the attributes themselves; and an encoding
that has been told is told again in the same words. So an element whose attributes have been written
and read has them written in the same way.
-/

namespace TitleSieve.Markup

namespace Attributes

variable {element : Text} {attributes first second : Attributes}

/-- Attributes stand in the order of their names if none precedes one before it. -/
def InOrder (attributes : Attributes) : Prop :=
  attributes.Pairwise fun earlier later => precedes later.1 earlier.1 = false

theorem precedes_eq_false_iff {a b : Text} :
    precedes a b = false ↔ b.map Char.toNat ≤ a.map Char.toNat := by
  rw [precedes, decide_eq_false_iff_not, not_lt]

theorem inOrder_insert (h : attributes.InOrder) (added : Text × Text) :
    (insert added attributes).InOrder := by
  induction attributes with
  | nil => exact List.pairwise_singleton _ _
  | cons first rest ih =>
    obtain ⟨hfirst, hrest⟩ := List.pairwise_cons.mp h
    unfold insert
    split
    · next hprecedes =>
      refine List.pairwise_cons.mpr ⟨fun later hlater => ?_, ih hrest⟩
      rcases List.mem_cons.mp ((insert_perm added rest).mem_iff.mp hlater) with rfl | hold
      · rw [precedes_eq_false_iff]
        exact (of_decide_eq_true hprecedes).le
      · exact hfirst later hold
    · next hprecedes =>
      have hadded := precedes_eq_false_iff.mp (Bool.eq_false_iff.mpr hprecedes)
      refine List.pairwise_cons.mpr ⟨fun later hlater => ?_, h⟩
      rcases List.mem_cons.mp hlater with rfl | hold
      · exact precedes_eq_false_iff.mpr hadded
      · exact precedes_eq_false_iff.mpr
          (hadded.trans (precedes_eq_false_iff.mp (hfirst later hold)))

theorem inOrder_sort (attributes : Attributes) : attributes.sort.InOrder := by
  induction attributes with
  | nil => exact .nil
  | cons first rest ih => exact inOrder_insert ih first

/-- Of attributes with different names no two have the same place in the order. -/
theorem eq_of_precedes {entry other : Text × Text} (hdistinct : (attributes.map Prod.fst).Nodup)
    (hentry : entry ∈ attributes) (hother : other ∈ attributes)
    (h : precedes entry.1 other.1 = false) (h' : precedes other.1 entry.1 = false) :
    entry = other := by
  have hcodes := le_antisymm (precedes_eq_false_iff.mp h') (precedes_eq_false_iff.mp h)
  have hinjective : Function.Injective Char.toNat := fun _ _ => Char.toNat_inj.mp
  exact List.inj_on_of_nodup_map hdistinct hentry hother (hinjective.list_map hcodes)

/-- The order in which attributes are written does not depend on the one in which they stand. -/
theorem sort_eq_of_perm (hperm : first.Perm second) (hdistinct : (first.map Prod.fst).Nodup) :
    first.sort = second.sort := by
  have hsorted : first.sort.Perm second.sort :=
    (first.sort_perm.trans hperm).trans second.sort_perm.symm
  refine hsorted.eq_of_pairwise (fun entry other hentry hother h h' => ?_) (inOrder_sort first)
    (inOrder_sort second)
  have hentry' := first.sort_perm.mem_iff.mp hentry
  have hother' := hperm.mem_iff.mpr (second.sort_perm.mem_iff.mp hother)
  exact eq_of_precedes hdistinct hentry' hother' h' h

theorem get?_eq_some_iff (hdistinct : (attributes.map Prod.fst).Nodup) {name value : Text} :
    attributes.get? name = some value ↔ (name, value) ∈ attributes := by
  refine ⟨mem_of_get?, fun hmem => ?_⟩
  obtain ⟨before, after, hsplit⟩ := List.append_of_mem hmem
  refine List.lookup_eq_some_iff.mpr ⟨before, after, hsplit, fun entry hentry => ?_⟩
  rw [hsplit, List.map_append, List.map_cons, List.nodup_append] at hdistinct
  simpa using fun heq : name = entry.1 =>
    hdistinct.2.2 entry.1 (List.mem_map_of_mem hentry) name List.mem_cons_self heq.symm

theorem perm_of_agree (hfirst : (first.map Prod.fst).Nodup) (hsecond : (second.map Prod.fst).Nodup)
    (h : first.Agree (fun _ => True) second) : first.Perm second := by
  rw [List.perm_ext_iff_of_nodup hfirst.of_map hsecond.of_map]
  intro entry
  obtain ⟨name, value⟩ := entry
  rw [← get?_eq_some_iff hfirst, ← get?_eq_some_iff hsecond, h name trivial]

theorem agree_of_perm (hfirst : (first.map Prod.fst).Nodup) (h : first.Perm second) :
    first.Agree (fun _ => True) second := by
  intro name _
  have hsecond : (second.map Prod.fst).Nodup := (h.map Prod.fst).nodup_iff.mp hfirst
  ext value
  rw [get?_eq_some_iff hfirst, get?_eq_some_iff hsecond, h.mem_iff]

theorem renameCharset_eq_drop (skipped : Nat) (t : Text) :
    renameCharset false skipped t = renameCharset false 0 (t.drop skipped) := by
  induction skipped generalizing t with
  | zero => rfl
  | succ skip ih =>
    cases t with
    | nil => rfl
    | cons c rest => exact ih rest

/-- Behind a mark the encoding used stands in place of the one that is named. -/
theorem renameCharset_mark (left : Text) :
    renameCharset true 0 (charsetMark ++ left) =
      charsetMark ++ (encoding ++ renameCharset false 0 (left.dropWhile (· != ';'))) := by
  obtain ⟨c, rest, hmark⟩ : ∃ c rest, charsetMark = c :: rest := ⟨_, _, rfl⟩
  have hfound : charsetMark.isPrefixOf (c :: (rest ++ left)) = true := by
    rw [← List.cons_append, ← hmark]
    exact List.isPrefixOf_iff_prefix.mpr (List.prefix_append _ _)
  have hnamed : (c :: (rest ++ left)).drop charsetMark.length = left := by
    rw [← List.cons_append, ← hmark, List.drop_left]
  have hleft : left.drop (left.takeWhile (· != ';')).length = left.dropWhile (· != ';') := by
    calc left.drop (left.takeWhile (· != ';')).length
        = (left.takeWhile (· != ';') ++ left.dropWhile (· != ';')).drop
            (left.takeWhile (· != ';')).length := by rw [List.takeWhile_append_dropWhile]
      _ = left.dropWhile (· != ';') := List.drop_left
  have hskipped : charsetMark.length + (left.takeWhile (· != ';')).length - 1 =
      rest.length + (left.takeWhile (· != ';')).length := by
    rw [hmark, List.length_cons]
    omega
  have hstep : renameCharset true 0 (c :: (rest ++ left)) = charsetMark ++ encoding ++
      renameCharset false (charsetMark.length + (left.takeWhile (· != ';')).length - 1)
        (rest ++ left) := by
    simp only [renameCharset, hfound, hnamed, Bool.true_and, if_true]
  rw [hskipped, renameCharset_eq_drop, List.drop_length_add_append, hleft,
    List.append_assoc] at hstep
  rw [← hstep, ← List.cons_append, ← hmark]

theorem renameCharset_cons {fresh : Bool} {c : Char} {rest : Text}
    (h : fresh = true → ¬ charsetMark <+: c :: rest) :
    renameCharset fresh 0 (c :: rest) =
      c :: renameCharset (c == ';' || Text.isBlank c) 0 rest := by
  have hmark : (fresh && charsetMark.isPrefixOf (c :: rest)) = false := by
    rw [Bool.eq_false_iff, ne_eq, Bool.and_eq_true, List.isPrefixOf_iff_prefix, not_and]
    exact h
  simp only [renameCharset, hmark, Bool.false_eq_true, if_false]

/-- A word that begins what is written instead has been there before. -/
theorem prefix_of_prefix_renameCharset {word t : Text}
    (hword : ∀ c ∈ word, (c == ';' || Text.isBlank c) = false)
    (h : word <+: renameCharset false 0 t) : word <+: t := by
  induction word generalizing t with
  | nil => exact List.nil_prefix
  | cons a word ih =>
    cases t with
    | nil => exact h
    | cons c rest =>
      rw [renameCharset_cons Bool.noConfusion, List.cons_prefix_cons] at h
      obtain ⟨rfl, hrest⟩ := h
      rw [hword a List.mem_cons_self] at hrest
      exact List.cons_prefix_cons.mpr
        ⟨rfl, ih (fun c hc => hword c (List.mem_cons_of_mem a hc)) hrest⟩

/-- What has been said of the encoding is said again in the same words. -/
theorem renameCharset_renameCharset (fresh : Bool) (t : Text) :
    renameCharset fresh 0 (renameCharset fresh 0 t) = renameCharset fresh 0 t := by
  induction hlength : t.length using Nat.strongRecOn generalizing fresh t with
  | ind length ih =>
    subst hlength
    by_cases hmark : fresh = true ∧ charsetMark <+: t
    · obtain ⟨rfl, left, rfl⟩ := hmark
      have hshort : (left.dropWhile (· != ';')).length < (charsetMark ++ left).length := by
        have hle := (List.dropWhile_sublist (l := left) (· != ';')).length_le
        have hpos : 0 < charsetMark.length := by decide
        rw [List.length_append]
        omega
      have hagain := ih _ hshort false _ rfl
      -- what stands behind the encoding begins with a semicolon, if there is anything
      have hleft : (encoding ++ renameCharset false 0 (left.dropWhile (· != ';'))).dropWhile
          (· != ';') = renameCharset false 0 (left.dropWhile (· != ';')) := by
        have hencoding : ∀ c ∈ encoding, (c != ';') = true := List.all_eq_true.mp (by decide)
        rw [List.dropWhile_append_of_pos hencoding]
        cases hdrop : left.dropWhile (· != ';') with
        | nil => rfl
        | cons c rest =>
          have hc : (c != ';') = false := by
            simpa [hdrop] using List.head?_dropWhile_not (· != ';') left
          rw [renameCharset_cons Bool.noConfusion,
            List.dropWhile_cons_of_neg (by simp [hc])]
      rw [renameCharset_mark, renameCharset_mark, hleft, hagain]
    · rw [not_and] at hmark
      cases t with
      | nil => rfl
      | cons c rest =>
        have hagain := ih rest.length (Nat.lt_succ_self _) (c == ';' || Text.isBlank c) rest rfl
        rw [renameCharset_cons hmark]
        rw [renameCharset_cons, hagain]
        -- no mark has come about that was not there
        rintro hfresh hwritten
        obtain ⟨rfl, hrest⟩ := List.cons_prefix_cons.mp hwritten
        refine hmark hfresh (List.cons_prefix_cons.mpr ⟨rfl, ?_⟩)
        exact prefix_of_prefix_renameCharset (List.all_iff_forall_prop.mp (by decide)) hrest

theorem tellEncoding_agree (h : first.Agree (fun _ => True) second) :
    first.tellEncoding.Agree (fun _ => True) second.tellEncoding := by
  have hset (name value : Text) :
      (first.set name value).Agree (fun _ => True) (second.set name value) := by
    intro other _
    rw [get?_set, get?_set, h other trivial]
  unfold tellEncoding
  simp only [h _ trivial]
  split
  · exact hset _ _
  · split
    · exact hset _ _
    · exact h
  · exact h

theorem tellEncoding_of_charset {value : Text}
    (h : attributes.get? "charset".toList = some value) :
    attributes.tellEncoding = attributes.set "charset".toList encoding := by
  simp only [tellEncoding, h]

theorem tellEncoding_of_content {value kind : Text}
    (hcharset : attributes.get? "charset".toList = none)
    (hcontent : attributes.get? content = some value)
    (hkind : attributes.get? httpEquiv = some kind)
    (htype : Text.lower kind = "content-type".toList) :
    attributes.tellEncoding = attributes.set content (renameCharset true 0 value) := by
  simp only [tellEncoding, hcharset, hcontent, hkind, htype, if_true]

/-- Attributes tell no encoding, tell it by one of their own, or tell it in the content that they
give for the page. -/
theorem tellEncoding_cases (attributes : Attributes) :
    attributes.tellEncoding = attributes ∨
      (∃ value, attributes.get? "charset".toList = some value) ∨
      ∃ value kind, attributes.get? "charset".toList = none ∧
        attributes.get? content = some value ∧ attributes.get? httpEquiv = some kind ∧
        Text.lower kind = "content-type".toList := by
  unfold tellEncoding
  dsimp only
  split
  · next value hcharset => exact .inr (.inl ⟨value, hcharset⟩)
  · next value kind hcharset hcontent hkind =>
    split
    · next htype => exact .inr (.inr ⟨value, kind, hcharset, hcontent, hkind, htype⟩)
    · exact .inl rfl
  · exact .inl rfl

theorem set_set_agree (attributes : Attributes) (name value later : Text) :
    ((attributes.set name value).set name later).Agree (fun _ => True)
      (attributes.set name later) := by
  intro other _
  simp only [get?_set]
  split <;> rfl

/-- An encoding that has been told is told again. -/
theorem tellEncoding_tellEncoding (attributes : Attributes) :
    attributes.tellEncoding.tellEncoding.Agree (fun _ => True) attributes.tellEncoding := by
  rcases tellEncoding_cases attributes with
    hnone | ⟨value, hcharset⟩ | ⟨value, kind, hcharset, hcontent, hkind, htype⟩
  · rw [hnone, hnone]
    exact .refl _
  · have hagain : (attributes.set "charset".toList encoding).get? "charset".toList =
        some encoding := by rw [get?_set, if_pos rfl]
    rw [tellEncoding_of_charset hcharset, tellEncoding_of_charset hagain]
    exact set_set_agree _ _ _ _
  · have hdiffers : "charset".toList ≠ content ∧ httpEquiv ≠ content := by decide
    rw [tellEncoding_of_content hcharset hcontent hkind htype]
    have hcharset' : (attributes.set content (renameCharset true 0 value)).get?
        "charset".toList = none := by rw [get?_set, if_neg hdiffers.1, hcharset]
    have hcontent' : (attributes.set content (renameCharset true 0 value)).get? content =
        some (renameCharset true 0 value) := by rw [get?_set, if_pos rfl]
    have hkind' : (attributes.set content (renameCharset true 0 value)).get? httpEquiv =
        some kind := by rw [get?_set, if_neg hdiffers.2, hkind]
    rw [tellEncoding_of_content hcharset' hcontent' hkind' htype, renameCharset_renameCharset]
    exact set_set_agree _ _ _ _

theorem told_congr (hfirst : first.Legible element) (hsecond : second.Legible element)
    (h : first.Agree (fun _ => True) second) : first.told element = second.told element := by
  unfold told
  split
  · next hmeta =>
    subst hmeta
    exact sort_eq_of_perm (perm_of_agree hfirst.tellEncoding.distinct hsecond.tellEncoding.distinct
      (tellEncoding_agree h)) hfirst.tellEncoding.distinct
  · exact sort_eq_of_perm (perm_of_agree hfirst.distinct hsecond.distinct h) hfirst.distinct

theorem told_told (h : attributes.Legible element) :
    (attributes.told element).told element = attributes.told element := by
  by_cases hmeta : element = "meta".toList
  · subst hmeta
    have hdistinct := h.tellEncoding.distinct
    have hsorted := agree_of_perm h.tellEncoding.sort.distinct attributes.tellEncoding.sort_perm
    have hagain := (tellEncoding_agree hsorted).trans (tellEncoding_tellEncoding attributes)
    simp only [told, if_true]
    exact sort_eq_of_perm (perm_of_agree h.tellEncoding.sort.tellEncoding.distinct hdistinct hagain)
      h.tellEncoding.sort.tellEncoding.distinct
  · simp only [told, if_neg hmeta]
    exact sort_eq_of_perm attributes.sort_perm h.sort.distinct

/-- Attributes of different names are kept in their places. -/
theorem merge_eq (h : (attributes.map Prod.fst).Nodup) : attributes.merge = attributes := by
  have hset {merged : Attributes} {name value : Text} (hname : name ∉ merged.map Prod.fst) :
      merged.set name value = merged ++ [(name, value)] := by
    induction merged with
    | nil => rfl
    | cons entry rest ih =>
      obtain ⟨hfirst, hrest⟩ := not_or.mp (List.mem_cons.not.mp hname)
      rw [set, if_neg (Ne.symm hfirst), ih hrest, List.cons_append]
  have hfold : ∀ given merged : Attributes, ((merged ++ given).map Prod.fst).Nodup →
      given.foldl (fun merged entry => set entry.1 entry.2 merged) merged = merged ++ given := by
    intro given
    induction given with
    | nil => exact fun merged _ => (List.append_nil merged).symm
    | cons first rest ih =>
      intro merged hdistinct
      have hname : first.1 ∉ merged.map Prod.fst := by
        rw [List.map_append, List.nodup_append] at hdistinct
        exact fun hmem => hdistinct.2.2 _ hmem _ List.mem_cons_self rfl
      rw [List.append_cons] at hdistinct
      rw [List.foldl_cons, hset hname, ih _ hdistinct, ← List.append_cons]
  exact hfold attributes [] h

end Attributes

open Attributes

variable {element : Text} {attributes : Attributes}

/-- An element that has been read keeps its attributes as they are. -/
theorem keptAttributes_eq (h : attributes.Legible element) :
    Builder.keptAttributes element attributes = attributes := by
  rw [Builder.keptAttributes, merge_eq h.distinct, List.map_congr_left, List.map_id]
  intro entry hentry
  cases hlists : Builder.listsWords element entry.1 with
  | false => simp [hlists]
  | true => simp [hlists, h.spaced entry hentry hlists]

/-- The attributes of an element that has been written and read are written as before. -/
theorem writtenAttributes_kept (h : attributes.Legible element) :
    writtenAttributes element (Builder.keptAttributes element (attributes.told element)) =
      writtenAttributes element attributes := by
  rw [keptAttributes_eq h.told, writtenAttributes_eq, writtenAttributes_eq, told_told h]

theorem writtenAttributes_congr {first second : Attributes} (hfirst : first.Legible element)
    (hsecond : second.Legible element) (h : first.Agree (fun _ => True) second) :
    writtenAttributes element first = writtenAttributes element second := by
  rw [writtenAttributes_eq, writtenAttributes_eq, told_congr hfirst hsecond h]

end TitleSieve.Markup
