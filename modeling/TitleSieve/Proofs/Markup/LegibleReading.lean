import TitleSieve.Proofs.Markup.Endings
import TitleSieve.Proofs.Markup.LegibleBuilding
import TitleSieve.Proofs.Scanning
import TitleSieve.Proofs.Text.Lowered

/-!
Every page that is read is legible. Whatever a construct turns out to be, its events are legible;
so a builder that takes the events of a reading as they come stays legible, up to verbatim text that
is still open, and the page it finishes is legible.
-/

namespace TitleSieve.Markup

open Event StartTag

/-- What has a property that no mark has which ends a tag's name belongs to the name. -/
theorem isTagNameChar_of {p : Char → Prop}
    (hmarks : ∀ mark ∈ ['\t', '\n', '\r', '\x0c', ' ', '/', '>', '\x00'], ¬ p mark)
    {c : Char} (h : p c) : isTagNameChar c = true := by
  rw [isTagNameChar, Bool.not_eq_true', ← Bool.not_eq_true, List.contains_iff_mem]
  exact fun hmem => hmarks c hmem h

theorem ne_of_isLetterOrBeyond {c mark : Char} (h : Text.IsLetterOrBeyond c.toNat)
    (hmark : ¬ Text.IsLetterOrBeyond mark.toNat) : c ≠ mark := by
  rintro rfl
  exact hmark h

theorem isGap_of_isLetterOrBeyond {c : Char} (h : Text.IsLetterOrBeyond c.toNat) :
    isGap c = false := by
  have hslash : (c == '/') = false := by simpa using ne_of_isLetterOrBeyond h (by decide)
  rw [isGap, hslash, Bool.or_false]
  exact h.2

theorem isAttributeNameChar_of_isLetterOrBeyond {c : Char} (h : Text.IsLetterOrBeyond c.toNat) :
    isAttributeNameChar c = true := by
  have hequals : c ≠ '=' := ne_of_isLetterOrBeyond h (by decide)
  have hbracket : c ≠ '>' := ne_of_isLetterOrBeyond h (by decide)
  simp [isAttributeNameChar, isGap_of_isLetterOrBeyond h, hequals, hbracket]

theorem isAsciiLetter_of_toNat {c : Char}
    (h : (97 ≤ c.toNat ∧ c.toNat ≤ 122) ∨ (65 ≤ c.toNat ∧ c.toNat ≤ 90)) :
    isAsciiLetter c = true := by
  rcases h with ⟨hfirst, hlast⟩ | ⟨hfirst, hlast⟩
  · exact Bool.or_eq_true_iff.mpr (.inl (Bool.and_eq_true_iff.mpr
      ⟨decide_eq_true hfirst, decide_eq_true hlast⟩))
  · exact Bool.or_eq_true_iff.mpr (.inr (Bool.and_eq_true_iff.mpr
      ⟨decide_eq_true hfirst, decide_eq_true hlast⟩))

theorem isAsciiLetter_toLower {c : Char} (h : isAsciiLetter c = true) :
    isAsciiLetter c.toLower = true := by
  have hc := toNat_of_isAsciiLetter h
  apply isAsciiLetter_of_toNat
  rw [Text.toNat_toLower, Pattern.lowerAscii]
  simp only [Bool.and_eq_true, decide_eq_true_eq]
  split <;> omega

theorem isTagName_lower {c : Char} (hc : isAsciiLetter c = true) (t : Text) :
    IsTagName (Text.lower ((c :: t).takeWhile isTagNameChar)) where
  begins := by
    have hcode := toNat_of_isAsciiLetter hc
    have htag : isTagNameChar c = true := isTagNameChar_of (p := (isAsciiLetter · = true))
      (List.all_iff_forall_prop.mp (by decide)) hc
    have hplain : Text.IsPlain c := by
      unfold Text.IsPlain
      omega
    rw [List.takeWhile_cons, if_pos htag, Text.lower, Text.lowerFrom, hplain.lowerAt_eq]
    exact ⟨c.toLower, _, rfl, isAsciiLetter_toLower hc⟩
  chars d hd := by
    rcases Text.eq_or_letter_of_mem_lowerFrom hd with hmem | hletter
    · exact List.all_eq_true.mp (List.all_takeWhile) d hmem
    · exact isTagNameChar_of (p := fun d => Text.IsLetterOrBeyond d.toNat)
        (List.all_iff_forall_prop.mp (by decide)) hletter
  lowered := Text.lower_lower _

theorem isAttributeName_lower {first : Char} (hgap : isGap first = false) (hbracket : first ≠ '>')
    (t : Text) : IsAttributeName (Text.lower (first :: t.takeWhile isAttributeNameChar)) where
  begins := by
    obtain ⟨head, left, heq, hhead, hleft⟩ :=
      Text.exists_lower_cons first (t.takeWhile isAttributeNameChar)
    refine ⟨head, left, heq, ?_, ?_, fun d hd => ?_⟩
    · rcases hhead with rfl | hletter
      · exact hgap
      · exact isGap_of_isLetterOrBeyond hletter
    · rcases hhead with rfl | hletter
      · exact hbracket
      · exact ne_of_isLetterOrBeyond hletter (by decide)
    · rcases hleft d hd with hmem | hletter
      · exact List.all_eq_true.mp List.all_takeWhile d hmem
      · exact isAttributeNameChar_of_isLetterOrBeyond hletter
  lowered := Text.lower_lower _

def TagReading.Named : TagReading → Prop
  | .complete attributes _ _ => attributes.Named
  | _ => True

namespace StartTag

theorem named_readAttribute {state : State} {first : Char} (h : state.attributes.Named)
    (hgap : isGap first = false) (hbracket : first ≠ '>') (t : Text) :
    (readAttribute state first t).1.attributes.Named := by
  have hname := isAttributeName_lower hgap hbracket t
  unfold readAttribute
  dsimp only
  split <;> exact List.forall_mem_cons.mpr ⟨hname, h⟩

theorem named_of_more {state next : State} {t rest : Text} (h : state.attributes.Named)
    (hstep : step state t = .ok (.more next rest)) : next.attributes.Named := by
  unfold step at hstep
  split at hstep
  · cases hstep
  · cases hstep
  · next c left hbracket _ =>
    split at hstep
    · cases hstep
      exact h
    · next hgap =>
      split at hstep
      · cases hstep
        refine named_readAttribute h (by simpa using hgap) ?_ left
        rintro rfl
        exact hbracket rfl
      · split at hstep <;> cases hstep
  · cases hstep

theorem named_of_done {state : State} {t : Text} {result : TagReading}
    (h : state.attributes.Named) (hstep : step state t = .ok (.done result)) : result.Named := by
  have hreverse : Attributes.Named state.attributes.reverse :=
    fun entry hentry => h entry (List.mem_reverse.mp hentry)
  unfold step at hstep
  split at hstep
  · cases hstep
    exact hreverse
  · cases hstep
    exact hreverse
  · split at hstep
    · cases hstep
    · split at hstep
      · cases hstep
      · split at hstep <;> cases hstep <;> trivial
  · cases hstep
    trivial

theorem named_of_read {name t : Text} {result : TagReading}
    (h : StartTag.read name t = .ok result) : result.Named := by
  refine scanFrom_induction (p := fun state _ => state.attributes.Named)
    (fun hstate hstep => named_of_more hstate hstep)
    (fun hstate hstep => named_of_done hstate hstep) ?_ (by simp [Attributes.Named]) h
  intro state result _ hend
  cases hend
  trivial

theorem named_unescapeAll {attributes unescaped : Attributes} (h : attributes.Named)
    (hunescape : unescapeAll attributes = .ok unescaped) : unescaped.Named := by
  induction attributes generalizing unescaped with
  | nil =>
    cases hunescape
    exact h
  | cons entry rest ih =>
    obtain ⟨name, value⟩ := entry
    obtain ⟨hname, hrest⟩ := List.forall_mem_cons.mp h
    unfold unescapeAll at hunescape
    split at hunescape
    · cases hunescape
    · cases hall : unescapeAll rest with
      | error fault =>
        rw [hall] at hunescape
        cases hunescape
      | ok others =>
        rw [hall] at hunescape
        cases hunescape
        exact List.forall_mem_cons.mpr ⟨hname, ih hrest hall⟩

end StartTag

/-- The events of a construct are legible, and what it opens is verbatim text. -/
def Event.Construct.Legible : Construct → Prop
  | .read events _ => ∀ event ∈ events, event.Legible ∧ event.OpensNone
  | .opened event name _ =>
    isVerbatim name = true ∧ ∃ attributes, event = .opening name attributes false ∧ event.Legible
  | .unfinished => True

namespace Event

theorem legible_insertion {kind : Insertion} {content rest : Text} (h : kind.Holds content) :
    (Construct.read [.insertion kind content] rest).Legible := by
  intro event hevent
  obtain rfl := List.mem_singleton.mp hevent
  exact ⟨h, trivial⟩

theorem legible_upTo (event : Text → Event)
    (hevent : ∀ content, '>' ∉ content → (event content).Legible ∧ (event content).OpensNone)
    (t : Text) : (upTo '>' event t).Legible := by
  unfold upTo
  split
  · next hcut =>
    intro found hfound
    obtain rfl := List.mem_singleton.mp hfound
    exact hevent _ (Text.cutAt?_eq_some hcut).2
  · trivial

theorem legible_sectionEvent {brackets : Nat} (hbrackets : brackets = 1 ∨ brackets = 2)
    {t content rest : Text} (hcut : cutWhere? (endsSection? brackets) t = some (content, rest)) :
    (sectionEvent content).Legible ∧ (sectionEvent content).OpensNone := by
  have hnone {left : Text} (hleft : left <:+ content) : endsSection? brackets left = none :=
    eq_none_of_cutWhere? hcut (endsSection?_nil _) (fun h more => endsSection?_append h more) hleft
  unfold sectionEvent
  split
  · refine ⟨fun left hleft => ?_, trivial⟩
    have hsuffix : left <:+ content := hleft.trans (List.drop_suffix _ _)
    rcases hbrackets with rfl | rfl
    · rw [Option.eq_none_iff_forall_ne_some]
      intro after hafter
      obtain ⟨inner, hinner, hends⟩ := exists_endsSection?_of_succ hafter
      rw [hnone (hinner.trans hsuffix)] at hends
      cases hends
    · exact hnone hsuffix
  · exact ⟨trivial, trivial⟩

theorem legible_readSection {t : Text} {construct : Construct}
    (h : readSection t = .ok construct) : construct.Legible := by
  have hread {brackets : Nat} (hbrackets : brackets = 1 ∨ brackets = 2) {content rest : Text}
      (hcut : cutWhere? (endsSection? brackets) t = some (content, rest)) :
      (Construct.read [sectionEvent content] rest).Legible := by
    intro event hevent
    obtain rfl := List.mem_singleton.mp hevent
    exact legible_sectionEvent hbrackets hcut
  unfold readSection at h
  split at h
  · cases h
    trivial
  · split at h
    · cases h
    · dsimp only at h
      split at h
      · cases h
        trivial
      · split at h
        · split at h <;> cases h
          · exact hread (.inr rfl) ‹_›
          · trivial
        · split at h
          · split at h <;> cases h
            · exact hread (.inl rfl) ‹_›
            · trivial
          · cases h

theorem legible_readDeclaration {t : Text} {construct : Construct}
    (h : readDeclaration t = .ok construct) : construct.Legible := by
  unfold readDeclaration at h
  split at h
  · split at h
    · next hcut =>
      cases h
      exact legible_insertion fun left hleft =>
        eq_none_of_cutWhere? hcut rfl (fun h more => endsComment?_append h more) hleft
    · cases h
      trivial
  · exact legible_readSection h
  · split at h
    · cases h
      refine legible_upTo doctypeEvent (fun content hcontent => ⟨?_, trivial⟩) _
      exact fun hmem => hcontent (List.mem_of_mem_drop hmem)
    · cases h
      exact legible_upTo (.insertion .comment) (fun content hcontent =>
        ⟨Insertion.holds_of_not_mem hcontent .comment, trivial⟩) _

theorem legible_readEndTag (t : Text) : (readEndTag t).Legible := by
  have hclosing (name rest : Text) : (Construct.read [.closing name] rest).Legible := by
    intro event hevent
    obtain rfl := List.mem_singleton.mp hevent
    exact ⟨trivial, trivial⟩
  unfold readEndTag
  split
  · trivial
  · next inside rest hcut =>
    have hinside : '>' ∉ inside := (Text.cutAt?_eq_some hcut).2
    split
    · exact hclosing _ _
    · simp [Construct.Legible]
    · split
      · exact hclosing _ _
      · exact legible_insertion (Insertion.holds_of_not_mem hinside .comment)

theorem legible_readStartTag {c : Char} (hc : isAsciiLetter c = true) {t : Text}
    {construct : Construct} (h : readStartTag (c :: t) = .ok construct) : construct.Legible := by
  have hname := isTagName_lower hc t
  unfold readStartTag at h
  dsimp only at h
  split at h
  · cases h
  · cases h
    trivial
  · cases h
    intro event hevent
    obtain rfl := List.mem_singleton.mp hevent
    exact ⟨trivial, trivial⟩
  · next attributes selfClosing rest hread =>
    split at h
    · cases h
    · next unescaped hunescape =>
      have hnamed : unescaped.Named := named_unescapeAll (named_of_read hread) hunescape
      split at h
      · next hopens =>
        cases h
        obtain ⟨hself, hverbatim⟩ := Bool.and_eq_true_iff.mp hopens
        obtain rfl : selfClosing = false := by simpa using hself
        exact ⟨hverbatim, unescaped, rfl, hname, hnamed⟩
      · next hopens =>
        cases h
        intro event hevent
        obtain rfl := List.mem_singleton.mp hevent
        refine ⟨⟨hname, hnamed⟩, ?_⟩
        cases hself : selfClosing
        · exact .inr (by simpa [hself, isVerbatim] using hopens)
        · exact .inl rfl

theorem legible_readConstruct {t : Text} {construct : Construct}
    (h : readConstruct t = .ok construct) : construct.Legible := by
  unfold readConstruct at h
  split at h
  · cases h
    trivial
  · cases h
    exact legible_readEndTag _
  · exact legible_readDeclaration h
  · cases h
    exact legible_upTo (.insertion .instruction) (fun content hcontent => ⟨hcontent, trivial⟩) _
  · split at h
    · next hc => exact legible_readStartTag hc h
    · cases h
      intro event hevent
      obtain rfl := List.mem_singleton.mp hevent
      exact ⟨trivial, trivial⟩

end Event

end TitleSieve.Markup
