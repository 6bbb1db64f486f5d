import TitleSieve.Proofs.Pattern.Escapes
import TitleSieve.Proofs.Pattern.BoundsAndFlags

/-!
Why a pattern is refused. Every step of the reader keeps what is known of its flags, that they have
been set by the text, and is refused only for an excess that shows in the text. So a pattern in
which no excess shows is read or has a fault.
-/

namespace TitleSieve.Pattern

variable {tokens : List Token}

namespace Reader

/-- The flags in force have been set by what is written in the text. -/
structure Shows (text : Text) (reader : Reader) : Prop where
  frame_ascii : reader.frame.flags.ascii = true → ShowsFlag .ascii text
  outer_ascii : ∀ frame ∈ reader.outer, frame.flags.ascii = true → ShowsFlag .ascii text
  unicode : reader.asksUnicode = true → ShowsFlag .unicode text

/-- The reader goes on in the same tokens, and its flags have been set by them. -/
def StepsOn (tokens : List Token) (src : Source) (result : Reader × Source) : Prop :=
  result.1.Shows (textOf tokens) ∧ result.2.tokens <:+ src.tokens

variable {reader : Reader} {src : Source}

theorem StepsOn.trans {between : Source} {result : Reader × Source}
    (h : StepsOn tokens between result) (hbetween : between.tokens <:+ src.tokens) :
    StepsOn tokens src result := ⟨h.1, h.2.trans hbetween⟩

theorem shows_initial (text : Text) : initial.Shows text :=
  ⟨(nomatch ·), by simp [initial], (nomatch ·)⟩

theorem Shows.same {text : Text} {next : Reader} (h : reader.Shows text)
    (hflags : next.frame.flags = reader.frame.flags) (houter : next.outer = reader.outer)
    (hunicode : next.asksUnicode = reader.asksUnicode) : next.Shows text :=
  ⟨hflags ▸ h.frame_ascii, houter ▸ h.outer_ascii, hunicode ▸ h.unicode⟩

theorem Shows.opened {text : Text} {next : Reader} (h : reader.Shows text)
    (hflags : next.frame.flags.ascii = true → ShowsFlag .ascii text)
    (houter : next.outer = reader.frame :: reader.outer)
    (hunicode : next.asksUnicode = reader.asksUnicode) : next.Shows text := by
  refine ⟨hflags, ?_, hunicode ▸ h.unicode⟩
  rw [houter]
  exact List.forall_mem_cons.mpr ⟨h.frame_ascii, h.outer_ascii⟩

theorem Shows.closeInto {text : Text} (h : reader.Shows text) {parent : Frame} {outer : List Frame}
    (houter : reader.outer = parent :: outer) : (reader.closeInto parent outer).Shows text := by
  have hall := h.outer_ascii
  rw [houter, List.forall_mem_cons] at hall
  exact ⟨hall.1, hall.2, h.unicode⟩

theorem Shows.endAlternative {text : Text} (h : reader.Shows text) (position : Nat) :
    Ensures (ShownIn tokens) (Shows text) (reader.endAlternative position) := by
  unfold Reader.endAlternative
  simp only
  split
  · exact ensures_ok (h.same rfl rfl rfl)
  · exact ensures_malformed ..
  · exact ensures_ok (h.same rfl rfl rfl)

theorem ensures_checkReference (index position : Nat) :
    Ensures (ShownIn tokens) (fun _ => True) (reader.checkReference index position) := by
  unfold checkReference
  split
  · exact ensures_ok trivial
  · split
    · exact ensures_malformed ..
    · split
      · exact ensures_malformed ..
      · exact ensures_ok trivial

theorem ensures_checkGroupName (name : Text) (src : Source) :
    Ensures (ShownIn tokens) (fun _ => True) (checkGroupName name src) := by
  unfold checkGroupName
  split
  · exact ensures_ok trivial
  · exact ensures_malformed ..

theorem ensures_stepEscape {letter : Char} (hreader : reader.Shows (textOf tokens))
    (h : .escaped letter :: src.tokens <:+: tokens) :
    Ensures (ShownIn tokens) (StepsOn tokens src) (reader.stepEscape letter src) := by
  have hpushed : ∀ item, (reader.push item).Shows (textOf tokens) :=
    fun item => hreader.same rfl rfl rfl
  unfold stepEscape
  refine (ensures_readEscape h).bind fun result hrest => ?_
  obtain ⟨escape, rest⟩ := result
  cases escape with
  | code n => exact ensures_pure ⟨hpushed _, hrest⟩
  | kind which negated => exact ensures_pure ⟨hpushed _, hrest⟩
  | textStart => exact ensures_pure ⟨hpushed _, hrest⟩
  | textEnd => exact ensures_pure ⟨hpushed _, hrest⟩
  | wordEdge negated => exact ensures_pure ⟨hpushed _, hrest⟩
  | reference index digits =>
    simp only
    split
    · exact ensures_malformed ..
    · split
      · exact ensures_malformed ..
      · exact (ensures_checkReference ..).bind fun _ _ => ensures_pure ⟨hpushed _, hrest⟩

theorem ensures_repeatLast {least : Nat} {most : Option Nat} {body : Tree} {rest : List Item}
    (hreader : reader.Shows (textOf tokens)) :
    Ensures (ShownIn tokens) (StepsOn tokens src) (reader.repeatLast least most body rest src) := by
  unfold repeatLast
  refine (ensures_readGreed src).bind fun result hrest => ?_
  exact ensures_pure ⟨hreader.same rfl rfl rfl, hrest⟩

theorem ensures_stepRepeat {least : Nat} {most : Option Nat} {here : Nat}
    (hreader : reader.Shows (textOf tokens)) :
    Ensures (ShownIn tokens) (StepsOn tokens src) (reader.stepRepeat least most here src) := by
  unfold stepRepeat
  split
  · exact ensures_malformed ..
  · exact ensures_repeatLast hreader
  · split
    · exact ensures_malformed ..
    · exact ensures_malformed ..
    · exact ensures_repeatLast hreader

theorem ensures_stepNamed {start : Nat} (hreader : reader.Shows (textOf tokens)) :
    Ensures (ShownIn tokens) (StepsOn tokens src) (reader.stepNamed start src) := by
  unfold stepNamed
  refine (Source.ensures_accept src '<').bind fun result hnaming => ?_
  obtain ⟨naming, rest⟩ := result
  simp only
  split
  · refine (ensures_nameUntil rest '>' "group name").bind fun result hname => ?_
    refine (ensures_checkGroupName ..).bind fun _ _ => ?_
    split
    · exact ensures_malformed ..
    · exact ensures_pure ⟨hreader.opened hreader.frame_ascii rfl rfl,
        List.IsSuffix.trans hname hnaming.suffix⟩
  · refine (Source.ensures_accept src '=').bind fun result hreferring => ?_
    obtain ⟨referring, rest⟩ := result
    simp only
    split
    · refine (ensures_nameUntil rest ')' "group name").bind fun result hname => ?_
      refine (ensures_checkGroupName ..).bind fun _ _ => ?_
      split
      · exact ensures_malformed ..
      · split
        · exact ensures_malformed ..
        · refine (ensures_checkReference ..).bind fun _ _ => ?_
          exact ensures_pure ⟨hreader.same rfl rfl rfl,
            List.IsSuffix.trans hname hreferring.suffix⟩
    · refine (Source.ensures_get src).bind fun result _ => ?_
      split <;> exact ensures_malformed ..

theorem ensures_stepCondition {start : Nat} (hreader : reader.Shows (textOf tokens)) :
    Ensures (ShownIn tokens) (StepsOn tokens src) (reader.stepCondition start src) := by
  unfold stepCondition
  refine (ensures_nameUntil src ')' "group name").bind fun result hname => ?_
  simp only
  split
  · split
    · exact ensures_malformed ..
    · refine (ensures_checkReference ..).bind fun _ _ => ?_
      exact ensures_pure ⟨hreader.opened hreader.frame_ascii rfl rfl, hname⟩
  · split
    · exact ensures_malformed ..
    · split
      · trivial
      · split
        · trivial
        · refine (ensures_checkReference ..).bind fun _ _ => ?_
          exact ensures_pure ⟨hreader.opened hreader.frame_ascii rfl rfl, hname⟩

/-- Going past the next token of a kind goes on in the same tokens. -/
theorem ensures_scanPast (last : Token) {atEnd : Unit → Nat → Reading Source}
    (hend : ∀ position, Ensures (ShownIn tokens) (fun rest => rest.tokens <:+ src.tokens)
      (atEnd () position)) :
    Ensures (ShownIn tokens) (fun rest => rest.tokens <:+ src.tokens)
      (src.scan () (fun _ here => do
        let (token, rest) ← here.get
        if token = some last then return .done rest else return .more () rest) atEnd) := by
  refine Source.ensures_scan src.Trails (fun _ here hhere hne => ?_)
    (fun _ position _ => hend position) List.suffix_rfl
  refine (Source.ensures_get here).bind fun result hresult => ?_
  obtain ⟨token, rest⟩ := result
  have hrest := hresult.suffix.trans hhere
  simp only
  split
  · exact ensures_pure hrest
  · exact ensures_pure ⟨hresult.suffix_tail hne, hrest⟩

theorem ensures_skipComment (start : Nat) (src : Source) :
    Ensures (ShownIn tokens) (fun rest => rest.tokens <:+ src.tokens) (skipComment start src) :=
  ensures_scanPast (.plain ')') fun _ => ensures_malformed ..

theorem ensures_skipLine (src : Source) :
    Ensures (ShownIn tokens) (fun rest => rest.tokens <:+ src.tokens) (skipLine src) :=
  ensures_scanPast (.plain '\n') fun _ => ensures_ok List.nil_suffix

theorem ensures_stepFlags {start : Nat} {first : Char} (hreader : reader.Shows (textOf tokens))
    (hgroup : .plain '(' :: .plain '?' :: .plain first :: src.tokens <:+: tokens) :
    Ensures (ShownIn tokens) (StepsOn tokens src) (reader.stepFlags start first src) := by
  unfold stepFlags
  refine (ensures_readFlags hgroup).bind fun result hresult => ?_
  obtain ⟨setting, rest⟩ := result
  obtain ⟨hrest, hon⟩ := hresult
  cases setting with
  | group on off =>
    exact ensures_pure ⟨hreader.opened (Flags.ascii_adjust hreader.frame_ascii hon) rfl rfl, hrest⟩
  | whole on =>
    simp only
    split
    · trivial
    · refine ensures_pure ⟨⟨?_, hreader.outer_ascii, fun hasks => ?_⟩, hrest⟩
      · refine Flags.ascii_adjust hreader.frame_ascii fun flag hflag => ?_
        exact hon flag (List.mem_filter.mp hflag).1
      · rw [Bool.or_eq_true, List.contains_iff_mem] at hasks
        rcases hasks with hasks | hasks
        · exact hreader.unicode hasks
        · exact hon _ hasks

theorem ensures_stepGroup (hreader : reader.Shows (textOf tokens))
    (hgroup : .plain '(' :: src.tokens <:+: tokens) :
    Ensures (ShownIn tokens) (StepsOn tokens src) (reader.stepGroup src) := by
  unfold stepGroup
  refine (Source.ensures_accept src '?').bind fun result hextended => ?_
  have hrest := hextended.suffix
  cases hextended with
  | stayed => exact ensures_pure ⟨hreader.opened hreader.frame_ascii rfl rfl, List.suffix_rfl⟩
  | @moved rest htokens =>
    refine (Source.ensures_get rest).bind fun result hresult => ?_
    obtain ⟨token, after⟩ := result
    have hafter := hresult.suffix.trans hrest
    have hopened : ∀ next : Reader, next.frame.flags = reader.frame.flags →
        next.outer = reader.frame :: reader.outer → next.asksUnicode = reader.asksUnicode →
          StepsOn tokens src (next, after) := fun next hflags houter hunicode =>
      ⟨hreader.opened (hflags ▸ hreader.frame_ascii) houter hunicode, hafter⟩
    simp only
    split
    · exact ensures_malformed ..
    · exact (ensures_stepNamed hreader).weaken fun result h => h.trans hafter
    · exact ensures_pure (hopened _ rfl rfl rfl)
    · exact ensures_pure (hopened _ rfl rfl rfl)
    · exact ensures_pure (hopened _ rfl rfl rfl)
    · exact ensures_pure (hopened _ rfl rfl rfl)
    · exact (ensures_stepCondition hreader).weaken fun result h => h.trans hafter
    · refine (ensures_skipComment ..).bind fun last hlast => ?_
      exact ensures_pure ⟨hreader, hlast.trans hafter⟩
    · refine (Source.ensures_get after).bind fun result hlast => ?_
      obtain ⟨token, last⟩ := result
      have hlast := hlast.suffix.trans hafter
      simp only
      split
      · exact ensures_malformed ..
      · exact ensures_pure ⟨hreader.opened hreader.frame_ascii rfl rfl, hlast⟩
      · exact ensures_pure ⟨hreader.opened hreader.frame_ascii rfl rfl, hlast⟩
      · exact ensures_malformed ..
    · split
      · cases hresult with
        | token hc =>
          rw [htokens, hc] at hgroup
          exact (ensures_stepFlags hreader hgroup).weaken fun result h => h.trans hafter
      · exact ensures_malformed ..
    · exact ensures_malformed ..

theorem ensures_stepToken {token : Token} (hreader : reader.Shows (textOf tokens))
    (h : token :: src.tokens <:+: tokens) :
    Ensures (ShownIn tokens) (StepsOn tokens src) (reader.stepToken token src) := by
  have hpushed : ∀ item, StepsOn tokens src (reader.push item, src) :=
    fun item => ⟨hreader.same rfl rfl rfl, List.suffix_rfl⟩
  have hsrc : src.tokens <:+: tokens := (List.suffix_cons _ _).isInfix.trans h
  unfold stepToken
  cases token with
  | dangling => exact ensures_pure ⟨hreader, List.suffix_rfl⟩
  | escaped letter => exact ensures_stepEscape hreader h
  | plain c =>
    simp only
    split
    · exact ensures_pure ⟨hreader, List.suffix_rfl⟩
    · split
      · refine (ensures_skipLine src).bind fun rest hrest => ?_
        exact ensures_pure ⟨hreader, hrest⟩
      · split
        · refine (ensures_readSet hsrc).bind fun result hrest => ?_
          exact ensures_pure ⟨hreader.same rfl rfl rfl, hrest⟩
        · exact ensures_stepRepeat hreader
        · exact ensures_stepRepeat hreader
        · exact ensures_stepRepeat hreader
        · refine (ensures_readBounds h).bind fun bounds hbounds => ?_
          split
          · rename_i least most rest
            refine (ensures_stepRepeat hreader).weaken fun result hresult => ?_
            exact hresult.trans (hbounds least most rest rfl)
          · exact ensures_pure (hpushed _)
        · exact ensures_pure (hpushed _)
        · exact ensures_stepGroup hreader h
        · exact ensures_pure (hpushed _)
        · exact ensures_pure (hpushed _)
        · exact ensures_pure (hpushed _)

theorem ensures_finish {unbalancedAt : Option Nat} (hreader : reader.Shows (textOf tokens)) :
    Ensures (ShownIn tokens) (fun _ => True) (reader.finish unbalancedAt) := by
  unfold finish
  simp only
  split
  · rename_i hflags
    rw [Bool.and_eq_true] at hflags
    exact ensures_refused ⟨hreader.frame_ascii hflags.1, hreader.unicode hflags.2⟩
  · split
    · trivial
    · split
      · trivial
      · split <;> trivial

/-- Between two steps the flags have been set by the text, and what is left is a part of it. -/
def Stands (tokens : List Token) (reader : Reader) (here : Source) : Prop :=
  reader.Shows (textOf tokens) ∧ here.tokens <:+: tokens

theorem ensures_step (h : Stands tokens reader src) (hne : src.tokens ≠ []) :
    Ensures (ShownIn tokens) (Move.Keeps src (Stands tokens) fun _ => True) (reader.step src) := by
  obtain ⟨hreader, hsrc⟩ := h
  have htail : src.tokens.tail <:+: tokens := (List.tail_suffix _).isInfix.trans hsrc
  unfold step
  split
  · rename_i hnil
    exact absurd hnil hne
  · split
    · exact (ensures_finish hreader).bind fun _ _ => ensures_pure trivial
    · rename_i parent outer houter
      refine (Source.ensures_advance src).bind fun rest hrest => ensures_pure ⟨?_, ?_, ?_⟩
      · rw [hrest]
      · exact hreader.closeInto houter
      · rwa [hrest]
  · refine (hreader.endAlternative src.position).bind fun next hnext => ?_
    refine (Source.ensures_advance src).bind fun rest hrest => ensures_pure ⟨?_, hnext, ?_⟩
    · rw [hrest]
    · rwa [hrest]
  · rename_i token after _ _ htokens
    refine (Source.ensures_advance src).bind fun rest hrest => ?_
    have hafter : token :: rest.tokens <:+: tokens := by
      rw [hrest, htokens, List.tail_cons, ← htokens]
      exact hsrc
    refine (ensures_stepToken hreader hafter).bind fun result hresult => ensures_pure ⟨?_, ?_⟩
    · rw [← hrest]
      exact hresult.2
    · exact ⟨hresult.1, hresult.2.isInfix.trans (hrest ▸ htail)⟩

end Reader

/-- If a pattern is refused, the reason shows in its text. -/
theorem Tree.showsIn_of_read {body : Text} {excess : Excess}
    (h : Tree.read body = .error (.refused excess)) : excess.ShowsIn body := by
  have hread : Ensures (ShownIn (Token.ofText body)) (fun _ => True) (Tree.read body) := by
    unfold Tree.read Source.ofText
    refine (Source.ensures_make 0 (Token.ofText body)).bind fun src hsrc => ?_
    refine Source.ensures_scan (Reader.Stands (Token.ofText body))
      (fun reader here hhere hne => Reader.ensures_step hhere hne)
      (fun reader position hhere => ?_) ⟨Reader.shows_initial _, hsrc ▸ List.infix_rfl⟩
    unfold Reader.atEnd
    split
    · exact Reader.ensures_finish hhere.1
    · exact ensures_malformed ..
  rw [h] at hread
  have hshown : excess.ShowsIn (textOf (Token.ofText body)) := hread
  rwa [textOf_ofText] at hshown

end TitleSieve.Pattern
