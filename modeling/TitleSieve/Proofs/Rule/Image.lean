import TitleSieve.Proofs.Rule.Joining

/-!
The rules that are read from texts. A rule of this kind is known by its groups: each has a source
that is a segment by itself, and one term, which is what the source is read as. Such a rule is read
from the sources of its groups with separators between them, so these rules are all that reading
gives, and each is given.
-/

namespace TitleSieve

open Text Pattern

namespace Rule

/-- The body of a pattern is what stands between its two slashes, and it is not empty. -/
theorem patternBody?_eq_some_iff {segment body : Text} :
    patternBody? segment = some body ↔ body ≠ [] ∧ segment = '/' :: (body ++ ['/']) := by
  constructor
  · intro h
    unfold patternBody? at h
    split at h
    · rename_i hform
      simp only [Bool.and_eq_true, decide_eq_true_eq, beq_iff_eq] at hform
      obtain ⟨⟨hlength, hfirst⟩, hlast⟩ := hform
      obtain rfl := Option.some.inj h
      cases segment with
      | nil => simp at hfirst
      | cons c rest =>
        obtain rfl : c = '/' := by simpa using hfirst
        have hrest : rest ≠ [] := by
          rintro rfl
          simp at hlength
        have hend : rest.getLast? = some '/' := by
          rwa [List.getLast?_cons_of_ne_nil hrest] at hlast
        have hbody : rest.dropLast ++ ['/'] = rest := List.dropLast_append_getLast? '/' hend
        have hne : rest.dropLast ≠ [] := by
          intro hnil
          rw [hnil] at hbody
          rw [← hbody] at hlength
          simp at hlength
        exact ⟨hne, by rw [List.tail_cons, hbody]⟩
    · cases h
  · rintro ⟨hne, rfl⟩
    have hlength : 2 < ('/' :: (body ++ ['/'])).length := by
      have hpos : 0 < body.length := List.length_pos_iff.mpr hne
      simp only [List.length_cons, List.length_append, List.length_nil]
      omega
    have hlast : ('/' :: (body ++ ['/'])).getLast? = some '/' := by
      rw [← List.cons_append, List.getLast?_concat]
    unfold patternBody?
    simp only [hlength, hlast, List.head?_cons, decide_true, beq_self_eq_true, Bool.and_true,
      if_true, List.tail_cons, List.dropLast_concat]

theorem patternBody?_eq_none_iff {segment : Text} :
    patternBody? segment = none ↔ ∀ body, body ≠ [] → segment ≠ '/' :: (body ++ ['/']) := by
  rw [Option.eq_none_iff_forall_ne_some]
  constructor
  · intro h body hne hsegment
    exact h body (patternBody?_eq_some_iff.mpr ⟨hne, hsegment⟩)
  · intro h body hbody
    obtain ⟨hne, hsegment⟩ := patternBody?_eq_some_iff.mp hbody
    exact h body hne hsegment

end Rule

/-- What a segment is read as. Between slashes, with something in between, stands a pattern, which
has a tree exactly if its body can be read; a body that is refused is read as nothing. Any other
segment is the list of the literals between its bars. -/
inductive Term.ReadAs (source : Text) : Term → Prop where
  | pattern {body : Text} {tree : Tree} (hbody : body ≠ [])
      (hsource : source = '/' :: (body ++ ['/'])) (htree : Tree.read body = .ok tree) :
      ReadAs source (.pattern body (some tree))
  | fallback {body : Text} {cause : Cause} {position : Option Nat} (hbody : body ≠ [])
      (hsource : source = '/' :: (body ++ ['/']))
      (hfault : Tree.read body = .error (.malformed cause position)) :
      ReadAs source (.pattern body none)
  | plain (hsource : ∀ body, body ≠ [] → source ≠ '/' :: (body ++ ['/'])) :
      ReadAs source (.plain (pieces (· == '|') source))

theorem Term.readPattern_iff {body : Text} {term : Term} :
    (∃ warnings, Term.readPattern body = .ok ⟨term, warnings⟩) ↔
      (∃ tree, Tree.read body = .ok tree ∧ term = .pattern body (some tree)) ∨
      ∃ cause position, Tree.read body = .error (.malformed cause position) ∧
        term = .pattern body none := by
  unfold Term.readPattern
  rcases Tree.read body with (⟨cause, position⟩ | excess) | tree
  · simp [eq_comm]
  · simp
  · simp [eq_comm]

theorem Term.read_iff {source : Text} {term : Term} :
    (∃ warnings, Term.read source = .ok ⟨term, warnings⟩) ↔ Term.ReadAs source term := by
  unfold Term.read
  constructor
  · intro h
    cases hform : Rule.patternBody? source with
    | none =>
      rw [hform] at h
      obtain ⟨warnings, hread⟩ := h
      injection hread with hread
      injection hread with hterm
      rw [← hterm]
      exact .plain (Rule.patternBody?_eq_none_iff.mp hform)
    | some body =>
      obtain ⟨hbody, hsource⟩ := Rule.patternBody?_eq_some_iff.mp hform
      rw [hform] at h
      rcases readPattern_iff.mp h with ⟨tree, htree, rfl⟩ | ⟨cause, position, hfault, rfl⟩
      · exact .pattern hbody hsource htree
      · exact .fallback hbody hsource hfault
  · intro h
    cases h with
    | pattern hbody hsource htree =>
      rw [Rule.patternBody?_eq_some_iff.mpr ⟨hbody, hsource⟩]
      exact readPattern_iff.mpr (.inl ⟨_, htree, rfl⟩)
    | fallback hbody hsource hfault =>
      rw [Rule.patternBody?_eq_some_iff.mpr ⟨hbody, hsource⟩]
      exact readPattern_iff.mpr (.inr ⟨_, _, hfault, rfl⟩)
    | plain hsource =>
      rw [Rule.patternBody?_eq_none_iff.mpr hsource]
      exact ⟨[], rfl⟩

namespace Group

/-- The group has one term, which is what its source is read as. -/
def Follows (group : Group) : Prop :=
  ∃ term, group.terms = [term] ∧ Term.ReadAs group.source term

theorem read_iff {segment : Text} {group : Group} :
    (∃ warnings, Group.read segment = .ok ⟨group, warnings⟩) ↔
      group.source = segment ∧ group.Follows := by
  unfold Group.read
  constructor
  · rintro ⟨warnings, h⟩
    rcases hterm : Term.read segment with excess | ⟨term, found⟩
    · rw [hterm] at h
      cases h
    · rw [hterm] at h
      injection h with h
      injection h with hgroup
      rw [← hgroup]
      exact ⟨rfl, term, rfl, Term.read_iff.mp ⟨found, hterm⟩⟩
  · rintro ⟨rfl, term, hterms, hread⟩
    obtain ⟨found, hterm⟩ := Term.read_iff.mpr hread
    obtain ⟨source, terms⟩ := group
    obtain rfl : terms = [term] := hterms
    exact ⟨found, by rw [hterm]⟩

/-- Segments are read as groups exactly if they are the sources of these. -/
theorem readAll_iff {segments : List Text} {groups : List Group} :
    (∃ warnings, Group.readAll segments = .ok ⟨groups, warnings⟩) ↔
      segments = groups.map Group.source ∧ ∀ group ∈ groups, group.Follows := by
  induction segments generalizing groups with
  | nil =>
    cases groups with
    | nil => simp [Group.readAll]
    | cons group rest => simp [Group.readAll]
  | cons segment more ih =>
    constructor
    · rintro ⟨warnings, h⟩
      unfold Group.readAll at h
      rcases hgroup : Group.read segment with excess | ⟨group, found⟩
      · rw [hgroup] at h
        cases h
      · rcases hrest : Group.readAll more with excess | ⟨rest, others⟩
        · rw [hgroup, hrest] at h
          cases h
        · rw [hgroup, hrest] at h
          injection h with h
          injection h with hgroups
          obtain ⟨hsource, hfollows⟩ := read_iff.mp ⟨found, hgroup⟩
          obtain ⟨hsources, hall⟩ := ih.mp ⟨others, hrest⟩
          rw [← hgroups, List.map_cons, hsource, ← hsources, List.forall_mem_cons]
          exact ⟨rfl, hfollows, hall⟩
    · rintro ⟨hsources, hall⟩
      cases groups with
      | nil => cases hsources
      | cons group rest =>
        rw [List.map_cons, List.cons.injEq] at hsources
        rw [List.forall_mem_cons] at hall
        obtain ⟨found, hgroup⟩ := read_iff.mpr ⟨hsources.1.symm, hall.1⟩
        obtain ⟨others, hrest⟩ := ih.mpr ⟨hsources.2, hall.2⟩
        refine ⟨found ++ others, ?_⟩
        unfold Group.readAll
        rw [hgroup, hrest]

/-- The source of the group is a segment by itself, and its one term is what it is read as. -/
structure Canonical (group : Group) : Prop where
  source_ne_nil : group.source ≠ []
  head_not_blank : ∀ c ∈ group.source.head?, isBlank c = false
  last_not_blank : ∀ c ∈ group.source.getLast?, isBlank c = false
  no_separator : ∀ c ∈ group.source, Rule.isSeparator c = false
  follows : group.Follows

theorem canonical_iff (group : Group) :
    group.Canonical ↔ IsPiece Rule.isSeparator group.source ∧ group.Follows := by
  rw [IsPiece, trim_eq_self_iff]
  constructor
  · intro h
    exact ⟨⟨h.source_ne_nil, ⟨h.head_not_blank, h.last_not_blank⟩, h.no_separator⟩, h.follows⟩
  · rintro ⟨⟨hne, ⟨hhead, hlast⟩, hsep⟩, hfollows⟩
    exact ⟨hne, hhead, hlast, hsep, hfollows⟩

end Group

namespace Rule

/-- A rule is read exactly from the texts whose segments are the sources of its groups. -/
theorem read_iff {raw : Text} {rule : Rule} :
    (∃ warnings, Rule.read raw = .ok ⟨rule, warnings⟩) ↔
      segments raw = rule.groups.map Group.source ∧ ∀ group ∈ rule.groups, group.Follows := by
  rw [← Group.readAll_iff]
  unfold Rule.read
  rcases Group.readAll (segments raw) with excess | ⟨groups, found⟩
  · simp
  · obtain ⟨given⟩ := rule
    simp

/-- Every group could be read by itself. -/
def Canonical (rule : Rule) : Prop := ∀ group ∈ rule.groups, group.Canonical

theorem canonical_of_read {raw : Text} {rule : Rule} {warnings : List Warning}
    (h : Rule.read raw = .ok ⟨rule, warnings⟩) : rule.Canonical := by
  obtain ⟨hsegments, hfollows⟩ := read_iff.mp ⟨warnings, h⟩
  intro group hgroup
  have hsource : group.source ∈ segments raw := by
    rw [hsegments]
    exact List.mem_map_of_mem hgroup
  have hpiece : IsPiece isSeparator group.source := isPiece_of_mem_pieces hsource
  exact (Group.canonical_iff group).mpr ⟨hpiece, hfollows group hgroup⟩

/-- The sources of such a rule, with separators between them, are read as the rule. -/
theorem Canonical.read_joinWith {rule : Rule} (h : rule.Canonical) {c : Char}
    (hc : isSeparator c = true) :
    ∃ warnings, Rule.read (joinWith [c] (rule.groups.map Group.source)) = .ok ⟨rule, warnings⟩ := by
  have hpieces : ∀ source ∈ rule.groups.map Group.source, IsPiece isSeparator source := by
    intro source hsource
    obtain ⟨group, hgroup, rfl⟩ := List.mem_map.mp hsource
    exact ((Group.canonical_iff group).mp (h group hgroup)).1
  have hsegments : segments (joinWith [c] (rule.groups.map Group.source)) =
      rule.groups.map Group.source :=
    pieces_joinWith isSeparator_of_isBlank hc rfl _ hpieces
  exact read_iff.mpr ⟨hsegments, fun group hgroup => (h group hgroup).follows⟩

/-- A group by itself is read from its source. -/
theorem read_source_of_canonical {group : Group} (h : group.Canonical) :
    ∃ warnings, Rule.read group.source = .ok ⟨⟨[group]⟩, warnings⟩ := by
  have halone : Canonical ⟨[group]⟩ := by
    intro other hother
    rwa [List.mem_singleton.mp hother]
  exact halone.read_joinWith (c := ';') (by decide)

/-- A text is read as the rule that every title meets exactly if it holds nothing but blanks and
separators. -/
theorem read_matchesAll_iff (raw : Text) :
    (∃ warned, Rule.read raw = .ok warned ∧ warned.value.matchesAll = true) ↔
      ∀ c ∈ raw, isBlank c = true ∨ isSeparator c = true := by
  have hnil := pieces_eq_nil_iff isSeparator_of_isBlank raw
  rw [← hnil]
  constructor
  · rintro ⟨⟨rule, warnings⟩, hread, hall⟩
    have hgroups : rule.groups = [] := List.isEmpty_iff.mp hall
    have hsegments := (read_iff.mp ⟨warnings, hread⟩).1
    rw [hgroups] at hsegments
    exact hsegments
  · intro hsegments
    have hread : ∃ warnings, Rule.read raw = .ok ⟨everything, warnings⟩ :=
      read_iff.mpr ⟨hsegments, by simp [everything]⟩
    obtain ⟨warnings, hread⟩ := hread
    exact ⟨_, hread, rfl⟩

/-- Reading gives a rule exactly if each of its groups has a source that is not empty, has no blank
at either end and no separator, and as its one term what this source is read as. Such a rule is
read from its sources with separators of either width between them, and each of its groups is what
its source alone is read as. A text is read as the rule that every title meets exactly if it holds
nothing but blanks and separators. -/
theorem exists_read_iff_canonical (rule : Rule) :
    ((∃ raw warnings, Rule.read raw = .ok ⟨rule, warnings⟩) ↔ rule.Canonical) ∧
      (rule.Canonical →
        (∀ c, isSeparator c = true → ∃ warnings,
          Rule.read (joinWith [c] (rule.groups.map Group.source)) = .ok ⟨rule, warnings⟩) ∧
        ∀ group ∈ rule.groups, ∃ warnings, Rule.read group.source = .ok ⟨⟨[group]⟩, warnings⟩) ∧
      ∀ raw, (∃ warned, Rule.read raw = .ok warned ∧ warned.value.matchesAll = true) ↔
        ∀ c ∈ raw, isBlank c = true ∨ isSeparator c = true := by
  refine ⟨⟨?_, ?_⟩, ?_, read_matchesAll_iff⟩
  · rintro ⟨raw, warnings, hread⟩
    exact canonical_of_read hread
  · intro h
    obtain ⟨warnings, hread⟩ := h.read_joinWith (c := ';') (by decide)
    exact ⟨_, warnings, hread⟩
  · intro h
    exact ⟨fun c hc => h.read_joinWith hc,
      fun group hgroup => read_source_of_canonical (h group hgroup)⟩

/-- A pattern that cannot be read, and two slashes with nothing in between, which are a literal. -/
def slashes : Rule :=
  ⟨[⟨"/[/".toList, [.pattern ['['] none]⟩, ⟨"//".toList, [.plain ["//".toList]]⟩]⟩

/-- Read from a text with blanks and an empty segment, and again from its sources. -/
theorem exists_read_iff_canonical_slashes :
    slashes.Canonical ∧ (∃ warnings, Rule.read "/[/；//".toList = .ok ⟨slashes, warnings⟩) ∧
      ∃ warnings, Rule.read "//".toList =
        .ok ⟨⟨[⟨"//".toList, [.plain ["//".toList]]⟩]⟩, warnings⟩ := by
  have hread : Rule.read " ;/[/ ; //\n".toList =
      .ok ⟨slashes, [⟨['['], .unterminatedSet, some 0⟩]⟩ := by decide
  have hmember : ⟨"//".toList, [.plain ["//".toList]]⟩ ∈ slashes.groups := by simp [slashes]
  obtain ⟨hiff, hback, -⟩ := exists_read_iff_canonical slashes
  have hcanonical : slashes.Canonical := hiff.mp ⟨_, _, hread⟩
  obtain ⟨hjoined, hsingle⟩ := hback hcanonical
  exact ⟨hcanonical, hjoined '；' (by decide), hsingle _ hmember⟩

end Rule

end TitleSieve
