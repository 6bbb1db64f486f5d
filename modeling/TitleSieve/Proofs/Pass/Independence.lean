import Mathlib.Data.List.Forall2
import TitleSieve.Pass.Basic
import TitleSieve.Proofs.Evaluation.Replay

/-!
A pass decides every candidate on its own. What is wrong with a candidate is read off its handle,
the handles before it, and its title tried alone; the first candidate with something wrong ends
the pass, and without one the pass gives to every handle what becomes of its title alone. The
ledger that the candidates share does not show: while the pass runs it stays faithful.
-/

namespace TitleSieve.Pass

variable {H : Type} [HandleKind H]

/-- What is wrong with a candidate behind these others. Its handle is looked at before its title. -/
def faultAfter? (converter : Converter) (rule : Rule) (earlier : List (Candidate H))
    (candidate : Candidate H) : Option PassFault :=
  match HandleKind.unhashable? candidate.handle with
  | some kind => some (.unhashable kind)
  | none =>
    if earlier.any (HandleKind.repeats ·.handle candidate.handle) then
      some (.duplicate (HandleKind.quoted candidate.handle))
    else
      match rule.alone converter candidate.title with
      | .error fault => some (.evaluation fault)
      | .ok _ => none

def faultAt? (converter : Converter) (rule : Rule) (candidates : List (Candidate H))
    (place : Nat) : Option PassFault :=
  candidates[place]?.bind (faultAfter? converter rule (candidates.take place))

def Faultless (converter : Converter) (rule : Rule) (candidates : List (Candidate H)) : Prop :=
  ∀ place, faultAt? converter rule candidates place = none

def FirstFault (converter : Converter) (rule : Rule) (candidates : List (Candidate H))
    (fault : PassFault) : Prop :=
  ∃ place, faultAt? converter rule candidates place = some fault ∧
    ∀ earlier < place, faultAt? converter rule candidates earlier = none

/-- The decision has the candidate's handle and shows what becomes of its title alone. -/
def Decides {H : Type} (converter : Converter) (rule : Rule) (candidate : Candidate H)
    (decision : Decision H) : Prop :=
  decision.handle = candidate.handle ∧
    rule.alone converter candidate.title = .ok decision.visible

variable {converter : Converter} {rule : Rule} {candidates earlier rest : List (Candidate H)}

theorem faultAt?_length (candidate : Candidate H) :
    faultAt? converter rule (earlier ++ candidate :: rest) earlier.length =
      faultAfter? converter rule earlier candidate := by
  simp [faultAt?]

theorem faultAt?_of_length_le {place : Nat} (h : candidates.length ≤ place) :
    faultAt? converter rule candidates place = none := by
  simp [faultAt?, List.getElem?_eq_none h]

theorem FirstFault.unique {fault other : PassFault}
    (h : FirstFault converter rule candidates fault)
    (h' : FirstFault converter rule candidates other) : fault = other := by
  obtain ⟨place, hfault, hbefore⟩ := h
  obtain ⟨place', hother, hbefore'⟩ := h'
  rcases Nat.lt_trichotomy place place' with hlt | rfl | hlt
  · rw [hbefore' place hlt] at hfault
    cases hfault
  · exact Option.some.inj (hfault.symm.trans hother)
  · rw [hbefore place' hlt] at hother
    cases hother

theorem FirstFault.not_faultless {fault : PassFault}
    (h : FirstFault converter rule candidates fault) : ¬ Faultless converter rule candidates := by
  obtain ⟨place, hfault, -⟩ := h
  intro hnone
  rw [hnone place] at hfault
  cases hfault

omit [HandleKind H] in
/-- Each candidate gets one decision only. -/
theorem Decides.unique {candidate : Candidate H} {decision other : Decision H}
    (h : Decides converter rule candidate decision) (h' : Decides converter rule candidate other) :
    decision = other := by
  obtain ⟨handle, visible⟩ := decision
  obtain ⟨handle', visible'⟩ := other
  have hhandle : handle = handle' := h.1.trans h'.1.symm
  have hvisible : visible = visible' := Except.ok.inj (h.2.symm.trans h'.2)
  rw [hhandle, hvisible]

omit [HandleKind H] in
theorem decisions_unique {decisions others : List (Decision H)}
    (h : List.Forall₂ (Decides converter rule) candidates decisions)
    (h' : List.Forall₂ (Decides converter rule) candidates others) : decisions = others := by
  induction h generalizing others with
  | nil =>
    cases h'
    rfl
  | cons hfirst _ ih =>
    cases h' with
    | cons hfirst' hrest' => rw [hfirst.unique hfirst', ih hrest']

omit [HandleKind H] in
theorem handles_of_decides {decisions : List (Decision H)}
    (h : List.Forall₂ (Decides converter rule) candidates decisions) :
    decisions.map Decision.handle = candidates.map Candidate.handle := by
  induction h with
  | nil => rfl
  | cons hfirst _ ih => rw [List.map_cons, List.map_cons, hfirst.1, ih]

/-- The handles that have been decided are those of the candidates so far. -/
theorem any_repeats_eq {decided : List (Decision H)} (handle : H)
    (h : List.Forall₂ (Decides converter rule) earlier decided) :
    decided.any (HandleKind.repeats ·.handle handle) =
      earlier.any (HandleKind.repeats ·.handle handle) := by
  calc
    _ = (decided.map Decision.handle).any (HandleKind.repeats · handle) := by
      rw [List.any_map]; rfl
    _ = (earlier.map Candidate.handle).any (HandleKind.repeats · handle) := by
      rw [handles_of_decides h]
    _ = _ := by rw [List.any_map]; rfl

/-- How deciding ends, said of every candidate on its own. -/
def Settles (converter : Converter) (rule : Rule) (candidates : List (Candidate H)) :
    Except PassFault (List (Decision H)) → Prop
  | .error fault => FirstFault converter rule candidates fault
  | .ok decisions => Faultless converter rule candidates ∧
      List.Forall₂ (Decides converter rule) candidates decisions

/-- The candidates so far have been decided rightly and the ledger is faithful: then so it is in the
end. -/
theorem settles_decide (earlier rest : List (Candidate H)) (decided : List (Decision H))
    (ledger : Ledger)
    (hclear : ∀ place < earlier.length,
      faultAt? converter rule (earlier ++ rest) place = none)
    (hdecided : List.Forall₂ (Decides converter rule) earlier decided)
    (hledger : ledger.Faithful converter) :
    Settles converter rule (earlier ++ rest) (decide converter rule decided rest ledger).1 := by
  induction rest generalizing earlier decided ledger with
  | nil =>
    refine ⟨fun place => ?_, by simpa using hdecided⟩
    by_cases hplace : place < earlier.length
    · exact hclear place hplace
    · exact faultAt?_of_length_le (by simpa using hplace)
  | cons candidate rest ih =>
    have hhere : faultAt? converter rule (earlier ++ candidate :: rest) earlier.length =
        faultAfter? converter rule earlier candidate := faultAt?_length candidate
    have hany := any_repeats_eq candidate.handle hdecided
    unfold decide handleFault?
    unfold faultAfter? at hhere
    cases hkind : HandleKind.unhashable? candidate.handle with
    | some kind =>
      simp only [hkind] at hhere ⊢
      exact ⟨earlier.length, hhere, hclear⟩
    | none =>
      simp only [hkind, hany] at hhere ⊢
      by_cases hduplicate : earlier.any (HandleKind.repeats ·.handle candidate.handle)
      · simp only [hduplicate, if_true] at hhere ⊢
        exact ⟨earlier.length, hhere, hclear⟩
      · simp only [hduplicate] at hhere ⊢
        have hfst := rule.accepts_fst hledger candidate.title
        have hsnd := rule.accepts_snd hledger candidate.title
        rcases haccepts : rule.accepts converter candidate.title ledger with ⟨fault | visible, next⟩
        · simp only [haccepts] at hfst ⊢
          rw [← hfst] at hhere
          exact ⟨earlier.length, hhere, hclear⟩
        · simp only [haccepts] at hfst hsnd ⊢
          rw [← hfst] at hhere
          have hnext := ih (earlier ++ [candidate]) (decided ++ [⟨candidate.handle, visible⟩]) next
          simp only [List.append_assoc, List.singleton_append, List.length_append,
            List.length_singleton] at hnext
          refine hnext (fun place hplace => ?_) ?_ hsnd
          · rcases Nat.lt_succ_iff_lt_or_eq.mp hplace with hlt | rfl
            · exact hclear place hlt
            · exact hhere
          · exact List.rel_append hdecided (.cons ⟨rfl, hfst.symm⟩ .nil)

theorem ofRule_fst (converter : Converter) (rule : Rule) (candidates : List (Candidate H))
    (ledger : Ledger) :
    (ofRule converter rule candidates ledger).1 =
      (decide converter rule [] candidates ledger).1.map fun decisions =>
        ⟨decisions, summarize rule decisions⟩ := by
  unfold ofRule
  rcases decide converter rule [] candidates ledger with ⟨_ | _, _⟩ <;> rfl

theorem settles_decide_fresh (converter : Converter) (rule : Rule) (candidates : List (Candidate H))
    (caching : Bool) :
    Settles converter rule candidates (decide converter rule [] candidates (.fresh caching)).1 :=
  settles_decide [] candidates [] (.fresh caching) (by simp) .nil
    (Ledger.faithful_fresh converter caching)

theorem ofRule_eq_error_iff (converter : Converter) (rule : Rule) (candidates : List (Candidate H))
    (caching : Bool) (fault : PassFault) :
    (ofRule converter rule candidates (.fresh caching)).1 = .error fault ↔
      FirstFault converter rule candidates fault := by
  have hsettles := settles_decide_fresh converter rule candidates caching
  rw [ofRule_fst]
  cases hdecide : (decide converter rule [] candidates (.fresh caching)).1 with
  | error found =>
    rw [hdecide] at hsettles
    constructor
    · intro h
      obtain rfl : found = fault := Except.error.inj h
      exact hsettles
    · intro h
      rw [hsettles.unique h]
      rfl
  | ok decisions =>
    rw [hdecide] at hsettles
    constructor
    · intro h
      cases h
    · intro h
      exact absurd hsettles.1 h.not_faultless

/-- What a pass tells of these candidates when it gives them these decisions. -/
def Tallied {H : Type} (rule : Rule) (candidates : List (Candidate H))
    (decisions : List (Decision H)) (summary : Summary) : Prop :=
  summary.total = candidates.length ∧ summary.visible = decisions.countP Decision.visible ∧
    summary.visible + summary.hidden = summary.total ∧
    summary.groupCount = rule.groups.length ∧ summary.fallbackCount = rule.fallbackCount

omit [HandleKind H] in
theorem tallied_iff {decisions : List (Decision H)} (summary : Summary)
    (h : decisions.length = candidates.length) :
    Tallied rule candidates decisions summary ↔ summary = summarize rule decisions := by
  obtain ⟨total, visible, groupCount, fallbackCount⟩ := summary
  have hle : decisions.countP Decision.visible ≤ decisions.length := List.countP_le_length
  simp only [Tallied, summarize, Summary.hidden, Summary.mk.injEq, Rule.groupCount]
  constructor
  · rintro ⟨htotal, hvisible, -, hgroups, hfallbacks⟩
    exact ⟨htotal.trans h.symm, hvisible, hgroups, hfallbacks⟩
  · rintro ⟨htotal, hvisible, hgroups, hfallbacks⟩
    exact ⟨htotal.trans h, hvisible, by omega, hgroups, hfallbacks⟩

theorem ofRule_eq_ok_iff (converter : Converter) (rule : Rule) (candidates : List (Candidate H))
    (caching : Bool) (pass : Pass H) :
    (ofRule converter rule candidates (.fresh caching)).1 = .ok pass ↔
      Faultless converter rule candidates ∧
        List.Forall₂ (Decides converter rule) candidates pass.decisions ∧
        Tallied rule candidates pass.decisions pass.summary := by
  have hsettles := settles_decide_fresh converter rule candidates caching
  rw [ofRule_fst]
  cases hdecide : (decide converter rule [] candidates (.fresh caching)).1 with
  | error found =>
    rw [hdecide] at hsettles
    constructor
    · intro h
      cases h
    · intro h
      exact absurd h.1 hsettles.not_faultless
  | ok decisions =>
    rw [hdecide] at hsettles
    constructor
    · intro h
      obtain rfl : _ = pass := Except.ok.inj h
      exact ⟨hsettles.1, hsettles.2, (tallied_iff _ hsettles.2.length_eq.symm).mpr rfl⟩
    · rintro ⟨-, hdecides, htallied⟩
      obtain ⟨given, summary⟩ := pass
      obtain rfl : decisions = given := decisions_unique hsettles.2 hdecides
      obtain rfl := (tallied_iff summary hsettles.2.length_eq.symm).mp htallied
      rfl

theorem exists_ofRule_eq_ok (h : Faultless converter rule candidates) (caching : Bool) :
    ∃ pass, (ofRule converter rule candidates (.fresh caching)).1 = .ok pass := by
  rcases houtcome : (ofRule converter rule candidates (.fresh caching)).1 with fault | pass
  · exact absurd h ((ofRule_eq_error_iff ..).mp houtcome).not_faultless
  · exact ⟨pass, rfl⟩

theorem run_eq_ok_iff {caching : Bool} {raw : Option Text} {pass : Pass H} :
    (run converter caching raw candidates).1 = .ok pass ↔
      ∃ rule, Rule.readGiven raw = .ok rule ∧
        (ofRule converter rule.value candidates (.fresh caching)).1 = .ok pass := by
  unfold run
  cases Rule.readGiven raw with
  | error excess => simp
  | ok rule => simp

/-- A pass gives its decisions to the handles of its candidates, in their order. -/
theorem handles_of_run {caching : Bool} {raw : Option Text} {pass : Pass H}
    (h : (run converter caching raw candidates).1 = .ok pass) :
    pass.decisions.map Decision.handle = candidates.map Candidate.handle := by
  obtain ⟨rule, -, hrule⟩ := run_eq_ok_iff.mp h
  obtain ⟨-, hdecides, -⟩ := (ofRule_eq_ok_iff ..).mp hrule
  exact handles_of_decides hdecides

/-- A pass is the trial of each of its candidates alone, whatever kind of data the handles are: what
the rule's text, or else the first candidate with something wrong, has wrong with it is what is
wrong with the pass; and where nothing is wrong, every candidate has its own decision, in order, and
the counts are those of the decisions. A handle is wrong if it cannot be looked up, or if it is one
object with an earlier one or equal to it. It does not matter whether forms are kept. -/
theorem run_decides_each_alone (converter : Converter) (caching : Bool) (raw : Option Text)
    (candidates : List (Candidate H)) :
    match Rule.readGiven raw with
    | .error excess => (run converter caching raw candidates).1 = .error (.rule excess)
    | .ok rule =>
      (∀ fault, (run converter caching raw candidates).1 = .error fault ↔
        FirstFault converter rule.value candidates fault) ∧
      ((∃ pass, (run converter caching raw candidates).1 = .ok pass) ↔
        Faultless converter rule.value candidates) ∧
      ∀ pass, (run converter caching raw candidates).1 = .ok pass ↔
        Faultless converter rule.value candidates ∧
          List.Forall₂ (Decides converter rule.value) candidates pass.decisions ∧
          Tallied rule.value candidates pass.decisions pass.summary := by
  unfold run
  cases Rule.readGiven raw with
  | error excess => rfl
  | ok rule =>
    refine ⟨ofRule_eq_error_iff converter rule.value candidates caching,
      ⟨?_, fun h => exists_ofRule_eq_ok h caching⟩,
      ofRule_eq_ok_iff converter rule.value candidates caching⟩
    rintro ⟨pass, hpass⟩
    exact ((ofRule_eq_ok_iff ..).mp hpass).1

/-- It is not enough that no handle equals an earlier one: an undefined number does not equal
itself, and yet the second candidate that has it for its handle is a duplicate. -/
theorem not_decided_by_equality_of_handles :
    ¬ ∀ (converter : Converter) caching raw rule (candidates : List (Candidate (Located Handle))),
      Rule.readGiven raw = .ok rule →
      (∀ candidate ∈ candidates, HandleKind.unhashable? candidate.handle = none ∧
        ∃ visible, rule.value.alone converter candidate.title = .ok visible) →
      candidates.Pairwise (fun earlier later =>
        HandleKind.equal earlier.handle later.handle = false) →
      ∃ pass, (run converter caching raw candidates).1 = .ok pass := by
  intro h
  let undefined : Located Handle := ⟨0, .double .undefined⟩
  have hdecided := h .identity true none ⟨⟨[]⟩, []⟩ [⟨undefined, ['a']⟩, ⟨undefined, ['b']⟩] rfl
    (fun candidate hmem => ?_) ?_
  · obtain ⟨pass, hpass⟩ := hdecided
    have hduplicate : (run .identity true none
        [(⟨undefined, ['a']⟩ : Candidate (Located Handle)), ⟨undefined, ['b']⟩]).1 =
          .error (.duplicate "nan".toList) := rfl
    cases hduplicate.symm.trans hpass
  · simp only [List.mem_cons, List.not_mem_nil, or_false] at hmem
    rcases hmem with rfl | rfl <;> exact ⟨rfl, true, rfl⟩
  · simp only [List.pairwise_cons, List.mem_singleton, forall_eq, List.not_mem_nil,
      false_implies, implies_true, List.Pairwise.nil, and_true]
    rfl

end TitleSieve.Pass
